import AgentycHost.Safety.MarkedValues

set_option autoImplicit false

/-! # Secret keys in records and in texts -/

namespace AgentycHost

open Shared

/-- The text that the passes see, with its tags. -/
def boundedTags (text : List (Char × Bool)) : List (Char × Bool) :=
  (text.filter fun item => !isControl item.1).take maxObservabilityTextBytes

/-- No character of the value is left, whatever stands around it. -/
def HiddenInTexts (written value : List Char) : Prop :=
  ∀ assign, assign ∈ ["=".toList, ": ".toList] -> ∀ before after,
    ValueHidden (boundedTags (tagged (before ++ (written ++ assign)) value after))

section Guards

variable {A : Type} {char : A -> Char} {text : List A} {item : A} {marker : List Char} {markers : List (List Char)}

def Guarded (char : A -> Char) (item : A) (text : List A) : Prop :=
  ∃ front more, text = front ++ item :: more ∧
    ∀ marker, marker ∈ redactionMarkers -> ∀ early late, front = early ++ late ->
      EndsFirstWith (loweredItem char) marker early ->
        ∃ stop others, (late.dropWhile fun item => isSeparator (char item)) = stop :: others ∧
          isDelimiter (char stop) = true

theorem guarded_step (mark : List A) (listed : marker ∈ redactionMarkers) (guarded : Guarded char item text) :
    Guarded char item (redactMarkerValue char mark text marker) := by
  rcases pass_cases char mark text marker with ⟨same, _⟩ | ⟨before, separators, value, rest, cut⟩
  · rwa [same]
  · obtain ⟨front, more, whole, guards⟩ := guarded
    have split := cut.text.symm.trans whole
    rw [cut.result]
    rcases List.append_eq_append_iff.mp split with ⟨late, begins, follows⟩ | ⟨behind, begins, follows⟩
    · -- the value that the pass takes would begin with a delimiter
      obtain ⟨stop, others, left, delimiter⟩ := guards marker listed before late begins cut.first
      obtain ⟨first, rest', opens, apart⟩ := cut.value.opens
      have skipped : ((separators ++ (value ++ rest)).dropWhile fun item => isSeparator (char item)) = value ++ rest := by
        rw [List.dropWhile_append_of_pos cut.separated, opens, List.cons_append,
          List.dropWhile_cons_of_neg (by rw [apart]; decide)]
      have skipped' : ((late ++ item :: more).dropWhile fun item => isSeparator (char item)) =
          stop :: (others ++ item :: more) := by
        rw [List.dropWhile_append, left]
        rfl
      rw [follows, skipped', opens] at skipped
      have same := List.head_eq_of_cons_eq skipped
      have plain := cut.value.whole first (by rw [opens]; exact List.mem_cons_self)
      rw [← same, delimiter] at plain
      cases plain
    · cases behind with
      | nil =>
        rw [List.append_nil] at begins
        have ends : EndsFirstWith (loweredItem char) marker front := begins ▸ cut.first
        obtain ⟨stop, others, left, _⟩ := guards marker listed front [] (List.append_nil _).symm ends
        cases left
      | cons top behind =>
        obtain ⟨same, _⟩ := List.cons.inj follows
        refine ⟨front, behind ++ (separators ++ (mark ++ rest)), ?_, guards⟩
        rw [begins, same]
        simp only [List.append_assoc, List.cons_append]

theorem guarded_passes (mark : List A) (known : ∀ other, other ∈ markers -> other ∈ redactionMarkers)
    (guarded : Guarded char item text) : item ∈ markers.foldl (redactMarkerValue char mark) text := by
  induction markers generalizing text with
  | nil =>
    obtain ⟨front, more, whole, _⟩ := guarded
    rw [List.foldl_nil, whole]
    simp
  | cons marker markers ih =>
    have others (other : List Char) (among : other ∈ markers) := known other (List.mem_cons_of_mem _ among)
    exact ih others (guarded_step mark (known marker List.mem_cons_self) guarded)

end Guards

section Texts

variable {name : String} {written value : List Char}

def emptyMarkers : List Char := redactionMarkers.flatMap fun marker => marker ++ [';']

set_option maxRecDepth 4000 in
theorem emptyMarkers_stop : (redactionMarkers.all fun marker =>
    (splitAfter (loweredItem id) marker emptyMarkers).any fun parts => parts.2.head? == some ';') = true := by decide

set_option maxRecDepth 4000 in
theorem emptyMarkers_short : emptyMarkers.length ≤ 400 := by decide

set_option maxRecDepth 4000 in
theorem emptyMarkers_printable : (emptyMarkers.all fun character => !isControl character) = true := by decide

theorem emptyMarkers_guard (item : Char × Bool) (rest more : List (Char × Bool)) :
    Guarded Prod.fst item (emptyMarkers.map (·, false) ++ rest ++ item :: more) := by
  refine ⟨_, _, rfl, ?_⟩
  intro marker listed early late split first
  have stops := List.all_eq_true.mp emptyMarkers_stop marker listed
  rw [Option.any_eq_true] at stops
  obtain ⟨⟨before, after⟩, found, opens⟩ := stops
  obtain ⟨whole, first'⟩ := splitAfter_first found
  obtain ⟨others, opens⟩ : ∃ others, after = ';' :: others := List.head?_eq_some_iff.mp (eq_of_beq opens)
  have tagged' : emptyMarkers.map (·, false) = before.map (·, false) ++ after.map (·, false) := by
    rw [whole, List.map_append]
  rw [tagged', List.append_assoc] at split
  have mapped : EndsFirstWith (loweredItem Prod.fst) marker (before.map (·, false)) := first_mapped (by rwa [tags_first])
  obtain ⟨_, behind⟩ := mapped.unique first split
  rw [← behind, opens, List.map_cons, List.cons_append]
  exact ⟨(';', false), _, rfl, rfl⟩

theorem safeKey_length (name : String) : (Observability.safeKey name).length ≤ 128 := by
  unfold Observability.safeKey boundedToken
  rw [List.length_map]
  exact List.length_take_le _ _

theorem boundedTags_tagged (before value after : List Char) :
    boundedTags (tagged before value after) =
      ((before.filter fun character => !isControl character).map (·, false) ++
        ((value.filter fun character => !isControl character).map (·, true) ++
          (after.filter fun character => !isControl character).map (·, false))).take maxObservabilityTextBytes := by
  unfold boundedTags tagged
  simp only [List.filter_append, List.filter_map]
  rfl

theorem take_past {A : Type} {front : List A} (more : List A) (item : A) {count : Nat} (short : front.length < count) :
    ∃ more', (front ++ item :: more).take count = front ++ item :: more' ∧ more' ⊆ more := by
  obtain ⟨left, counted⟩ : ∃ left, count - front.length = left + 1 := ⟨count - front.length - 1, by omega⟩
  refine ⟨more.take left, ?_, List.take_subset _ _⟩
  rw [List.take_append, List.take_of_length_le (Nat.le_of_lt short), counted, List.take_succ_cons]

theorem left_behind_markers (short : written.length ≤ 128) {character : Char} (inside : character ∈ value)
    (printable : isControl character = false) : ¬ HiddenInTexts written value := by
  intro hidden
  have left := hidden "=".toList List.mem_cons_self emptyMarkers []
  obtain ⟨first, more, opens⟩ : ∃ first more, (value.filter fun character => !isControl character) = first :: more := by
    apply List.exists_cons_of_ne_nil
    apply List.ne_nil_of_mem
    exact List.mem_filter.mpr ⟨inside, by rw [printable]; rfl⟩
  have whole : (emptyMarkers.filter fun character => !isControl character) = emptyMarkers :=
    List.filter_eq_self.mpr (List.all_eq_true.mp emptyMarkers_printable)
  have fits : (emptyMarkers.map (·, false) ++
      ((written ++ "=".toList).filter fun character => !isControl character).map (·, false)).length <
        maxObservabilityTextBytes := by
    have fewer := List.length_filter_le (fun character => !isControl character) (written ++ "=".toList)
    have assign : (written ++ "=".toList).length = written.length + 1 := List.length_append
    have markers := emptyMarkers_short
    have bound : maxObservabilityTextBytes = 4096 := rfl
    rw [List.length_append, List.length_map, List.length_map]
    omega
  obtain ⟨more', bounded, _⟩ := take_past (more.map (·, true) ++ []) (first, true) fits
  rw [boundedTags_tagged, opens, List.filter_append, whole, List.map_append, List.map_cons, List.cons_append] at left
  have survives := guarded_passes taggedMark (fun _ among => among)
    (emptyMarkers_guard (first, true) (((written ++ "=".toList).filter fun character => !isControl character).map (·, false)) more')
  rw [← bounded] at survives
  exact Bool.noConfusion (left _ survives)

theorem hidden_of_controls (controls : ∀ character, character ∈ value -> isControl character = true) :
    HiddenInTexts written value := by
  intro assign among before after item left
  rcases passes_subset left with texted | marked
  · have kept := List.mem_filter.mp (List.mem_of_mem_take texted)
    unfold tagged at kept
    rw [List.mem_append, List.mem_append, List.mem_map, List.mem_map, List.mem_map] at kept
    obtain ⟨⟨_, _, rfl⟩ | ⟨character, inside, rfl⟩ | ⟨_, _, rfl⟩, printable⟩ := kept
    · rfl
    · rw [controls character inside] at printable
      cases printable
    · rfl
  · obtain ⟨_, _, rfl⟩ := List.mem_map.mp marked
    rfl

end Texts

section Agreement

def Unseparated (value : List Char) : Prop := ∀ character, character ∈ value -> isSeparator character = false

/-- What a record hides for the key is hidden in the texts. -/
def KeyAgrees (name : String) (value : List Char) : Prop :=
  Observability.isSecretKey (Observability.safeKey name) = true -> Unseparated value ->
    ∀ written, written.map Char.toLower = Observability.safeKey name -> HiddenInTexts written value

theorem toLower_twice (character : Char) : character.toLower.toLower = character.toLower := by
  by_cases small : character.toNat < 128
  · have table : ((List.range 128).all fun value =>
        (Char.ofNat value).toLower.toLower == (Char.ofNat value).toLower) = true := by decide
    have same := eq_of_beq (List.all_eq_true.mp table character.toNat (List.mem_range.mpr small))
    rwa [Char.ofNat_toNat] at same
  · rw [toLower_large (Nat.not_lt.mp small), toLower_large (Nat.not_lt.mp small)]

end Agreement

end AgentycHost
