import AgentycHost.Policy.Passes

set_option autoImplicit false

/-!
# Values that are left

A pass replaces one value, behind the first occurrence of its marker. A value
behind a later occurrence is left, where no other marker comes to it first.
-/

namespace AgentycHost

open Shared

variable {A : Type} {char : A -> Char} {mark text before after separators value rest early late : List A}
  {marker : List Char} {markers : List (List Char)}

section Leaks

variable {middle : List A}

def Leaks (char : A -> Char) (after : List A) : Prop :=
  valueOf char after ≠ [] ∧ (valueOf char after).map char ≠ redactedMark

def LeaksEndFirst (char : A -> Char) (markers : List (List Char)) (text : List A) : Prop :=
  ∀ marker, marker ∈ redactionMarkers -> ∀ before after, text = before ++ after ->
    EndsWith (loweredItem char) marker before -> Leaks char after ->
      ∃ first, first ∈ markers ∧ EndsFirstWith (loweredItem char) first before

def Redacted (char : A -> Char) (text : List A) : Prop :=
  ∀ marker, marker ∈ redactionMarkers -> ∀ before after, text = before ++ after ->
    EndsWith (loweredItem char) marker before -> ¬ Leaks char after

theorem mark_value (marked : mark.map char = redactedMark) : IsValue char mark := by
  constructor
  · obtain ⟨first, more, opens, starts, _⟩ := List.map_eq_cons_iff.mp (marked.trans rfl)
    exact ⟨first, more, opens, by rw [starts]; decide⟩
  · intro item inside
    have listed : char item ∈ redactedMark := by
      rw [← marked]
      exact List.mem_map_of_mem inside
    have plain := List.all_eq_true.mp mark_plain (char item) listed
    rw [Bool.and_eq_true, Bool.not_eq_true', Bool.not_eq_true'] at plain
    exact plain.2

theorem mark_closes (marked : mark.map char = redactedMark) : ∃ opening bracket, mark = opening ++ [bracket] ∧ char bracket = ']' := by
  have shape : redactedMark = "[redacted".toList ++ [']'] := by decide
  rw [shape] at marked
  obtain ⟨opening, closing, split, _, closes⟩ := List.map_eq_append_iff.mp marked
  obtain ⟨bracket, none, rfl, is, nothing⟩ := List.map_eq_cons_iff.mp closes
  rw [List.map_eq_nil_iff.mp nothing] at split
  exact ⟨opening, bracket, split, is⟩

theorem no_marker_in_mark (marked : mark.map char = redactedMark) (listed : marker ∈ redactionMarkers)
    (separated : ∀ item, item ∈ separators -> isSeparator (char item) = true)
    (split : separators ++ mark = early ++ late) (some' : early ≠ []) :
    ¬ EndsWith (loweredItem char) marker (before ++ early) := by
  intro ends
  rcases List.append_eq_append_iff.mp split with ⟨start, begins, follows⟩ | ⟨left, begins, follows⟩
  · by_cases none : start = []
    · -- the text ends with a separator
      rw [none, List.append_nil] at begins
      obtain ⟨others, last, built⟩ := (List.eq_nil_or_concat separators).resolve_left (by rwa [← begins])
      rw [begins, built, List.concat_eq_append, ← List.append_assoc] at ends
      have separates := separated last (by rw [built]; simp)
      exact endsWith_last (marker_filled listed) (separator_not_in_marker listed separates) _ ends
    · obtain ⟨first, more, opens⟩ := List.exists_cons_of_ne_nil none
      have starts : redactedMark = start.map char ++ late.map char := by
        rw [← marked, follows, List.map_append]
      have bracket : char first = '[' := by
        rw [opens, List.map_cons] at starts
        exact (List.head_eq_of_cons_eq starts).symm
      have apart : loweredItem char first ∉ marker := not_in_marker listed (by rw [bracket]; decide)
      have within : EndsWith (loweredItem char) marker more := by
        rw [begins, opens, ← List.append_assoc] at ends
        exact (endsWith_past apart _).mp ends
      apply mark_without_marker listed starts
      rw [← map_lowered, opens, List.map_cons]
      exact within.trans (List.suffix_cons _ _)
  · obtain ⟨others, last, built⟩ := (List.eq_nil_or_concat early).resolve_left some'
    rw [built, List.concat_eq_append, ← List.append_assoc] at ends
    have separates := separated last (by rw [begins, built]; simp)
    exact endsWith_last (marker_filled listed) (separator_not_in_marker listed separates) _ ends

theorem leaks_before (marked : mark.map char = redactedMark) (listed : marker ∈ redactionMarkers)
    (ends : EndsWith (loweredItem char) marker (before ++ early))
    (separated : ∀ item, item ∈ separators -> isSeparator (char item) = true)
    (is : IsValue char value) (stops : EndsValue char rest)
    (leak : Leaks char (early ++ (separators ++ (mark ++ rest)))) : Leaks char (early ++ (separators ++ (value ++ rest))) := by
  unfold Leaks at leak ⊢
  rw [← List.append_assoc early, valueOf_behind (mark_value marked) stops] at leak
  rw [← List.append_assoc early, valueOf_behind is stops]
  dsimp only at leak ⊢
  cases left : (early ++ separators).dropWhile fun item => isSeparator (char item) with
  | nil =>
    rw [left] at leak
    exact absurd marked leak.2
  | cons first more =>
    rw [left] at leak
    by_cases plain : ((first :: more).all fun item => !isDelimiter (char item)) = true
    · rw [if_pos plain]
      refine ⟨by rw [List.cons_append]; exact List.cons_ne_nil _ _, ?_⟩
      intro same
      have opens : isSeparator (char first) = false :=
        dropWhile_stops (k := fun item => isSeparator (char item)) left
      have inner := List.dropWhile_suffix (l := early ++ separators) fun item => isSeparator (char item)
      rw [left] at inner
      -- the mark has no separator, so that there was none
      have none : separators = [] := by
        by_contra some'
        obtain ⟨others, last, built⟩ := (List.eq_nil_or_concat separators).resolve_left some'
        have separates := separated last (by rw [built]; simp)
        have held : last ∈ first :: more := by
          rw [built, List.concat_eq_append, ← List.append_assoc] at inner
          obtain ⟨front, whole⟩ := inner
          have lasts := congrArg List.getLast? whole
          rw [List.getLast?_append_of_ne_nil _ (List.cons_ne_nil _ _), List.getLast?_concat] at lasts
          exact List.mem_of_getLast? lasts
        have inMark : char last ∈ redactedMark := by
          rw [← same]
          exact List.mem_map_of_mem (List.mem_append_left _ held)
        have apart := List.all_eq_true.mp mark_plain (char last) inMark
        rw [separates] at apart
        cases apart
      rw [none, List.append_nil] at inner
      have starts : redactedMark = (first :: more).map char ++ value.map char := by
        rw [← same, List.map_append]
      have bracket : char first = '[' := (List.head_eq_of_cons_eq starts).symm
      have apart : loweredItem char first ∉ marker := not_in_marker listed (by rw [bracket]; decide)
      obtain ⟨front, whole⟩ := inner
      have within : EndsWith (loweredItem char) marker more := by
        rw [← whole, ← List.append_assoc] at ends
        exact (endsWith_past apart _).mp ends
      apply mark_without_marker listed starts
      rw [← map_lowered, List.map_cons]
      exact within.trans (List.suffix_cons _ _)
    · rw [if_neg plain] at leak ⊢
      exact leak

theorem ends_around
    (none : ∀ early late, middle = early ++ late -> early ≠ [] -> ¬ EndsWith (loweredItem char) marker (before ++ early))
    (split : before ++ (middle ++ rest) = early ++ late) (ends : EndsWith (loweredItem char) marker early) :
    (∃ between, before = early ++ between ∧ late = between ++ (middle ++ rest)) ∨
    ∃ item more, rest = item :: (more ++ late) ∧ early = before ++ (middle ++ item :: more) := by
  rcases List.append_eq_append_iff.mp split with ⟨more, begins, follows⟩ | ⟨between, begins, follows⟩
  · by_cases nothing : more = []
    · left
      refine ⟨[], ?_, ?_⟩
      · rw [begins, nothing, List.append_nil, List.append_nil]
      · rw [follows, nothing]
        rfl
    · rw [begins] at ends
      rcases List.append_eq_append_iff.mp follows with ⟨behind, longer, left⟩ | ⟨inner, shorter, _⟩
      · cases behind with
        | nil =>
          rw [List.append_nil] at longer
          exact absurd ends (none more [] (by rw [longer, List.append_nil]) nothing)
        | cons item behind =>
          right
          exact ⟨item, behind, left, by rw [begins, longer]⟩
      · exact absurd ends (none more inner shorter nothing)
  · left
    exact ⟨between, begins, follows⟩

theorem first_around {middle' : List A} {item : A} (apart : loweredItem char item ∉ marker)
    (none : ∀ early late, middle' = early ++ late -> early ≠ [] -> ¬ EndsWith (loweredItem char) marker (before ++ early))
    (first : EndsFirstWith (loweredItem char) marker (before ++ (middle ++ item :: rest))) :
    EndsFirstWith (loweredItem char) marker (before ++ (middle' ++ item :: rest)) := by
  have moves (one other more : List A) : EndsWith (loweredItem char) marker (before ++ (one ++ item :: more)) ->
      EndsWith (loweredItem char) marker (before ++ (other ++ item :: more)) := by
    simp only [← List.append_assoc]
    intro ends
    exact (endsWith_past apart _).mpr ((endsWith_past apart _).mp ends)
  refine ⟨moves middle middle' rest first.1, ?_⟩
  intro early late split some' ends
  rcases ends_around none split ends with ⟨between, begins, _⟩ | ⟨same, more, follows, begins⟩
  · refine first.2 early (between ++ (middle ++ item :: rest)) ?_ (by simp) ends
    rw [begins, List.append_assoc]
  · obtain ⟨rfl, follows⟩ := List.cons.inj follows
    rw [begins] at ends
    refine first.2 _ late ?_ some' (moves middle' middle more ends)
    rw [follows]
    simp only [List.append_assoc, List.cons_append]

theorem leaks_first_step (marked : mark.map char = redactedMark) (known : marker ∈ redactionMarkers)
    (known' : ∀ other, other ∈ markers -> other ∈ redactionMarkers)
    (leaks : LeaksEndFirst char (marker :: markers) text) :
    LeaksEndFirst char markers (redactMarkerValue char mark text marker) := by
  intro word listed before after split ends leak
  rcases pass_cases char mark text marker with ⟨same, bare⟩ | ⟨front, separators, value, rest, cut⟩
  · rw [same] at split
    obtain ⟨first, among, ends'⟩ := leaks word listed before after split ends leak
    rcases List.mem_cons.mp among with this | other
    · rw [this] at ends'
      exact absurd (bare before after split ends') leak.1
    · exact ⟨first, other, ends'⟩
  · have none (other : List Char) (among : other ∈ redactionMarkers) (early late : List A)
        (parts : separators ++ mark = early ++ late) (some' : early ≠ []) :
        ¬ EndsWith (loweredItem char) other (front ++ early) :=
      no_marker_in_mark marked among cut.separated parts some'
    rw [cut.result, ← List.append_assoc separators] at split
    have text_is : text = front ++ (separators ++ value ++ rest) := by rw [cut.text, List.append_assoc]
    rcases ends_around (none word listed) split ends with ⟨between, begins, follows⟩ | ⟨item, more, left, begins⟩
    · -- the same occurrence, before the pass
      rw [List.append_assoc] at follows
      have some' : between ≠ [] := by
        intro nothing
        rw [follows, nothing, List.nil_append, Leaks,
          valueOf_parts cut.separated (mark_value marked) cut.ends] at leak
        exact leak.2 marked
      have leak' : Leaks char (between ++ (separators ++ (value ++ rest))) := by
        rw [follows] at leak
        exact leaks_before marked known (begins ▸ cut.first.1) cut.separated cut.value cut.ends leak
      obtain ⟨first, among, ends'⟩ := leaks word listed before _ (by rw [cut.text, begins, List.append_assoc]) ends leak'
      rcases List.mem_cons.mp among with this | other
      · rw [this] at ends'
        exact absurd ends'.1 (cut.first.2 before between begins some')
      · exact ⟨first, other, ends'⟩
    · -- an occurrence behind the value
      have delimiter := cut.ends item _ left
      have apart : loweredItem char item ∉ word := delimiter_not_in_marker listed delimiter
      have ends' : EndsWith (loweredItem char) word (front ++ (separators ++ value ++ item :: more)) := by
        rw [begins] at ends
        rw [← List.append_assoc] at ends ⊢
        exact (endsWith_past apart _).mpr ((endsWith_past apart _).mp ends)
      obtain ⟨first, among, first'⟩ := leaks word listed _ after (by rw [text_is, left]; simp) ends' leak
      rcases List.mem_cons.mp among with this | other
      · rw [this] at first'
        exact absurd cut.first.1 (first'.2 front _ rfl (by simp))
      · have known'' := known' first other
        rw [begins]
        exact ⟨first, other, first_around (delimiter_not_in_marker known'' delimiter) (none first known'') first'⟩

theorem leaks_first_passes (marked : mark.map char = redactedMark)
    (known : ∀ other, other ∈ markers -> other ∈ redactionMarkers) (leaks : LeaksEndFirst char markers text) :
    Redacted char (markers.foldl (redactMarkerValue char mark) text) := by
  induction markers generalizing text with
  | nil =>
    intro marker listed before after split ends leak
    obtain ⟨first, among, _⟩ := leaks marker listed before after split ends leak
    cases among
  | cons marker markers ih =>
    have others (other : List Char) (among : other ∈ markers) := known other (List.mem_cons_of_mem _ among)
    exact ih others (leaks_first_step marked (known marker List.mem_cons_self) others leaks)

end Leaks

section Unnested

variable {result : List A}

def Unnested (char : A -> Char) (text : List A) : Prop :=
  ∀ marker, marker ∈ redactionMarkers -> ∀ other, other ∈ redactionMarkers ->
    ∀ before separators value rest, text = before ++ (separators ++ value ++ rest) ->
      EndsWith (loweredItem char) marker before -> (∀ item, item ∈ separators -> isSeparator (char item) = true) ->
        (∀ item, item ∈ value -> isDelimiter (char item) = false) ->
          EndsWith (loweredItem char) other (before ++ (separators ++ value)) -> separators ++ value = []

def Left (char : A -> Char) (text : List A) : Prop :=
  ∃ marker, marker ∈ redactionMarkers ∧ ∃ before after, text = before ++ after ∧
    EndsWith (loweredItem char) marker before ∧ Leaks char after ∧
      ∀ first, first ∈ redactionMarkers -> ¬ EndsFirstWith (loweredItem char) first before

theorem start_kinds (parts : separators ++ value = early ++ late)
    (separated : ∀ item, item ∈ separators -> isSeparator (char item) = true)
    (whole : ∀ item, item ∈ value -> isDelimiter (char item) = false) :
    ∃ separators' value', early = separators' ++ value' ∧
      (∀ item, item ∈ separators' -> isSeparator (char item) = true) ∧
        ∀ item, item ∈ value' -> isDelimiter (char item) = false := by
  rcases List.append_eq_append_iff.mp parts with ⟨more, begins, follows⟩ | ⟨left, begins, _⟩
  · refine ⟨separators, more, begins, separated, ?_⟩
    intro item inside
    exact whole item (by rw [follows]; exact List.mem_append_left _ inside)
  · refine ⟨early, [], (List.append_nil _).symm, ?_, ?_⟩
    · intro item inside
      exact separated item (by rw [begins]; exact List.mem_append_left _ inside)
    · intro item inside
      cases inside

theorem unnested_middle (unnested : Unnested char text) (listed : marker ∈ redactionMarkers)
    (cut : Cut char mark marker before separators value rest text result) (other : List Char)
    (among : other ∈ redactionMarkers) (early late : List A) (parts : separators ++ value = early ++ late)
    (some' : early ≠ []) : ¬ EndsWith (loweredItem char) other (before ++ early) := by
  intro ends
  obtain ⟨separators', value', built, separated, whole⟩ :=
    start_kinds parts cut.separated cut.value.whole
  rw [built] at ends
  apply some'
  rw [built]
  refine unnested marker listed other among before separators' value' (late ++ rest) ?_ cut.first.1 separated whole ends
  rw [cut.text, ← built, ← List.append_assoc separators, parts]
  simp only [List.append_assoc]

theorem unnested_step (marked : mark.map char = redactedMark)
    (unnested : Unnested char text) : Unnested char (redactMarkerValue char mark text marker) := by
  rcases pass_cases char mark text marker with ⟨same, _⟩ | ⟨front, separators, value, rest, cut⟩
  · rwa [same]
  · intro word known other known' before separators' value' rest' split ends separated whole ends'
    have none (other : List Char) (among : other ∈ redactionMarkers) (early late : List A)
        (parts : separators ++ mark = early ++ late) (some' : early ≠ []) :
        ¬ EndsWith (loweredItem char) other (front ++ early) :=
      no_marker_in_mark marked among cut.separated parts some'
    rw [cut.result, ← List.append_assoc separators] at split
    have split' : front ++ (separators ++ mark ++ rest) = before ++ (separators' ++ value') ++ rest' := by
      rw [split]
      simp only [List.append_assoc]
    rcases ends_around (none other known') split' ends' with ⟨behind, within, _⟩ | ⟨item, more, left, beyond⟩
    · -- both end before the value
      refine unnested word known other known' before separators' value'
        (behind ++ (separators ++ (value ++ rest))) ?_ ends separated whole ends'
      rw [cut.text, within]
      simp only [List.append_assoc]
    · have delimiter := cut.ends item _ left
      rcases ends_around (none word known) split ends with ⟨between, begins, follows⟩ | ⟨item', more', left', begins⟩
      · -- the delimiter behind the mark would be in the value, or the mark among the separators
        have together : separators' ++ value' = between ++ (separators ++ mark) ++ item :: more := by
          rw [begins, List.append_assoc] at beyond
          rw [List.append_cancel_left beyond, List.append_assoc, List.append_assoc, List.append_assoc]
        rcases List.append_eq_append_iff.mp together with ⟨start, longer, valued⟩ | ⟨start, longer, _⟩
        · have plain := whole item (by rw [valued]; simp)
          rw [delimiter] at plain
          cases plain
        · obtain ⟨opening, bracket, built, closes⟩ := mark_closes marked
          have separates := separated bracket (by rw [longer, built]; simp)
          rw [closes] at separates
          cases separates
      · have apart (word : List Char) (known : word ∈ redactionMarkers) : loweredItem char item' ∉ word :=
          delimiter_not_in_marker known (cut.ends item' _ left')
        have moves (word : List Char) (known : word ∈ redactionMarkers) (inner : List A)
            (ends : EndsWith (loweredItem char) word (front ++ (separators ++ mark ++ item' :: inner))) :
            EndsWith (loweredItem char) word (front ++ (separators ++ value ++ item' :: inner)) := by
          rw [← List.append_assoc] at ends ⊢
          exact (endsWith_past (apart word known) _).mpr ((endsWith_past (apart word known) _).mp ends)
        rw [begins] at ends ends'
        refine unnested word known other known' (front ++ (separators ++ value ++ item' :: more')) separators' value' rest'
          ?_ (moves word known more' ends) separated whole ?_
        · rw [cut.text, left']
          simp only [List.append_assoc, List.cons_append]
        · have moved := moves other known' (more' ++ (separators' ++ value')) (by
            simpa only [List.append_assoc, List.cons_append] using ends')
          simpa only [List.append_assoc, List.cons_append] using moved

theorem not_all_separators (listed : marker ∈ redactionMarkers) (ends : EndsWith (loweredItem char) marker (before ++ late))
    (some' : late ≠ []) : (late.dropWhile fun item => isSeparator (char item)) ≠ [] := by
  intro nothing
  obtain ⟨others, last, built⟩ := (List.eq_nil_or_concat late).resolve_left some'
  have separates := List.dropWhile_eq_nil_iff.mp nothing last (by rw [built]; simp)
  rw [built, List.concat_eq_append, ← List.append_assoc] at ends
  exact endsWith_last (marker_filled listed) (separator_not_in_marker listed separates) _ ends

theorem leaks_behind (marked : mark.map char = redactedMark)
    (cut : Cut char mark marker before separators value rest text result)
    (leak : Leaks char (early ++ (separators ++ (value ++ rest))))
    (delimited : ¬ ∀ item, item ∈ ((early ++ separators).dropWhile fun item => isSeparator (char item)) ->
      isDelimiter (char item) = false) : Leaks char (early ++ (separators ++ (mark ++ rest))) := by
  have stops : ¬ ((early ++ separators).dropWhile fun item => isSeparator (char item)).all
      (fun item => !isDelimiter (char item)) = true := by
    intro plain
    apply delimited
    intro item inside
    exact (Bool.not_eq_true' _).mp (List.all_eq_true.mp plain item inside)
  unfold Leaks at leak ⊢
  rw [← List.append_assoc early, valueOf_behind cut.value cut.ends] at leak
  rw [← List.append_assoc early, valueOf_behind (mark_value marked) cut.ends]
  dsimp only at leak ⊢
  rw [if_neg stops] at leak ⊢
  exact leak

theorem left_step (marked : mark.map char = redactedMark) (listed : marker ∈ redactionMarkers)
    (unnested : Unnested char text) (left : Left char text) : Left char (redactMarkerValue char mark text marker) := by
  rcases pass_cases char mark text marker with ⟨same, _⟩ | ⟨front, separators, value, rest, cut⟩
  · rwa [same]
  · obtain ⟨word, known, before, after, split, ends, leak, notFirst⟩ := left
    rw [cut.text, ← List.append_assoc separators] at split
    have none := unnested_middle unnested listed cut
    rcases ends_around (none word known) split ends with ⟨between, begins, follows⟩ | ⟨item, more, behind, begins⟩
    · refine ⟨word, known, before, between ++ (separators ++ (mark ++ rest)), ?_, ends, ?_, notFirst⟩
      · rw [cut.result, begins, List.append_assoc]
      · have ends' : EndsWith (loweredItem char) marker (before ++ between) := begins ▸ cut.first.1
        rw [follows, List.append_assoc] at leak
        apply leaks_behind marked cut leak
        intro plain
        -- the marker would end in the value of the word
        have lettered := not_all_separators listed ends' (fun nothing => by
          rw [nothing, List.append_nil] at begins
          exact notFirst marker listed (begins ▸ cut.first))
        have parts : between = (between.takeWhile fun item => isSeparator (char item)) ++
            between.dropWhile fun item => isSeparator (char item) := List.takeWhile_append_dropWhile.symm
        apply lettered
        have nothing := unnested word known marker listed before _ (between.dropWhile fun item => isSeparator (char item))
          (separators ++ (value ++ rest)) (by rw [← parts, cut.text, begins]; simp only [List.append_assoc]) ends
          (fun item inside => List.mem_takeWhile_imp (p := fun item => isSeparator (char item)) inside) ?_ (by rwa [← parts])
        · exact (List.append_eq_nil_iff.mp nothing).2
        · intro item inside
          apply plain
          rw [List.dropWhile_append, if_neg (by rwa [List.isEmpty_iff])]
          exact List.mem_append_left _ inside
    · have delimiter := cut.ends item _ behind
      refine ⟨word, known, front ++ (separators ++ mark ++ item :: more), after, ?_, ?_, leak, ?_⟩
      · rw [cut.result, behind]
        simp only [List.append_assoc, List.cons_append]
      · have apart : loweredItem char item ∉ word := delimiter_not_in_marker known delimiter
        rw [begins, ← List.append_assoc] at ends
        rw [← List.append_assoc]
        exact (endsWith_past apart _).mpr ((endsWith_past apart _).mp ends)
      · intro first among ends'
        apply notFirst first among
        rw [begins]
        exact first_around (delimiter_not_in_marker among delimiter) (none first among) ends'

theorem left_passes (marked : mark.map char = redactedMark)
    (known : ∀ other, other ∈ markers -> other ∈ redactionMarkers) (unnested : Unnested char text)
    (left : Left char text) : ¬ Redacted char (markers.foldl (redactMarkerValue char mark) text) := by
  induction markers generalizing text with
  | nil =>
    obtain ⟨marker, listed, before, after, split, ends, leak, _⟩ := left
    intro redacted
    exact redacted marker listed before after split ends leak
  | cons marker markers ih =>
    have listed := known marker List.mem_cons_self
    have others (other : List Char) (among : other ∈ markers) := known other (List.mem_cons_of_mem _ among)
    exact ih others (unnested_step marked unnested) (left_step marked listed unnested left)

theorem left_of (some' : ¬ LeaksEndFirst char redactionMarkers text) : Left char text := by
  by_contra none
  apply some'
  intro marker listed before after split ends leak
  by_contra nowhere
  apply none
  refine ⟨marker, listed, before, after, split, ends, leak, ?_⟩
  intro first among ends'
  exact nowhere ⟨first, among, ends'⟩

end Unnested

end AgentycHost
