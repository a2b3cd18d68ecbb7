import AgentycHost.Policy.Leaks
import AgentycHost.Policy.RedactedBytes

set_option autoImplicit false

/-! # Marked values -/

namespace AgentycHost

open Shared

section Credentials

/-- `Authorization: Bearer <credential>`, with the text around it. -/
structure BearerHeader (text before separators scheme gap credential rest : List Char) : Prop where
  text : text = before ++ (separators ++ (scheme ++ (gap ++ (credential ++ rest))))
  ends : EndsWith (loweredItem id) "authorization".toList before
  separated : ∀ character, character ∈ separators -> isSeparator character = true
  scheme : scheme.map Char.toLower = "bearer".toList
  spaced : gap ≠ []
  spaces : ∀ character, character ∈ gap -> character = ' '
  credential : IsValue id credential
  closes : EndsValue id rest

def HasBearerHeader (text : List Char) : Prop :=
  ∃ before separators scheme gap credential rest, BearerHeader text before separators scheme gap credential rest

def CredentialHidden (text : List Char) : Prop :=
  ∀ before separators scheme gap credential rest, BearerHeader text before separators scheme gap credential rest ->
    ValueHidden (tagged (before ++ (separators ++ (scheme ++ gap))) credential rest)

variable {A : Type} {char : A -> Char} {mark text : List A} {marker : List Char} {markers : List (List Char)}
  {item bracket : A} {gap more : List A}

def Shielded (char : A -> Char) (item : A) (text : List A) : Prop :=
  ∃ front bracket gap more, text = front ++ bracket :: (gap ++ item :: more) ∧ char bracket = ']' ∧
    gap ≠ [] ∧ ∀ space, space ∈ gap -> char space = ' '

theorem value_before_bracket {separators value rest between : List A}
    (separated : ∀ item, item ∈ separators -> isSeparator (char item) = true) (is : IsValue char value)
    (closes : char bracket = ']') (spaced : gap ≠ []) (spaces : ∀ space, space ∈ gap -> char space = ' ')
    (split : separators ++ (value ++ rest) = between ++ bracket :: (gap ++ item :: more)) :
    (∃ left, rest = left ++ bracket :: (gap ++ item :: more)) ∨ rest = gap ++ item :: more := by
  rw [← List.append_assoc] at split
  rcases List.append_eq_append_iff.mp split with ⟨left, _, follows⟩ | ⟨inner, held, follows⟩
  · exact .inl ⟨left, follows⟩
  · cases inner with
    | nil => exact .inl ⟨[], follows.symm⟩
    | cons first inner =>
      obtain ⟨same, follows⟩ := List.cons.inj follows
      have follows : gap ++ item :: more = inner ++ rest := follows
      cases inner with
      | nil => exact .inr follows.symm
      | cons second inner =>
        -- the value or its separators would go on behind the bracket
        obtain ⟨space, others, opens⟩ := List.exists_cons_of_ne_nil spaced
        rw [opens] at follows
        have second_is : char second = ' ' := by
          rw [← (List.cons.inj follows).1]
          exact spaces space (by rw [opens]; exact List.mem_cons_self)
        have not_valued : second ∉ value := by
          intro inValue
          have plain := is.whole second inValue
          rw [second_is] at plain
          cases plain
        rw [← same] at held
        rcases List.append_eq_append_iff.mp held with ⟨start, _, valued⟩ | ⟨ending, longer, valued⟩
        · exact absurd (by rw [valued]; simp) not_valued
        · cases ending with
          | nil =>
            rw [List.nil_append] at valued
            exact absurd (by rw [← valued]; simp) not_valued
          | cons top ending =>
            obtain ⟨same', _⟩ := List.cons.inj valued
            have separates := separated bracket (by rw [longer, ← same']; simp)
            rw [closes] at separates
            cases separates

theorem marker_beside {before after front : List A} (listed : marker ∈ redactionMarkers)
    (ends : EndsWith (loweredItem char) marker before) (closes : char bracket = ']')
    (spaces : ∀ space, space ∈ gap -> char space = ' ')
    (split : before ++ after = front ++ bracket :: (gap ++ item :: more)) :
    (∃ between, front = before ++ between ∧ after = between ++ bracket :: (gap ++ item :: more)) ∨
      ∃ beyond, before = front ++ bracket :: (gap ++ item :: beyond) ∧ more = beyond ++ after := by
  rcases List.append_eq_append_iff.mp split with before_it | ⟨behind, begins, follows⟩
  · exact .inl before_it
  · cases behind with
    | nil =>
      left
      refine ⟨[], ?_, follows.symm⟩
      rw [begins, List.append_nil, List.append_nil]
    | cons top behind =>
      obtain ⟨same, follows⟩ := List.cons.inj follows
      have follows : gap ++ item :: more = behind ++ after := follows
      rw [← same] at begins
      rw [begins] at ends
      have bracketed : loweredItem char bracket ∉ marker := not_in_marker listed (by rw [closes]; decide)
      -- the marker does not end with the bracket or a space
      have not_spaced (inner left : List A) (part : gap = inner ++ left) (ends : EndsWith (loweredItem char) marker (front ++ bracket :: inner)) : False := by
        rcases List.eq_nil_or_concat inner with nothing | ⟨others, last, built⟩
        · rw [nothing] at ends
          exact endsWith_last (marker_filled listed) bracketed _ ends
        · have blank := spaces last (by rw [part, built]; simp)
          have apart : loweredItem char last ∉ marker := not_in_marker listed (by rw [blank]; decide)
          rw [built, List.concat_eq_append, ← List.cons_append, ← List.append_assoc] at ends
          exact endsWith_last (marker_filled listed) apart _ ends
      rcases List.append_eq_append_iff.mp follows with ⟨beyond, longer, left⟩ | ⟨within, shorter, _⟩
      · cases beyond with
        | nil =>
          rw [longer, List.append_nil] at ends
          exact (not_spaced gap [] (List.append_nil _).symm ends).elim
        | cons top' beyond =>
          obtain ⟨same', left⟩ := List.cons.inj left
          right
          refine ⟨beyond, ?_, left⟩
          rw [begins, longer, same']
      · exact (not_spaced behind within shorter ends).elim

theorem shielded_step (marked : mark.map char = redactedMark) (listed : marker ∈ redactionMarkers)
    (shielded : Shielded char item text) : Shielded char item (redactMarkerValue char mark text marker) := by
  rcases pass_cases char mark text marker with ⟨same, _⟩ | ⟨before, separators, value, rest, cut⟩
  · rwa [same]
  · obtain ⟨front, bracket, gap, more, whole, closes, spaced, spaces⟩ := shielded
    have split := cut.text.symm.trans whole
    rw [cut.result]
    rcases marker_beside listed cut.first.1 closes spaces split with ⟨between, _, follows⟩ | ⟨beyond, begins, _⟩
    · rcases value_before_bracket cut.separated cut.value closes spaced spaces follows with ⟨left, behind⟩ | behind
      · refine ⟨before ++ (separators ++ (mark ++ left)), bracket, gap, more, ?_, closes, spaced, spaces⟩
        rw [behind]
        simp only [List.append_assoc]
      · obtain ⟨opening, closing, built, closes'⟩ := mark_closes marked
        refine ⟨before ++ (separators ++ opening), closing, gap, more, ?_, closes', spaced, spaces⟩
        rw [behind, built]
        simp only [List.append_assoc, List.singleton_append]
    · refine ⟨front, bracket, gap, beyond ++ (separators ++ (mark ++ rest)), ?_, closes, spaced, spaces⟩
      rw [begins]
      simp only [List.append_assoc, List.cons_append]

theorem shielded_passes (marked : mark.map char = redactedMark)
    (known : ∀ other, other ∈ markers -> other ∈ redactionMarkers) (shielded : Shielded char item text) :
    item ∈ markers.foldl (redactMarkerValue char mark) text := by
  induction markers generalizing text with
  | nil =>
    obtain ⟨front, bracket, gap, more, whole, _⟩ := shielded
    rw [List.foldl_nil, whole]
    simp
  | cons marker markers ih =>
    have others (other : List Char) (among : other ∈ markers) := known other (List.mem_cons_of_mem _ among)
    exact ih others (shielded_step marked (known marker List.mem_cons_self) shielded)

theorem authorization_alone : (redactionMarkers.all fun marker =>
    !(marker.isSuffixOf "authorization".toList || "authorization".toList.isSuffixOf marker) ||
      marker == "authorization".toList) = true := by decide

theorem first_pass : redactionMarkers = "authorization".toList :: redactionMarkers.tail := by decide

theorem bearer_listed : "bearer".toList ∈ redactionMarkers := by decide

namespace BearerHeader

variable {text before separators scheme gap credential rest : List Char}
  (header : BearerHeader text before separators scheme gap credential rest)
include header

theorem scheme_value : IsValue id scheme := by
  have lettered (character : Char) (inside : character ∈ scheme) : loweredItem id character ∈ "bearer".toList := by
    rw [← header.scheme]
    exact List.mem_map_of_mem inside
  constructor
  · cases whole : scheme with
    | nil =>
      have shape := header.scheme
      rw [whole] at shape
      cases shape
    | cons first more =>
      refine ⟨first, more, rfl, ?_⟩
      rw [Bool.eq_false_iff]
      intro separates
      exact separator_not_in_marker bearer_listed separates (lettered first (by rw [whole]; exact List.mem_cons_self))
  · intro character inside
    rw [Bool.eq_false_iff]
    intro ends
    exact delimiter_not_in_marker bearer_listed ends (lettered character inside)

theorem scheme_ends : EndsValue id (gap ++ (credential ++ rest)) := by
  intro character more split
  obtain ⟨space, others, opens⟩ := List.exists_cons_of_ne_nil header.spaced
  rw [opens] at split
  rw [← (List.cons.inj split).1, header.spaces space (by rw [opens]; exact List.mem_cons_self)]
  rfl

theorem scheme_leaks : Leaks id (separators ++ (scheme ++ (gap ++ (credential ++ rest)))) := by
  have value : valueOf id (separators ++ (scheme ++ (gap ++ (credential ++ rest)))) = scheme :=
    valueOf_parts header.separated header.scheme_value header.scheme_ends
  rw [Leaks, value, List.map_id]
  refine ⟨header.scheme_value.ne_nil, ?_⟩
  intro same
  have lengths := congrArg List.length header.scheme
  rw [List.length_map, same] at lengths
  cases lengths

theorem first_authorization (leaks : LeaksEndFirst id redactionMarkers text) :
    EndsFirstWith (loweredItem id) "authorization".toList before := by
  have listed : "authorization".toList ∈ redactionMarkers := by
    rw [first_pass]
    exact List.mem_cons_self
  obtain ⟨first, among, ends⟩ := leaks _ listed before _ header.text header.ends header.scheme_leaks
  have alone := List.all_eq_true.mp authorization_alone first among
  rcases List.suffix_or_suffix_of_suffix ends.1 header.ends with within | beyond
  · rw [List.isSuffixOf_iff_suffix.mpr within, Bool.true_or, Bool.not_true, Bool.false_or, beq_iff_eq] at alone
    rwa [← alone]
  · rw [List.isSuffixOf_iff_suffix.mpr beyond, Bool.or_true, Bool.not_true, Bool.false_or, beq_iff_eq] at alone
    rwa [← alone]

theorem credential_left (leaks : LeaksEndFirst id redactionMarkers text) :
    ¬ ValueHidden (tagged (before ++ (separators ++ (scheme ++ gap))) credential rest) := by
  intro hidden
  obtain ⟨first, more, opens, _⟩ := header.credential.opens
  have whole : tagged (before ++ (separators ++ (scheme ++ gap))) credential rest =
      before.map (·, false) ++ (separators.map (·, false) ++ (scheme.map (·, false) ++
        (gap.map (·, false) ++ (credential.map (·, true) ++ rest.map (·, false))))) := by
    unfold tagged
    simp only [List.map_append, List.append_assoc]
  have passed : redactMarkerValue Prod.fst taggedMark (tagged (before ++ (separators ++ (scheme ++ gap))) credential rest)
        "authorization".toList =
      before.map (·, false) ++ (separators.map (·, false) ++ (taggedMark ++
        (gap.map (·, false) ++ (credential.map (·, true) ++ rest.map (·, false))))) := by
    rw [whole]
    apply pass_cut
    · exact first_mapped (by rw [tags_first]; exact header.first_authorization leaks)
    · intro item inside
      obtain ⟨character, held, rfl⟩ := List.mem_map.mp inside
      exact header.separated character held
    · exact IsValue.of_map (by rw [tags_first]; exact header.scheme_value)
    · intro item others split
      obtain ⟨space, spaces, built⟩ := List.exists_cons_of_ne_nil header.spaced
      rw [built, List.map_cons, List.cons_append] at split
      rw [← (List.cons.inj split).1, header.spaces space (by rw [built]; exact List.mem_cons_self)]
      rfl
  have shielded : Shielded Prod.fst (first, true) (redactMarkerValue Prod.fst taggedMark
      (tagged (before ++ (separators ++ (scheme ++ gap))) credential rest) "authorization".toList) := by
    obtain ⟨opening, closing, built, closes⟩ := mark_closes taggedMark_first
    refine ⟨before.map (·, false) ++ (separators.map (·, false) ++ opening), closing, gap.map (·, false),
      more.map (·, true) ++ rest.map (·, false), ?_, closes, ?_, ?_⟩
    · rw [passed, built, opens]
      simp only [List.map_cons, List.append_assoc, List.cons_append, List.nil_append]
    · intro nothing
      exact header.spaced (List.map_eq_nil_iff.mp nothing)
    · intro item inside
      obtain ⟨character, held, rfl⟩ := List.mem_map.mp inside
      exact header.spaces character held
  have left : (first, true) ∈ redactMarkers Prod.fst taggedMark
      (tagged (before ++ (separators ++ (scheme ++ gap))) credential rest) := by
    unfold redactMarkers
    rw [first_pass, List.foldl_cons]
    exact shielded_passes taggedMark_first (fun other among => List.mem_of_mem_tail among) shielded
  exact Bool.true_eq_false_eq_False (hidden _ left)

end BearerHeader

theorem redactText_redacted {value : String}
    (leaks : LeaksEndFirst id redactionMarkers (boundedToken value maxObservabilityTextBytes)) :
    Redacted id (redactText value).toList := by
  unfold redactText redactMarkers
  rw [String.toList_ofList]
  exact leaks_first_passes (List.map_id _) (fun _ among => among) leaks

/-- The whole of what the redaction of a text is for. -/
structure HidesMarkedValues (value : String) : Prop where
  ends : ∃ octets, redactTextBytes value = some octets
  redacted : Redacted id (redactText value).toList
  credential : CredentialHidden (boundedToken value maxObservabilityTextBytes)

def leaksChecked (text : List Char) : Bool :=
  text.inits.all fun before => redactionMarkers.all fun marker =>
    !marker.isSuffixOf (before.map Char.toLower) || valueOf id (text.drop before.length) == [] ||
      valueOf id (text.drop before.length) == redactedMark ||
        redactionMarkers.any fun first => (splitAfter (loweredItem id) first text).any fun parts => parts.1 == before

theorem leaksChecked_sound {text : List Char} (checked : leaksChecked text = true) :
    LeaksEndFirst id redactionMarkers text := by
  rintro marker listed before after rfl ends ⟨filled, other⟩
  have initial : before ∈ (before ++ after).inits := (List.mem_inits _ _).mpr (List.prefix_append _ _)
  have looked := List.all_eq_true.mp (List.all_eq_true.mp checked before initial) marker listed
  have ends' : marker.isSuffixOf (before.map Char.toLower) = true := List.isSuffixOf_iff_suffix.mpr ends
  rw [List.map_id] at other
  rw [ends', List.drop_left, beq_eq_false_iff_ne.mpr filled, beq_eq_false_iff_ne.mpr other] at looked
  simp only [Bool.not_true, Bool.false_or, List.any_eq_true] at looked
  obtain ⟨first, among, found⟩ := looked
  rw [Option.any_eq_true] at found
  obtain ⟨⟨early, late⟩, split, same⟩ := found
  obtain ⟨_, first'⟩ := splitAfter_first split
  have same : early = before := eq_of_beq same
  rw [same] at first'
  exact ⟨first, among, first'⟩

theorem no_bearer_header {text : List Char} (none : 'z' ∉ text.map Char.toLower) : ¬ HasBearerHeader text := by
  rintro ⟨before, separators, scheme, gap, credential, rest, header⟩
  have lettered : 'z' ∈ before.map (loweredItem id) := header.ends.subset (by decide)
  apply none
  rw [header.text, List.map_append]
  exact List.mem_append_left _ lettered

def unnestedChecked (text : List Char) : Bool :=
  text.inits.all fun before => !(redactionMarkers.any fun marker => marker.isSuffixOf (before.map Char.toLower)) ||
    (text.drop before.length).inits.all fun early => early.isEmpty ||
      !((early.dropWhile isSeparator).all fun character => !isDelimiter character) ||
        !(redactionMarkers.any fun marker => marker.isSuffixOf ((before ++ early).map Char.toLower))

theorem unnestedChecked_sound {text : List Char} (checked : unnestedChecked text = true) : Unnested id text := by
  rintro marker listed other listed' before separators value rest rfl ends separated whole ends'
  have initial : before ∈ (before ++ (separators ++ value ++ rest)).inits := (List.mem_inits _ _).mpr (List.prefix_append _ _)
  have initial' : separators ++ value ∈ (separators ++ value ++ rest).inits := (List.mem_inits _ _).mpr (List.prefix_append _ _)
  have looked := List.all_eq_true.mp checked before initial
  have here : (redactionMarkers.any fun marker => marker.isSuffixOf (before.map Char.toLower)) = true :=
    List.any_eq_true.mpr ⟨marker, listed, List.isSuffixOf_iff_suffix.mpr ends⟩
  have there : (redactionMarkers.any fun marker => marker.isSuffixOf ((before ++ (separators ++ value)).map Char.toLower)) = true :=
    List.any_eq_true.mpr ⟨other, listed', List.isSuffixOf_iff_suffix.mpr ends'⟩
  have plain : (((separators ++ value).dropWhile isSeparator).all fun character => !isDelimiter character) = true := by
    apply List.all_eq_true.mpr
    intro character inside
    have inside : character ∈ value.dropWhile isSeparator := by
      rwa [List.dropWhile_append_of_pos (by exact separated)] at inside
    rw [show isDelimiter character = false from whole character ((List.dropWhile_suffix _).subset inside)]
    rfl
  rw [here, List.drop_left, Bool.not_true, Bool.false_or] at looked
  have looked' := List.all_eq_true.mp looked _ initial'
  rw [plain, there, Bool.not_true, Bool.or_false, Bool.or_false] at looked'
  exact List.isEmpty_iff.mp looked'

end Credentials

end AgentycHost
