import AgentycHost.Broker.Sessions
import AgentycHost.System.Runs

set_option autoImplicit false

/-! # Warnings and their bound -/

namespace AgentycHost

open Shared

variable {warning : String} {space : SpaceDescriptor}

/-- The characters that a warning keeps, before they are counted. -/
def printable (warning : String) : List Char := warning.toList.filter fun character => !isControl character

/-- The printable text takes at most 512 bytes, or its first 512 characters take one byte each. -/
def ShortWarning (warning : String) : Prop :=
  textSize (printable warning) ≤ 512 ∨ ∀ character, character ∈ (printable warning).take 512 -> character.utf8Size = 1

section Sizes

theorem length_le_textSize (text : List Char) : text.length ≤ textSize text := by
  induction text with
  | nil => exact Nat.le_refl 0
  | cons head rest ih =>
    have some_byte := head.utf8Size_pos
    rw [textSize_cons, List.length_cons]
    omega

theorem textSize_single {text : List Char} : textSize text = text.length <-> ∀ character, character ∈ text -> character.utf8Size = 1 := by
  induction text with
  | nil => simp [textSize]
  | cons head rest ih =>
    have some_byte := head.utf8Size_pos
    have fewer := length_le_textSize rest
    rw [textSize_cons, List.length_cons, List.forall_mem_cons, ← ih]
    omega

theorem textSize_take_le (text : List Char) (count : Nat) : textSize (text.take count) ≤ textSize text := by
  have whole := textSize_append (text.take count) (text.drop count)
  rw [List.take_append_drop] at whole
  omega

theorem replicate_size (count : Nat) (character : Char) :
    textSize (List.replicate count character) = count * character.utf8Size := by
  rw [textSize, List.map_replicate, List.sum_replicate_nat]

end Sizes

section Kept

theorem boundedWarning_printed (warning : String) : (boundedWarning warning).toList.any isControl = false := by
  rw [boundedWarning, String.toList_ofList, List.any_eq_false]
  intro character kept
  have passed := List.of_mem_filter (List.mem_of_mem_take kept)
  simpa using passed

theorem boundedWarning_size (warning : String) :
    (boundedWarning warning).utf8ByteSize = textSize ((printable warning).take 512) := by
  rw [utf8ByteSize_eq, boundedWarning, String.toList_ofList, printable]

theorem boundedWarning_fits : boundedText (boundedWarning warning) 512 = true <-> ShortWarning warning := by
  rw [boundedText, boundedWarning_printed, Bool.not_false, Bool.and_true, decide_eq_true_eq, boundedWarning_size, ShortWarning]
  constructor
  · intro fits
    by_cases fewer : (printable warning).length ≤ 512
    · rw [List.take_of_length_le fewer] at fits
      exact .inl fits
    · -- 512 characters in 512 bytes
      have length : ((printable warning).take 512).length = 512 := by
        rw [List.length_take]
        omega
      have least := length_le_textSize ((printable warning).take 512)
      exact .inr (textSize_single.mp (by omega))
  · rintro (small | single)
    · exact Nat.le_trans (textSize_take_le _ _) small
    · rw [textSize_single.mpr single, List.length_take]
      exact Nat.min_le_left _ _

theorem ShortWarning.of_size (fits : warning.utf8ByteSize ≤ 512) : ShortWarning warning := by
  left
  rw [utf8ByteSize_eq] at fits
  refine Nat.le_trans ?_ fits
  unfold printable
  induction warning.toList with
  | nil => exact Nat.le_refl _
  | cons head rest ih =>
    rw [List.filter_cons, textSize_cons]
    split
    · rw [textSize_cons]
      omega
    · omega

end Kept

/-- Every warning of the space passes the check of the ledger. -/
def WarningsFit (space : SpaceDescriptor) : Prop :=
  ∀ warning, warning ∈ space.warnings -> validateBoundedText warning 512 "space warning" = .ok ()

theorem validate_warning {text : String} :
    validateBoundedText text 512 "space warning" = .ok () <-> boundedText text 512 = true := by
  rw [validateBoundedText, require_ok]

theorem warn_warnings (space : SpaceDescriptor) (warning : String) :
    ∃ kept, kept ⊆ space.warnings ∧ (space.warn warning).warnings = kept ++ [boundedWarning warning] := by
  unfold SpaceDescriptor.warn
  dsimp only
  split
  next many =>
    refine ⟨space.warnings.drop 1, List.drop_subset _ _, List.drop_append_of_le_length ?_⟩
    rw [List.length_append, List.length_singleton] at many
    omega
  next => exact ⟨space.warnings, List.Subset.refl _, rfl⟩

theorem warn_fits (fit : WarningsFit space) : WarningsFit (space.warn warning) <-> ShortWarning warning := by
  obtain ⟨kept, older, listed⟩ := warn_warnings space warning
  rw [← boundedWarning_fits, ← validate_warning, WarningsFit, listed, List.forall_mem_append, List.forall_mem_singleton]
  constructor
  · exact fun fits => fits.2
  · exact fun new => ⟨fun other inside => fit other (older inside), new⟩

theorem code_warnings_short (code : ErrorCode) : ShortWarning ("fence pending: " ++ code.asStr) ∧
    ShortWarning ("page cleanup outcome unknown: " ++ code.asStr) := by
  constructor <;> apply ShortWarning.of_size <;> cases code <;> decide

/-- A warning is admitted exactly when it is short, and a warning that names an error code is short. -/
theorem warning_fits_iff (warning : String) (space : SpaceDescriptor) (fit : WarningsFit space) :
    (boundedText (boundedWarning warning) 512 = true <-> ShortWarning warning) ∧
    (WarningsFit (space.warn warning) <-> ShortWarning warning) ∧
    ∀ code : ErrorCode, WarningsFit (space.warn ("fence pending: " ++ code.asStr)) ∧
      WarningsFit (space.warn ("page cleanup outcome unknown: " ++ code.asStr)) := by
  refine ⟨boundedWarning_fits, warn_fits fit, ?_⟩
  intro code
  obtain ⟨pending, unknown⟩ := code_warnings_short code
  exact ⟨(warn_fits fit).mpr pending, (warn_fits fit).mpr unknown⟩

section Samples

def quietSpace : SpaceDescriptor where
  spaceId := ⟨1⟩
  label := "inbox"
  lifecycle := .created
  owner := samplePrincipal
  lease := none
  profileBinding := .unbound
  pages := []
  visualGroupHint := none
  capabilities := []
  warnings := []
  retention := .retain

theorem short_warning_fits : WarningsFit quietSpace ∧ WarningsFit (quietSpace.warn "user return fence was not acknowledged") := by
  have fit : WarningsFit quietSpace := by
    intro warning inside
    cases inside
  have short : ShortWarning "user return fence was not acknowledged" := .of_size (by decide)
  exact ⟨fit, (warning_fits_iff _ quietSpace fit).2.1.mpr short⟩

theorem accented_size {count : Nat} (fewer : count ≤ 512) :
    (boundedWarning (String.ofList (List.replicate count 'é'))).utf8ByteSize = count * 2 := by
  have letter : isControl 'é' = false := by decide
  have two : 'é'.utf8Size = 2 := by decide
  rw [boundedWarning_size, printable, String.toList_ofList, List.filter_replicate, letter, Bool.not_false, if_pos rfl,
    List.take_replicate, Nat.min_eq_right fewer, replicate_size, two]

def accentedWarning : String := String.ofList (List.replicate 257 'é')

theorem accented_warning_refused : boundedText (boundedWarning accentedWarning) 512 = false := by
  have size : (boundedWarning accentedWarning).utf8ByteSize = 514 := accented_size (by decide)
  have large : decide (514 ≤ 512) = false := by decide
  rw [boundedText, size, large, Bool.false_and]

end Samples

end AgentycHost
