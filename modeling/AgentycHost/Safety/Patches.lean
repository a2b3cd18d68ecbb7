import AgentycHost.Context.Diffs
import Mathlib.Data.List.Induction

set_option autoImplicit false

/-! # Patches give valid documents and undo differences -/

namespace AgentycHost

open Shared

section Sample

variable {elements : List SnapshotElement}

def leavingKey : ElementKey := ⟨"a", by decide⟩
def stayingKey : ElementKey := ⟨"b", by decide⟩

def plainElement (key : ElementKey) (order : Nat) : SnapshotElement where
  key := key
  parent := none
  kind := .element
  text := none
  attributes := .empty
  order := order

def documentOf (snapshotVersion : SnapshotVersion) (elements : List SnapshotElement) : SnapshotDocument where
  snapshotVersion := snapshotVersion
  elements := elements
  snapshotHash := hashElements elements

def firstDocument : SnapshotDocument := documentOf 1 [plainElement leavingKey 0, plainElement stayingKey 1]
def secondDocument : SnapshotDocument := documentOf 2 [plainElement stayingKey 0]

def renumbering : SnapshotDelta where
  baseSnapshotVersion := 1
  baseHash := firstDocument.snapshotHash
  resultSnapshotVersion := 2
  resultHash := secondDocument.snapshotHash
  deltaSequence := 1
  chainDepth := 1
  operations := [.remove leavingKey, .move stayingKey 0 none]

def envelopeOf (document : SnapshotDocument) : ContextEnvelope where
  schemaVersion := 1
  spaceId := ⟨1⟩
  pageId := ⟨1⟩
  snapshotVersion := document.snapshotVersion
  snapshotHash := document.snapshotHash
  baseSnapshotVersion := none
  baseHash := none
  resultHash := document.snapshotHash
  deltaSequence := none
  topologyVersion := 1
  navigationGeneration := 1
  documentGeneration := 1
  frameVersions := .empty
  changed := []
  deltaOrElements := .elements document.elements
  mode := .full
  operationCount := 0
  coherent := true
  coverage := .complete
  cacheState := .fresh
  resyncReason := none
  tokenizer := none
  omitted := []
  truncated := false
  resyncRequired := false
  refsEpoch := 1

theorem documentOf_normal {snapshotVersion : SnapshotVersion} (normal : normalizeElements elements = .ok elements)
    (each : AllValid elements) :
    (documentOf snapshotVersion elements).Normal := ⟨SnapshotDocument.validate_of normal each rfl, normal⟩

theorem plain_valid (plain : elements.all (fun element => plainElement element.key element.order == element) = true) :
    AllValid elements := by
  intro element inside
  have same := List.all_eq_true.mp plain element inside
  rw [← eq_of_beq same]
  rfl

theorem firstDocument_normal : firstDocument.Normal := documentOf_normal rfl (plain_valid rfl)

theorem secondDocument_normal : secondDocument.Normal := documentOf_normal rfl (plain_valid rfl)

theorem renumbering_applies : renumbering.apply firstDocument .default = .ok secondDocument := by
  refine SnapshotDelta.apply_ok.mpr ⟨rfl, rfl, rfl, firstDocument_normal.valid, rfl, _, rfl, ?_, rfl, rfl, rfl⟩
  exact secondDocument_normal.normal

theorem renumbering_built : buildDeltaBody (envelopeOf secondDocument) (envelopeOf firstDocument) firstDocument secondDocument
    .default = .ok (.delta renumbering) := rfl

end Sample

/-- A document that a delta was applied to is valid again. -/
theorem patched_document_valid (delta : SnapshotDelta) (base result : SnapshotDocument) (limits : DeltaLimits)
    (applied : delta.apply base limits = .ok result) : result.validate = .ok () := (delta.apply_normal applied).valid

theorem patched_document_valid_sample : secondDocument.validate = .ok () :=
  patched_document_valid renumbering firstDocument secondDocument .default renumbering_applies

/-- The delta between two documents turns the one into the other. -/
theorem diff_then_patch (current baseEnvelope : ContextEnvelope) (base result : SnapshotDocument) (limits : DeltaLimits)
    (body : SnapshotBody) (base_normal : base.Normal) (result_normal : result.Normal)
    (frames : baseEnvelope.frameVersions = current.frameVersions)
    (built : buildDeltaBody current baseEnvelope base result limits = .ok body) :
    ∃ delta, body = .delta delta ∧ delta.validate limits = .ok () ∧ delta.apply base limits = .ok result ∧
      (base.elements = result.elements -> delta.operations = []) := by
  obtain ⟨delta, rfl, valid, operations, applied⟩ := buildDeltaBody_applies base_normal result_normal frames built
  refine ⟨delta, rfl, valid, applied, ?_⟩
  intro same
  rw [operations, same, differences_self]
  rfl

theorem diff_then_patch_sample : renumbering.apply firstDocument .default = .ok secondDocument := by
  obtain ⟨delta, same, _, applied, _⟩ := diff_then_patch (envelopeOf secondDocument) (envelopeOf firstDocument)
    firstDocument secondDocument .default (.delta renumbering) firstDocument_normal secondDocument_normal rfl
    renumbering_built
  obtain rfl : renumbering = delta := by simpa using same
  exact applied

section Chains

variable {limits : DeltaLimits} {first last document : SnapshotDocument} {deltas received : List SnapshotDelta}

def applyAll (limits : DeltaLimits) (deltas : List SnapshotDelta) (first : SnapshotDocument) :
    Except DeltaError SnapshotDocument :=
  deltas.foldlM (fun document delta => delta.apply document limits) first

/-- A history of documents, each with the delta that was built from the one before it. -/
inductive DeltaChain (limits : DeltaLimits) (first : SnapshotDocument) : List SnapshotDelta -> SnapshotDocument -> Prop where
  | start (normal : first.Normal) : DeltaChain limits first [] first
  | built {deltas : List SnapshotDelta} {base result : SnapshotDocument} {current baseEnvelope : ContextEnvelope}
      {delta : SnapshotDelta} (chain : DeltaChain limits first deltas base) (normal : result.Normal)
      (frames : baseEnvelope.frameVersions = current.frameVersions)
      (built : buildDeltaBody current baseEnvelope base result limits = .ok (.delta delta)) :
      DeltaChain limits first (deltas ++ [delta]) result

theorem SnapshotDelta.apply_versions {delta : SnapshotDelta} (applied : delta.apply first limits = .ok last) :
    delta.baseSnapshotVersion = first.snapshotVersion ∧ first.snapshotVersion < last.snapshotVersion := by
  obtain ⟨valid, base, _, _, _, _, _, _, _, result, _⟩ := SnapshotDelta.apply_ok.mp applied
  simp only [SnapshotDelta.validate, bind_ok, require_ok, decide_eq_true_eq] at valid
  obtain ⟨_, _, _, _, _, advances, _⟩ := valid
  refine ⟨base.symm, ?_⟩
  rw [base, result]
  exact advances

theorem DeltaChain.last_normal (chain : DeltaChain limits first deltas last) : last.Normal := by
  cases chain with
  | start normal => exact normal
  | built _ normal => exact normal

theorem DeltaChain.applies (chain : DeltaChain limits first deltas last) : applyAll limits deltas first = .ok last := by
  induction chain with
  | start => rfl
  | built chain normal frames built applied =>
    obtain ⟨delta, same, _, _, last⟩ := buildDeltaBody_applies chain.last_normal normal frames built
    obtain rfl := SnapshotBody.delta.inj same
    unfold applyAll at applied ⊢
    rw [List.foldlM_append]
    exact bind_ok.mpr ⟨_, applied, by simpa using last⟩

/-- The deltas of a chain start from rising versions, all before the last one. -/
theorem DeltaChain.rising (chain : DeltaChain limits first deltas last) :
    deltas.Pairwise (fun early late => early.baseSnapshotVersion < late.baseSnapshotVersion) ∧
      ∀ delta, delta ∈ deltas -> delta.baseSnapshotVersion < last.snapshotVersion := by
  induction chain with
  | start => exact ⟨.nil, fun _ inside => by cases inside⟩
  | built chain normal frames built earlier =>
    obtain ⟨delta, same, _, _, last⟩ := buildDeltaBody_applies chain.last_normal normal frames built
    obtain rfl := SnapshotBody.delta.inj same
    obtain ⟨base, advances⟩ := SnapshotDelta.apply_versions last
    obtain ⟨rises, bounded⟩ := earlier
    refine ⟨List.pairwise_append.mpr ⟨rises, List.pairwise_singleton _ _, ?_⟩, ?_⟩
    · intro early inside late new
      rw [List.mem_singleton.mp new, base]
      exact bounded early inside
    · intro other inside
      obtain old | new := List.mem_append.mp inside
      · exact (bounded other old).trans advances
      · rw [List.mem_singleton.mp new, base]
        exact advances

/-- All deltas of a chain lead to its last document, and deltas of it that can be applied at all, with any of them
missing, repeated or in another order, are its first ones. -/
theorem deltas_in_order (chain : DeltaChain limits first deltas last) :
    applyAll limits deltas first = .ok last ∧
      ∀ received document, (∀ delta, delta ∈ received -> delta ∈ deltas) ->
        applyAll limits received first = .ok document -> received <+: deltas := by
  refine ⟨chain.applies, ?_⟩
  intro received
  -- the induction is on the last delta received
  induction received using List.reverseRecOn with
  | nil => exact fun _ _ _ => List.nil_prefix
  | append_singleton received delta earlier =>
    intro document drawn applied
    unfold applyAll at applied
    rw [List.foldlM_append] at applied
    obtain ⟨middle, early, later⟩ := bind_ok.mp applied
    have next : delta.apply middle limits = .ok document := by simpa using later
    obtain ⟨rest, split⟩ := earlier middle (fun other inside => drawn other (List.mem_append_left _ inside)) early
    obtain ⟨base, _⟩ := SnapshotDelta.apply_versions next
    have inside := drawn delta (List.mem_append_right _ (List.mem_singleton_self _))
    have whole := chain.applies
    unfold applyAll at whole
    rw [← split, List.foldlM_append, early] at whole
    have tail : rest.foldlM (fun document delta => delta.apply document limits) middle = .ok last := whole
    cases rest with
    | nil =>
      -- nothing of the chain starts from its last version
      cases tail
      have before := chain.rising.2 delta inside
      rw [base] at before
      exact absurd before (Nat.lt_irrefl _)
    | cons following rest =>
      rw [List.foldlM_cons] at tail
      obtain ⟨_, step, _⟩ := bind_ok.mp tail
      obtain ⟨again, _⟩ := SnapshotDelta.apply_versions step
      have placed : following ∈ deltas := by
        rw [← split]
        simp
      have unique : (deltas.map (·.baseSnapshotVersion)).Nodup :=
        List.pairwise_map.mpr (chain.rising.1.imp fun before => Nat.ne_of_lt before)
      have same : delta = following := List.inj_on_of_nodup_map unique inside placed (base.trans again.symm)
      refine ⟨rest, ?_⟩
      rw [same, List.append_assoc]
      exact split

theorem deltas_in_order_sample : applyAll .default [renumbering, renumbering] firstDocument ≠ .ok secondDocument := by
  intro applied
  have start : DeltaChain .default firstDocument [] firstDocument := .start firstDocument_normal
  have chain := start.built secondDocument_normal rfl renumbering_built
  have early := (deltas_in_order chain).2 _ _ (by simp) applied
  have short := early.length_le
  revert short
  decide

end Chains

end AgentycHost
