import AgentycHost.Effects.References
import AgentycHost.System.Runs

set_option autoImplicit false

/-! # References that come back to life -/

namespace AgentycHost

open Shared

inductive RefCommand where
  | issue (envelope : SnapshotEnvelope) (frameId : FrameId) (elementKey : ElementKey) (now : Timestamp)
  | issueWithId (refId : RefId) (envelope : SnapshotEnvelope) (frameId : FrameId) (elementKey : ElementKey)
      (now : Timestamp)
  | register (element : ElementRef) (provenance : SnapshotProvenance) (now : Timestamp)
  | resolve (element : ElementRef) (frameId : FrameId) (current : SnapshotProvenance) (now : Timestamp)
  | resolveAgainstSnapshot (element : ElementRef) (envelope : SnapshotEnvelope) (now : Timestamp)
  | resolveId (refId : RefId) (frameId : FrameId) (current : SnapshotProvenance) (now : Timestamp)
  | invalidate (refId : RefId) (reason : RefInvalidationReason) (now : Timestamp)
  | invalidateScope (spaceId : SpaceId) (pageId : PageId) (now : Timestamp)
  | invalidateRerender (spaceId : SpaceId) (pageId : PageId) (now : Timestamp)
  | invalidateRawEvaluation (spaceId : SpaceId) (pageId : PageId) (now : Timestamp)
  | invalidateTakeover (spaceId : SpaceId) (pageId : PageId) (now : Timestamp)
  | invalidateReconnect (spaceId : SpaceId) (pageId : PageId) (now : Timestamp)
  | invalidateFrame (spaceId : SpaceId) (pageId : PageId) (frameId : FrameId) (now : Timestamp)
  | invalidateDocumentGeneration (spaceId : SpaceId) (pageId : PageId) (generation : Generation) (now : Timestamp)
  | invalidateNavigationGeneration (spaceId : SpaceId) (pageId : PageId) (generation : Generation) (now : Timestamp)
  | invalidateRefEpoch (spaceId : SpaceId) (pageId : PageId) (refsEpoch : Nat) (now : Timestamp)
  | invalidateProvenance (current : SnapshotProvenance) (now : Timestamp)
  | invalidateAll (now : Timestamp)
  | purgeExpired (now : Timestamp)
  deriving DecidableEq

inductive RefReply where
  | issued (element : ElementRef)
  | registered
  | resolved
  | refused (error : CoreError)
  | done
  deriving DecidableEq

namespace RefCommand

def ofResolution (result : RefRegistry × Except CoreError Unit) : RefRegistry × RefReply :=
  match result with
  | (registry, .ok ()) => (registry, .resolved)
  | (registry, .error error) => (registry, .refused error)

def run (codec : Codec) (registry : RefRegistry) : RefCommand -> RefRegistry × RefReply
  | .issue envelope frameId elementKey now =>
      match registry.issue codec envelope frameId elementKey now with
      | (registry, .ok element) => (registry, .issued element)
      | (registry, .error error) => (registry, .refused error)
  | .issueWithId refId envelope frameId elementKey now =>
      match registry.issueWithId codec refId envelope frameId elementKey now with
      | .ok (element, registry) => (registry, .issued element)
      | .error error => (registry, .refused error)
  | .register element provenance now =>
      match registry.register element provenance now with
      | .ok registry => (registry, .registered)
      | .error error => (registry, .refused error)
  | .resolve element frameId current now => ofResolution (registry.resolveRef element frameId current now)
  | .resolveAgainstSnapshot element envelope now =>
      ofResolution (registry.resolveAgainstSnapshot codec element envelope now)
  | .resolveId refId frameId current now => ofResolution (registry.resolveId refId frameId current now)
  | .invalidate refId reason now => (registry.invalidateRef refId reason now, .done)
  | .invalidateScope spaceId pageId now => (registry.invalidateScope spaceId pageId now, .done)
  | .invalidateRerender spaceId pageId now => (registry.invalidateRerender spaceId pageId now, .done)
  | .invalidateRawEvaluation spaceId pageId now => (registry.invalidateRawEvaluation spaceId pageId now, .done)
  | .invalidateTakeover spaceId pageId now => (registry.invalidateTakeover spaceId pageId now, .done)
  | .invalidateReconnect spaceId pageId now => (registry.invalidateReconnect spaceId pageId now, .done)
  | .invalidateFrame spaceId pageId frameId now => (registry.invalidateFrame spaceId pageId frameId now, .done)
  | .invalidateDocumentGeneration spaceId pageId generation now =>
      (registry.invalidateDocumentGeneration spaceId pageId generation now, .done)
  | .invalidateNavigationGeneration spaceId pageId generation now =>
      (registry.invalidateNavigationGeneration spaceId pageId generation now, .done)
  | .invalidateRefEpoch spaceId pageId refsEpoch now =>
      (registry.invalidateRefEpoch spaceId pageId refsEpoch now, .done)
  | .invalidateProvenance current now => (registry.invalidateProvenance current now, .done)
  | .invalidateAll now => (registry.invalidateAll now, .done)
  | .purgeExpired now => (registry.purgeExpired now, .done)

/-- The caller selects the identity itself. -/
def selectsId : RefCommand -> Bool
  | .issueWithId .. | .register .. => true
  | _ => false

open RefRegistry in
/-- The records that an invalidation or a purge is about. -/
def condemns (record : RefRecord) : RefCommand -> Bool
  | .invalidate refId _ _ => record.elementRef.refId == refId
  | .invalidateScope spaceId pageId _ | .invalidateRerender spaceId pageId _
  | .invalidateRawEvaluation spaceId pageId _ | .invalidateTakeover spaceId pageId _
  | .invalidateReconnect spaceId pageId _ => onPage spaceId pageId record
  | .invalidateFrame spaceId pageId frameId _ => onFrame spaceId pageId frameId record
  | .invalidateDocumentGeneration spaceId pageId generation _ => ofOtherDocument spaceId pageId generation record
  | .invalidateNavigationGeneration spaceId pageId generation _ => ofOtherNavigation spaceId pageId generation record
  | .invalidateRefEpoch spaceId pageId refsEpoch _ => ofOtherEpoch spaceId pageId refsEpoch record
  | .invalidateProvenance current _ => ofOtherProvenance current record
  | .invalidateAll _ => true
  | .purgeExpired now => hasExpired now record
  | _ => false

end RefCommand

structure RefStep where
  command : RefCommand
  reply : RefReply
  deriving DecidableEq

abbrev RefMoment := Moment RefRegistry RefStep

def RefStep.follow (codec : Codec) (step : RefStep) (registry : RefRegistry) : Option RefRegistry :=
  let result := step.command.run codec registry
  if result.2 = step.reply then some result.1 else none

abbrev RefRun (codec : Codec) (limits : RefRegistryLimits) : List RefMoment -> RefRegistry -> Prop :=
  Run (fun step before after => step.follow codec before = some after) (.new limits)

theorem RefStep.follow_iff {codec : Codec} {step : RefStep} {before after : RefRegistry} :
    step.follow codec before = some after <-> step.command.run codec before = (after, step.reply) := by
  unfold RefStep.follow
  rw [Option.ite_none_right_eq_some]
  constructor
  · rintro ⟨answered, reached⟩
    exact Prod.ext (Option.some.inj reached) answered
  · intro ran
    simp [ran]

/-- The element, provenance and time of a registration that succeeds. -/
def registration (moment : RefMoment) : Option (ElementRef × SnapshotProvenance × Timestamp) :=
  match moment.label.command, moment.label.reply with
  | .issue envelope _ _ now, .issued element => some (element, envelope.provenance, now)
  | .issueWithId _ envelope _ _ now, .issued element => some (element, envelope.provenance, now)
  | .register element provenance now, .registered => some (element, provenance, now)
  | _, _ => none

/-- What a caller presents to a resolution; the identity alone may do. -/
structure Presented where
  refId : RefId
  element : Option ElementRef
  frameId : FrameId
  provenance : SnapshotProvenance
  now : Timestamp

/-- A resolution that succeeds. -/
def resolved (moment : RefMoment) : Option Presented :=
  match moment.label.command, moment.label.reply with
  | .resolve element frameId current now, .resolved =>
      some { refId := element.refId, element := some element, frameId, provenance := current, now }
  | .resolveAgainstSnapshot element envelope now, .resolved =>
      some { refId := element.refId, element := some element, frameId := element.frameId,
             provenance := envelope.provenance, now }
  | .resolveId refId frameId current now, .resolved =>
      some { refId, element := none, frameId, provenance := current, now }
  | _, _ => none

/-- A live reference leaves the registry, or gives its place to a new one of its name. -/
def invalidated (refId : RefId) (moment : RefMoment) : Bool :=
  moment.before.active.contains refId &&
    (!moment.after.active.contains refId ||
      (registration moment).any fun (element, _, _) => element.refId == refId)

section Steps

open RefRegistry

variable {codec : Codec} {before after : RefRegistry} {command : RefCommand} {reply : RefReply} {refId : RefId}
  {element : ElementRef} {now : Timestamp} {elementKey : ElementKey} {frameId : FrameId} {envelope : SnapshotEnvelope}

structure RefMoved (before after : RefRegistry) (registered : Option (ElementRef × SnapshotProvenance × Timestamp)) :
    Prop where
  limits : after.limits = before.limits
  next : before.nextRefNumber ≤ after.nextRefNumber
  tidy : after.Tidy
  own : ∀ element provenance now, registered = some (element, provenance, now) ->
    ∃ record, after.active.get? element.refId = some record ∧
      IssuedFor before.limits element provenance now record
  kept : ∀ refId record, after.active.get? refId = some record ->
    (∀ element provenance now, registered = some (element, provenance, now) -> refId ≠ element.refId) ->
    ∃ old, before.active.get? refId = some old ∧ record.elementRef = old.elementRef ∧
      record.provenance = old.provenance ∧ record.issuedAt = old.issuedAt ∧ record.expiresAt = old.expiresAt

theorem RefRegistry.Resolves.moved (resolves : Resolves before after) : RefMoved before after none :=
  ⟨resolves.limits, Nat.le_of_eq resolves.next.symm, resolves.tidy, fun _ _ _ impossible => (by cases impossible),
    fun refId record found _ => resolves.kept refId record found⟩

theorem RefRegistry.Registers.moved {provenance : SnapshotProvenance}
    (registers : Registers before after element provenance now) :
    RefMoved before after (some (element, provenance, now)) := by
  refine ⟨registers.limits, Nat.le_of_eq registers.next.symm, registers.tidy, ?_, fun refId record found other => ?_⟩
  · rintro _ _ _ ⟨⟩
    exact registers.own
  · exact ⟨record, registers.kept refId record (other _ _ _ rfl) found, rfl, rfl, rfl, rfl⟩

theorem RefMoved.allocated {number : Nat} {registered : Option (ElementRef × SnapshotProvenance × Timestamp)}
    (later : before.nextRefNumber ≤ number) (moved : RefMoved { before with nextRefNumber := number } after registered) :
    RefMoved before after registered :=
  { moved with next := later.trans moved.next }

theorem RefRegistry.Tidy.numbered (tidy : before.Tidy) (number : Nat) : Tidy { before with nextRefNumber := number } :=
  { tidy with }

theorem issue_moved (tidy : before.Tidy) {outcome : Except CoreError ElementRef}
    (ran : before.issue codec envelope frameId elementKey now = (after, outcome)) :
    RefMoved before after (outcome.toOption.map fun element => (element, envelope.provenance, now)) ∧
      ∀ element, outcome = .ok element -> ∃ number, element.refId = .host number ∧
        before.nextRefNumber ≤ number ∧ number < after.nextRefNumber ∧
        before.active.contains element.refId = false ∧ before.tombstones.contains element.refId = false := by
  simp only [RefRegistry.issue] at ran
  split_ifs at ran
  · cases ran
    exact ⟨(Shrinks.refl tidy).resolves.moved, fun _ impossible => by cases impossible⟩
  rcases allocated : before.allocateRefId (before.active.size + before.tombstones.size + 1) with ⟨advanced, found⟩
  rw [allocated] at ran
  cases found with
  | error error =>
    cases ran
    obtain ⟨number, later, rfl⟩ := allocateRefId_error allocated
    exact ⟨.allocated later (Shrinks.refl (tidy.numbered number)).resolves.moved, fun _ impossible => by
      cases impossible⟩
  | ok refId =>
    obtain ⟨number, rfl, later, rfl, free⟩ := allocateRefId_ok allocated
    have spent := later.trans (Nat.le_succ number)
    simp only at ran
    cases issued : RefRegistry.issueWithId codec { before with nextRefNumber := number + 1 } (.host number) envelope
        frameId elementKey now with
    | error error =>
      rw [issued] at ran
      cases ran
      exact ⟨.allocated spent (Shrinks.refl (tidy.numbered _)).resolves.moved, fun _ impossible => by
        cases impossible⟩
    | ok result =>
      obtain ⟨element, registry⟩ := result
      rw [issued] at ran
      cases ran
      obtain ⟨registers, named⟩ := issueWithId_ok (tidy.numbered _) issued
      refine ⟨.allocated spent registers.moved, ?_⟩
      rintro _ ⟨⟩
      refine ⟨number, named, later, ?_, ?_⟩
      · rw [registers.next]
        exact Nat.lt_succ_self number
      · rw [named]
        exact free

theorem run_issued (tidy : before.Tidy)
    (ran : (RefCommand.issue envelope frameId elementKey now).run codec before = (after, .issued element)) :
    ∃ number, element.refId = .host number ∧ before.nextRefNumber ≤ number ∧ number < after.nextRefNumber ∧
      before.active.contains element.refId = false ∧ before.tombstones.contains element.refId = false := by
  rcases issued : before.issue codec envelope frameId elementKey now with ⟨registry, outcome⟩
  simp only [RefCommand.run, issued] at ran
  cases outcome with
  | error error => simp at ran
  | ok other =>
    cases ran
    exact (issue_moved tidy issued).2 _ rfl

theorem run_moved (tidy : before.Tidy) (ran : command.run codec before = (after, reply)) :
    RefMoved before after (registration ⟨before, ⟨command, reply⟩, after⟩) := by
  have matching (test : RefRecord -> Bool) (reason : RefInvalidationReason) (now : Timestamp) :
      RefMoved before (before.invalidateMatching test reason now) none :=
    (invalidateMatching_shrinks tidy test reason now).resolves.moved
  cases command with
  | issue envelope frameId elementKey now =>
    rcases issued : before.issue codec envelope frameId elementKey now with ⟨registry, outcome⟩
    have moved := (issue_moved tidy issued).1
    simp only [RefCommand.run, issued] at ran
    cases outcome <;> cases ran <;> exact moved
  | issueWithId refId envelope frameId elementKey now =>
    simp only [RefCommand.run] at ran
    cases issued : before.issueWithId codec refId envelope frameId elementKey now with
    | error error =>
      rw [issued] at ran
      cases ran
      exact (Shrinks.refl tidy).resolves.moved
    | ok result =>
      rw [issued] at ran
      cases ran
      exact (issueWithId_ok tidy issued).1.moved
  | register element provenance now =>
    simp only [RefCommand.run] at ran
    cases registered : before.register element provenance now with
    | error error =>
      rw [registered] at ran
      cases ran
      exact (Shrinks.refl tidy).resolves.moved
    | ok registry =>
      rw [registered] at ran
      cases ran
      exact (register_ok tidy registered).moved
  | resolve element frameId current now =>
    rcases found : before.resolveRef element frameId current now with ⟨registry, outcome⟩
    have moved := (resolveRef_resolves tidy found).moved
    simp only [RefCommand.run, RefCommand.ofResolution, found] at ran
    cases outcome <;> cases ran <;> exact moved
  | resolveAgainstSnapshot element envelope now =>
    rcases found : before.resolveAgainstSnapshot codec element envelope now with ⟨registry, outcome⟩
    have moved := (resolveAgainstSnapshot_resolves tidy found).moved
    simp only [RefCommand.run, RefCommand.ofResolution, found] at ran
    cases outcome <;> cases ran <;> exact moved
  | resolveId refId frameId current now =>
    rcases found : before.resolveId refId frameId current now with ⟨registry, outcome⟩
    have moved := (resolveId_resolves tidy found).moved
    simp only [RefCommand.run, RefCommand.ofResolution, found] at ran
    cases outcome <;> cases ran <;> exact moved
  | invalidate refId reason now =>
    cases ran
    exact (invalidateRef_shrinks tidy refId reason now).resolves.moved
  | invalidateProvenance current now =>
    cases ran
    exact (invalidateProvenance_shrinks tidy current now).resolves.moved
  | _ =>
    -- every other call invalidates the records that pass a test
    cases ran
    exact matching _ _ _

theorem run_resolved (tidy : before.Tidy) (ran : command.run codec before = (after, reply)) {presented : Presented}
    (succeeded : resolved ⟨before, ⟨command, reply⟩, after⟩ = some presented) :
    ∃ record, before.Matches presented.refId presented.frameId presented.provenance presented.now record ∧
      ∀ element, presented.element = some element -> record.elementRef = element := by
  unfold resolved at succeeded
  have ended (result : RefRegistry × Except CoreError Unit) (answered : RefCommand.ofResolution result = (after, .resolved)) :
      result = (after, .ok ()) := by
    obtain ⟨registry, outcome⟩ := result
    cases outcome <;> cases answered
    rfl
  split at succeeded
  · next asked answered =>
    simp only at asked answered
    subst asked answered
    cases succeeded
    obtain ⟨record, found, same⟩ := resolveRef_ok tidy (ended _ ran)
    refine ⟨record, found, ?_⟩
    rintro _ ⟨⟩
    exact same
  · next asked answered =>
    simp only at asked answered
    subst asked answered
    cases succeeded
    obtain ⟨record, found, same⟩ := resolveAgainstSnapshot_ok tidy (ended _ ran)
    refine ⟨record, found, ?_⟩
    rintro _ ⟨⟩
    exact same
  · next asked answered =>
    simp only at asked answered
    subst asked answered
    cases succeeded
    obtain ⟨record, found⟩ := resolveId_ok tidy (ended _ ran)
    exact ⟨record, found, fun _ impossible => by cases impossible⟩
  · cases succeeded

theorem run_condemned (tidy : before.Tidy) (ran : command.run codec before = (after, reply)) {record : RefRecord}
    (found : before.active.get? refId = some record) (condemned : command.condemns record = true) :
    after.active.get? refId = none := by
  cases command with
  | invalidate other reason now =>
    cases ran
    have named := tidy.named refId record found
    obtain rfl : refId = other := named.symm.trans (by simpa [RefCommand.condemns] using condemned)
    exact invalidateRef_gone tidy refId reason now
  | invalidateProvenance current now =>
    cases ran
    exact invalidateProvenance_gone tidy found condemned
  | issue => cases condemned
  | issueWithId => cases condemned
  | register => cases condemned
  | resolve => cases condemned
  | resolveAgainstSnapshot => cases condemned
  | resolveId => cases condemned
  | _ =>
    cases ran
    exact invalidateMatching_gone tidy found condemned

end Steps

section Runs

open RefRegistry

variable {codec : Codec} {limits : RefRegistryLimits} {trace : List RefMoment} {last : RefRegistry} {refId : RefId}
  {record : RefRecord}

theorem RefRun.tidy (run : RefRun codec limits trace last) : last.Tidy ∧ last.limits = limits := by
  refine run.keeps (fun registry => registry.Tidy ∧ registry.limits = limits) ⟨new_tidy limits, rfl⟩ ?_
  rintro moment _ taken ⟨tidy, configured⟩
  have moved := run_moved tidy (RefStep.follow_iff.mp taken)
  exact ⟨moved.tidy, moved.limits.trans configured⟩

theorem invalidated_iff {moment : RefMoment} : invalidated refId moment = true <->
    moment.before.active.contains refId = true ∧ (moment.after.active.contains refId = false ∨
      ∃ element provenance now, registration moment = some (element, provenance, now) ∧ element.refId = refId) := by
  unfold invalidated
  rcases registration moment with _ | ⟨element, provenance, now⟩ <;> simp

theorem RefRun.since_registered (run : RefRun codec limits trace last) (found : last.active.get? refId = some record) :
    Since (fun moment => registration moment = some (record.elementRef, record.provenance, record.issuedAt))
        (fun moment => invalidated refId moment = true) trace ∧
      record.expiresAt = expiry limits record.issuedAt := by
  induction run generalizing record with
  | nil => simp [RefRegistry.new] at found
  | @step trace before after label earlier taken ih =>
    obtain ⟨tidy, configured⟩ := RefRun.tidy earlier
    have moved := run_moved tidy (RefStep.follow_iff.mp taken)
    rw [since_cons]
    by_cases own : ∃ element provenance now,
        registration ⟨before, label, after⟩ = some (element, provenance, now) ∧ element.refId = refId
    next =>
      obtain ⟨element, provenance, now, registered, rfl⟩ := own
      obtain ⟨new, there, same, source, at_, expires⟩ := moved.own _ _ _ registered
      obtain rfl := Option.some.inj (there.symm.trans found)
      subst same source at_
      exact ⟨.inl registered, configured ▸ expires⟩
    next =>
      have elsewhere (element : ElementRef) (provenance : SnapshotProvenance) (now : Timestamp)
          (registered : registration ⟨before, label, after⟩ = some (element, provenance, now)) :
          refId ≠ element.refId :=
        fun same => own ⟨element, provenance, now, registered, same.symm⟩
      obtain ⟨old, there, element, provenance, issuedAt, expiresAt⟩ := moved.kept refId record found elsewhere
      obtain ⟨since, expires⟩ := ih there
      rw [element, provenance, issuedAt, expiresAt]
      refine ⟨.inr ⟨since, fun ended => ?_⟩, expires⟩
      -- the record is still there, and no other took its name
      obtain ⟨_, gone | replaced⟩ := invalidated_iff.mp ended
      · simp [Table.contains, found] at gone
      · exact own replaced

theorem RefRun.allocated_gone (run : RefRun codec limits trace last)
    (allocated : ∀ moment, moment ∈ trace -> moment.label.command.selectsId = false) :
    (∀ refId record, last.active.get? refId = some record -> ∃ number, refId = .host number ∧
        number < last.nextRefNumber) ∧
      ∀ refId moment, moment ∈ trace -> invalidated refId moment = true ->
        (∃ number, refId = .host number ∧ number < last.nextRefNumber) ∧ last.active.get? refId = none := by
  induction run with
  | nil => exact ⟨fun _ _ found => by simp [RefRegistry.new] at found, fun _ _ inside => by cases inside⟩
  | @step trace before after label earlier taken ih =>
    obtain ⟨numbered, gone⟩ := ih fun moment inside => allocated moment (List.mem_cons_of_mem _ inside)
    have ran := RefStep.follow_iff.mp taken
    have tidy := (RefRun.tidy earlier).1
    have moved := run_moved tidy ran
    -- a registration takes a number that was never given out
    have fresh (element : ElementRef) (provenance : SnapshotProvenance) (now : Timestamp)
        (registered : registration ⟨before, label, after⟩ = some (element, provenance, now)) :
        ∃ number, element.refId = .host number ∧ before.nextRefNumber ≤ number ∧ number < after.nextRefNumber := by
      have plain := allocated _ List.mem_cons_self
      obtain ⟨command, reply⟩ := label
      unfold registration at registered
      split at registered
      · next asked answered =>
        simp only at asked answered
        subst asked answered
        cases registered
        obtain ⟨number, same, later, spent, _⟩ := run_issued tidy ran
        exact ⟨number, same, later, spent⟩
      · next asked _ =>
        simp only at asked
        subst asked
        cases plain
      · next asked _ =>
        simp only at asked
        subst asked
        cases plain
      · cases registered
    have stays (refId : RefId) (old : ∃ number, refId = .host number ∧ number < before.nextRefNumber)
        (absent : before.active.get? refId = none) : after.active.get? refId = none := by
      cases there : after.active.get? refId with
      | none => rfl
      | some record =>
        obtain ⟨number, rfl, spent⟩ := old
        obtain ⟨_, was, _⟩ := moved.kept _ record there fun element provenance now registered same => by
          obtain ⟨new, named, later, _⟩ := fresh element provenance now registered
          rw [← same] at named
          cases named
          omega
        rw [absent] at was
        cases was
    refine ⟨fun refId record found => ?_, fun refId moment inside ended => ?_⟩
    · by_cases own : ∃ element provenance now,
          registration ⟨before, label, after⟩ = some (element, provenance, now) ∧ element.refId = refId
      · obtain ⟨element, provenance, now, registered, rfl⟩ := own
        obtain ⟨number, named, _, spent⟩ := fresh element provenance now registered
        exact ⟨number, named, spent⟩
      · obtain ⟨old, there, _⟩ := moved.kept refId record found fun element provenance now registered same =>
          own ⟨element, provenance, now, registered, same.symm⟩
        obtain ⟨number, named, spent⟩ := numbered refId old there
        exact ⟨number, named, spent.trans_le moved.next⟩
    · rcases List.mem_cons.mp inside with rfl | inside
      · obtain ⟨live, out⟩ := invalidated_iff.mp ended
        obtain ⟨record, found⟩ := (Table.contains_iff _ _).mp live
        obtain ⟨number, rfl, spent⟩ := numbered refId record found
        refine ⟨⟨number, rfl, spent.trans_le moved.next⟩, ?_⟩
        rcases out with absent | ⟨element, provenance, now, registered, same⟩
        · simpa [Table.contains] using absent
        · obtain ⟨new, named, later, _⟩ := fresh element provenance now registered
          rw [same] at named
          cases named
          omega
      · obtain ⟨⟨number, rfl, spent⟩, absent⟩ := gone refId moment inside ended
        exact ⟨⟨number, rfl, spent.trans_le moved.next⟩, stays _ ⟨number, rfl, spent⟩ absent⟩

/-- What a resolution that succeeds says about the trace before it. -/
structure SoundlyResolved (limits : RefRegistryLimits) (presented : Presented) (earlier : List RefMoment)
    (element : ElementRef) (issuedAt : Timestamp) : Prop where
  named : element.refId = presented.refId
  same : ∀ shown, presented.element = some shown -> shown = element
  framed : element.frameId = presented.frameId
  since : Since (fun moment => registration moment = some (element, presented.provenance, issuedAt))
    (fun moment => invalidated presented.refId moment = true) earlier
  unexpired : ∀ expiresAt, expiry limits issuedAt = some expiresAt -> presented.now < expiresAt

theorem Matches.sound {before : RefRegistry} {earlier : List RefMoment} {presented : Presented}
    (run : RefRun codec limits earlier before)
    (found : before.Matches presented.refId presented.frameId presented.provenance presented.now record)
    (shown : ∀ element, presented.element = some element -> record.elementRef = element) :
    SoundlyResolved limits presented earlier record.elementRef record.issuedAt := by
  obtain ⟨since, expires⟩ := RefRun.since_registered run found.live
  rw [found.provenance] at since
  refine ⟨(RefRun.tidy run).1.named _ record found.live, fun element same => (shown element same).symm, found.frame,
    since, fun expiresAt same => ?_⟩
  have unexpired := found.unexpired
  rw [hasExpired, expires, same] at unexpired
  simpa using unexpired

/-- Over every sequence of calls: the bounds hold and the order lists the tombstones; a resolution succeeds only as
registered, unexpired and not invalidated since; what is invalidated or purged is gone, and stays gone unless a caller
selects its identity again; and an issue gives out no identity that is live or remembered. -/
theorem refs_sound (run : RefRun codec limits trace last) :
    (∀ moment, moment ∈ trace -> moment.after.Tidy ∧ moment.after.limits = limits) ∧
      ∀ later moment earlier, trace = later ++ moment :: earlier ->
        (∀ presented, resolved moment = some presented ->
          ∃ element issuedAt, SoundlyResolved limits presented earlier element issuedAt) ∧
        (∀ refId record, moment.before.active.get? refId = some record ->
          moment.label.command.condemns record = true -> moment.after.active.get? refId = none) ∧
        (∀ envelope frameId elementKey now element,
          moment.label = ⟨.issue envelope frameId elementKey now, .issued element⟩ ->
          moment.before.active.contains element.refId = false ∧
            moment.before.tombstones.contains element.refId = false) ∧
        ((∀ other, other ∈ earlier -> other.label.command.selectsId = false) ->
          ∀ presented, resolved moment = some presented ->
            ∀ other, other ∈ earlier -> invalidated presented.refId other = false) := by
  refine ⟨fun moment inside => ?_, ?_⟩
  · obtain ⟨earlier, _, before, taken, _⟩ := run.at_moment inside
    obtain ⟨tidy, configured⟩ := RefRun.tidy before
    have moved := run_moved tidy (RefStep.follow_iff.mp taken)
    exact ⟨moved.tidy, moved.limits.trans configured⟩
  rintro later ⟨before, ⟨command, reply⟩, after⟩ earlier rfl
  obtain ⟨early, taken⟩ := run.before_moment
  have tidy := (RefRun.tidy early).1
  have ran := RefStep.follow_iff.mp taken
  refine ⟨fun presented succeeded => ?_, fun refId record found condemned => ?_, ?_, ?_⟩
  · obtain ⟨record, found, shown⟩ := run_resolved tidy ran succeeded
    exact ⟨_, _, Matches.sound early found shown⟩
  · exact run_condemned tidy ran found condemned
  · rintro envelope frameId elementKey now element ⟨⟩
    obtain ⟨_, _, _, _, free⟩ := run_issued tidy ran
    exact free
  · intro allocated presented succeeded other inside
    by_contra ended
    obtain ⟨record, found, _⟩ := run_resolved tidy ran succeeded
    have gone := (RefRun.allocated_gone early allocated).2 _ other inside (by simpa using ended)
    rw [found.live] at gone
    exact absurd gone.2 (by simp)

theorem savedRef_ref : validateIdentifier "ref_" "saved" = true := by decide +kernel

theorem savedRef_element : validateIdentifier "element_" "button" = true := by decide

theorem savedRef_frame : validateIdentifier "frame_" "top" = true := by decide

def savedRef : ElementRef where
  refId := .foreign ⟨"saved", savedRef_ref⟩
  elementKey := ⟨"button", savedRef_element⟩
  spaceId := ⟨1⟩
  pageId := ⟨1⟩
  frameId := ⟨"top", savedRef_frame⟩
  snapshotVersion := 1
  documentGeneration := 1
  navigationGeneration := 1
  refsEpoch := 1

def savedProvenance : SnapshotProvenance where
  spaceId := ⟨1⟩
  pageId := ⟨1⟩
  snapshotVersion := 1
  snapshotHash := ⟨0⟩
  documentGeneration := 1
  navigationGeneration := 1
  refsEpoch := 1
  coherent := true
  coverage := .complete

def savedTwice : List RefStep :=
  [⟨.register savedRef savedProvenance 1, .registered⟩, ⟨.invalidate savedRef.refId .explicit 2, .done⟩,
    ⟨.register savedRef savedProvenance 3, .registered⟩,
    ⟨.resolve savedRef savedRef.frameId savedProvenance 4, .resolved⟩]

def savedTrace : List RefMoment := (visits (RefStep.follow sampleCodec) savedTwice (.new {})).reverse

theorem savedTwice_run : ∃ last, RefRun sampleCodec {} savedTrace last := by
  obtain ⟨last, run, _⟩ := advance_reaches (RefStep.follow sampleCodec) (.new {}) savedTwice (fun _ => true)
    (by decide)
  exact ⟨last, run⟩

def savedShown : Presented where
  refId := savedRef.refId
  element := some savedRef
  frameId := savedRef.frameId
  provenance := savedProvenance
  now := 4

theorem refs_sound_saved : ∃ moment earlier element issuedAt, savedTrace = moment :: earlier ∧
    resolved moment = some savedShown ∧ SoundlyResolved {} savedShown earlier element issuedAt := by
  obtain ⟨last, run⟩ := savedTwice_run
  have sound := (refs_sound run).2
  cases split : savedTrace with
  | nil => exact absurd split (by decide)
  | cons moment earlier =>
    have shown : resolved moment = some savedShown := by
      have first : savedTrace.head? = some moment := by rw [split]; rfl
      have all : savedTrace.head?.bind resolved = some savedShown := rfl
      rw [first] at all
      exact all
    obtain ⟨element, issuedAt, soundly⟩ := (sound [] moment earlier split).1 savedShown shown
    exact ⟨moment, earlier, element, issuedAt, rfl, shown, soundly⟩

/-- The identity was invalidated and remembered when it was registered again, and it resolves. -/
theorem registered_again_resolves : ∃ last moment again ended earlier, RefRun sampleCodec {} savedTrace last ∧
    savedTrace = moment :: again :: ended :: earlier ∧
    ended.label.command = .invalidate savedRef.refId .explicit 2 ∧ invalidated savedRef.refId ended = true ∧
    again.before.tombstones.contains savedRef.refId = true ∧
    registration again = some (savedRef, savedProvenance, 3) ∧ resolved moment = some savedShown := by
  obtain ⟨last, run⟩ := savedTwice_run
  exact ⟨last, _, _, _, _, run, rfl, rfl, rfl, rfl, rfl, rfl⟩

end Runs

end AgentycHost
