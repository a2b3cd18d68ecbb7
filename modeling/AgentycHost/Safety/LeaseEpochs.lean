import AgentycHost.Effects.Reopening
import AgentycHost.System.Dispatch

set_option autoImplicit false

/-! # Lease epochs fence -/

namespace AgentycHost

open Shared

inductive StandingLater (sameBroker : Prop) : Option Standing -> Option Standing -> Prop where
  | gone (old : Option Standing) : StandingLater sameBroker old none
  | advanced {old new : Standing} (epoch : old.epoch < new.epoch) : StandingLater sameBroker (some old) (some new)
  | vacated {old new : Standing} (epoch : new.epoch = old.epoch) (holder : new.holder = none)
      (leased : old.lease.isSome = true -> new.lease.isSome = true) :
      StandingLater sameBroker (some old) (some new)
  | held {old new : Standing} (epoch : new.epoch = old.epoch) (holder : new.holder = old.holder)
      (principal : new.lease.map (·.principalId) = old.lease.map (·.principalId)) (broker : sameBroker) :
      StandingLater sameBroker (some old) (some new)

structure LedgerLater (before after : LedgerState) : Prop where
  brokerEpoch : before.brokerEpoch ≤ after.brokerEpoch
  numbers : before.nextSpaceNumber ≤ after.nextSpaceNumber
  standing : ∀ spaceId, spaceId.number ≤ before.nextSpaceNumber ->
    StandingLater (after.brokerEpoch = before.brokerEpoch) (before.standing spaceId) (after.standing spaceId)

variable {config : LedgerConfig} {calls : Table Nat Call} {command : Command} {before middle after disk state : LedgerState}
  {spaceId : SpaceId} {sameBroker : Prop} {new old : Standing}

theorem StandingLater.refl (broker : sameBroker) (standing : Option Standing) :
    StandingLater sameBroker standing standing := by
  cases standing with
  | none => exact .gone _
  | some standing => exact .held rfl rfl rfl broker

theorem isSome_of_principal (principal : new.lease.map (·.principalId) = old.lease.map (·.principalId)) :
    old.lease.isSome = true -> new.lease.isSome = true := by
  intro leased
  rw [← Option.isSome_map, principal, Option.isSome_map]
  exact leased

theorem StandingLater.trans {first second both : Prop} (joined : first -> second -> both)
    {one two three : Option Standing} (left : StandingLater first one two) (right : StandingLater second two three) :
    StandingLater both one three := by
  cases right with
  | gone => exact .gone _
  | advanced later =>
    cases left with
    | advanced earlier => exact .advanced (earlier.trans later)
    | vacated epoch _ _ => exact .advanced (epoch ▸ later)
    | held epoch _ _ _ => exact .advanced (epoch ▸ later)
  | vacated epoch holder leased =>
    cases left with
    | advanced earlier => exact .advanced (epoch ▸ earlier)
    | vacated same _ early => exact .vacated (epoch.trans same) holder (leased ∘ early)
    | held same _ principal _ => exact .vacated (epoch.trans same) holder (leased ∘ isSome_of_principal principal)
  | held epoch holder principal broker =>
    cases left with
    | advanced earlier => exact .advanced (epoch ▸ earlier)
    | vacated same empty early =>
      exact .vacated (epoch.trans same) (holder.trans empty) (isSome_of_principal principal ∘ early)
    | held same holder' principal' broker' =>
      exact .held (epoch.trans same) (holder.trans holder') (principal.trans principal') (joined broker' broker)

theorem StandingLater.epoch {lease : Lease} (later : StandingLater sameBroker (some old) (some new))
    (leased : old.lease = some lease) :
    ∃ next, new.lease = some next ∧ lease.leaseEpoch ≤ next.leaseEpoch := by
  have order : old.epoch ≤ new.epoch ∧ new.lease.isSome = true := by
    cases later with
    | advanced epoch =>
      refine ⟨epoch.le, ?_⟩
      cases found : new.lease with
      | none => simp [Standing.epoch, found] at epoch
      | some _ => rfl
    | vacated epoch _ present => exact ⟨epoch.ge, present (by simp [leased])⟩
    | held epoch _ principal _ => exact ⟨epoch.ge, isSome_of_principal principal (by simp [leased])⟩
  obtain ⟨next, found⟩ := Option.isSome_iff_exists.mp order.2
  exact ⟨next, found, by simpa [Standing.epoch, leased, found] using order.1⟩

theorem LedgerLater.refl (state : LedgerState) : LedgerLater state state :=
  ⟨le_rfl, le_rfl, fun _ _ => .refl rfl _⟩

theorem LedgerLater.trans (left : LedgerLater before middle) (right : LedgerLater middle after) :
    LedgerLater before after where
  brokerEpoch := left.brokerEpoch.trans right.brokerEpoch
  numbers := left.numbers.trans right.numbers
  standing spaceId numbered :=
    (left.standing spaceId numbered).trans (fun first second => second.trans first)
      (right.standing spaceId (numbered.trans left.numbers))

theorem StandingMove.later {queue : List ActionId} {old new : Option Standing}
    (move : StandingMove calls command before queue spaceId old new)
    (numbered : spaceId.number ≤ before.nextSpaceNumber) (broker : sameBroker) :
    StandingLater sameBroker old new := by
  cases move with
  | keep => exact .refl broker _
  | created number => omega
  | granted _ _ _ _ epoch => exact .advanced (by simp [Standing.epoch, epoch])
  | @renewed old _ _ leased _ epoch principal =>
    exact .held (by simp [Standing.epoch, leased, epoch]) rfl (by simp [leased, principal]) broker
  | fenced _ _ epoch => exact .advanced (by simp [Standing.epoch, epoch])
  | ticketed _ epoch => exact .advanced (by simp [Standing.epoch, epoch])
  | reclaimed => exact .held rfl rfl rfl broker
  | returned _ leased => exact .vacated (by simp [Standing.epoch, leased]) rfl fun _ => rfl
  | suspended _ leased => exact .held (by simp [Standing.epoch, leased]) rfl (by simp [leased]) broker
  | drained => exact .held rfl rfl rfl broker
  | finished _ _ leased => exact .held (by simp [Standing.epoch, leased]) rfl (by simp [leased]) broker
  | released => exact .held rfl rfl rfl broker
  | orphaned leased => exact .held (by simp [Standing.epoch, leased]) rfl (by simp [leased]) broker
  | pruned => exact .gone _

theorem LedgerStep.later (valid : Valid config before) (taken : LedgerStep config calls command before after) :
    LedgerLater before after := by
  have effect := taken.spaceEffect valid
  exact ⟨effect.brokerEpoch.ge, effect.numbers,
    fun spaceId numbered => (effect.standing spaceId).later numbered effect.brokerEpoch⟩

theorem openLedger_later (opened : openLedger config disk = .ok state) : LedgerLater disk state := by
  refine ⟨openLedger_brokerEpoch opened ▸ Nat.le_succ _, (openLedger_numbers opened).ge, fun spaceId _ => ?_⟩
  rw [openLedger_standing opened]
  cases disk.standing spaceId with
  | none => exact .gone _
  | some old => exact .vacated (Standing.recover_epoch old) rfl (by simp [Standing.recover])

section Runs

variable {config : HostConfig} {label : Label} {start middle last : System}
  {trace rest : List (Moment System Label)} {leaseEpoch : LeaseEpoch} {now : Timestamp}

theorem Sound.later (sound : Sound config.ledger start.ledger) (taken : next config label start = some last) :
    LedgerLater start.ledger.state last.ledger.state := by
  obtain moved | ⟨failures, state, _, opened, rfl⟩ := next_ledger taken
  · generalize last.ledger = ledger at moved
    cases moved with
    | same => exact .refl _
    | committed taken => exact taken.later sound.valid
    | written => exact .refl _
  · have file : LedgerLater start.ledger.state start.ledger.disk := by
      obtain same | ⟨_, _, taken⟩ := sound.ahead
      · exact same ▸ .refl _
      · exact taken.later sound.valid
    exact (reopenLedger_keeps (LedgerLater start.ledger.state)
      (fun _ _ _ earlier opened => earlier.trans (openLedger_later opened)) sound.disk file opened).2

theorem HostRun.later (sound : Sound config.ledger start.ledger) (run : HostRun config start trace last) :
    LedgerLater start.ledger.state last.ledger.state := by
  have both := run.keeps
    (fun system => Sound config.ledger system.ledger ∧ LedgerLater start.ledger.state system.ledger.state)
    ⟨sound, .refl _⟩ fun _ _ taken both => ⟨both.1.step taken, both.2.trans (both.1.later taken)⟩
  exact both.2

theorem authorizeSpace_standing {state : LedgerState} {spaceId : SpaceId} {authority : AuthorityTicket}
    {mutation : Bool} (allowed : authorizeSpace state spaceId authority leaseEpoch now mutation = .ok ()) :
    ∃ standing, state.standing spaceId = some standing ∧ standing.epoch = leaseEpoch ∧
      standing.holder = some authority.connectionEpoch ∧
      standing.lease.map (·.principalId) = some authority.principalId ∧ authority.brokerEpoch = state.brokerEpoch := by
  obtain ⟨space, lease, authorized⟩ := authorizeSpace_ok.mp allowed
  refine ⟨_, standing_some authorized.found, ?_, authorized.holder, ?_, ?_⟩
  · simp [Standing.epoch, SpaceDescriptor.standing, authorized.leased, authorized.epoch]
  · simp [SpaceDescriptor.standing, authorized.leased, authorized.principal]
  · have ticket := authorized.ticket
    simp only [authorizeTicket, bind_ok, require_ok, beq_iff_eq] at ticket
    obtain ⟨_, same, _⟩ := ticket
    exact same

theorem LedgerLater.authorized_alike {before after : LedgerState} (order : LedgerLater before after)
    (numbered : spaceId.number ≤ before.nextSpaceNumber) {one other : AuthorityTicket} {later : Timestamp}
    (early : authorizeSpace before spaceId one leaseEpoch now true = .ok ())
    (late : authorizeSpace after spaceId other leaseEpoch later true = .ok ()) :
    after.brokerEpoch = before.brokerEpoch ∧ (other.principalId, other.brokerEpoch, other.connectionEpoch) =
      (one.principalId, one.brokerEpoch, one.connectionEpoch) := by
  obtain ⟨old, standing, epoch, holder, principal, broker⟩ := authorizeSpace_standing early
  obtain ⟨new, standing', epoch', holder', principal', broker'⟩ := authorizeSpace_standing late
  have later := order.standing spaceId numbered
  rw [standing, standing'] at later
  cases later with
  | advanced grown => exact absurd grown (by simp [epoch, epoch'])
  | vacated _ empty => simp [holder'] at empty
  | held _ same owner same_broker =>
    rw [holder, holder', Option.some.injEq] at same
    rw [principal, principal', Option.some.injEq] at owner
    simp [same, owner, broker, broker', same_broker]

theorem HostRun.keeps_within_broker (holds : System -> Prop) (sound : Sound config.ledger start.ledger)
    (run : HostRun config start trace last)
    (sameBroker : last.ledger.state.brokerEpoch = start.ledger.state.brokerEpoch) (initial : holds start)
    (kept : ∀ moment, moment ∈ trace -> Sound config.ledger moment.before.ledger ->
      LedgerLater start.ledger.state moment.before.ledger.state ->
      next config moment.label moment.before = some moment.after ->
      (∀ failures, moment.label.2 ≠ .restart failures) -> holds moment.before -> holds moment.after) :
    holds last := by
  have along := run.keeps (fun system => Sound config.ledger system.ledger ∧
    LedgerLater start.ledger.state system.ledger.state ∧
    (system.ledger.state.brokerEpoch = start.ledger.state.brokerEpoch -> holds system))
    ⟨sound, .refl _, fun _ => initial⟩ ?_
  · exact along.2.2 sameBroker
  rintro moment inside taken ⟨sound, earlier, known⟩
  have one := sound.later taken
  refine ⟨sound.step taken, earlier.trans one, fun same => ?_⟩
  have unmoved : moment.before.ledger.state.brokerEpoch = start.ledger.state.brokerEpoch :=
    Nat.le_antisymm (same ▸ one.brokerEpoch) earlier.brokerEpoch
  refine kept moment inside sound earlier taken (fun failures restarts => ?_) (known unmoved)
  -- a restart moves on to another broker
  obtain ⟨_, replied⟩ := next_step taken
  rw [restarts] at replied
  obtain ⟨state, opened, changed⟩ := restart_cases replied
  rw [changed] at same
  exact absurd (same.trans unmoved.symm) (Nat.ne_of_gt (sound.restarted opened))

/-- For any two states of a run, in their order: the epoch of a space that is still there has not
decreased; two authorized mutations in one epoch come from one principal over one connection; and
an epoch below the first state's is not authorized in the second. -/
theorem lease_epochs_fence_exclusively (initial : Initial config start) (first : HostRun config start trace middle)
    (second : HostRun config middle rest last) (spaceId : SpaceId) :
    (∀ old, middle.ledger.state.leaseEpoch spaceId = some old ->
      last.ledger.state.spaces.get? spaceId = none ∨
        ∃ new, last.ledger.state.leaseEpoch spaceId = some new ∧ old ≤ new) ∧
    (∀ leaseEpoch one other now later,
      authorizeSpace middle.ledger.state spaceId one leaseEpoch now true = .ok () ->
      authorizeSpace last.ledger.state spaceId other leaseEpoch later true = .ok () ->
      (other.principalId, other.brokerEpoch, other.connectionEpoch) =
        (one.principalId, one.brokerEpoch, one.connectionEpoch)) ∧
    (∀ current leaseEpoch authority now mutation, middle.ledger.state.leaseEpoch spaceId = some current ->
      leaseEpoch < current ->
      authorizeSpace last.ledger.state spaceId authority leaseEpoch now mutation ≠ .ok ()) := by
  have order := second.later (first.sound initial)
  have numbered := first.numbered initial spaceId
  have current : ∀ old, middle.ledger.state.leaseEpoch spaceId = some old ->
      last.ledger.state.spaces.get? spaceId = none ∨
        ∃ new, last.ledger.state.leaseEpoch spaceId = some new ∧ old ≤ new := by
    intro old leased
    rw [LedgerState.leaseEpoch, Option.bind_eq_some_iff] at leased
    obtain ⟨space, found, epoch⟩ := leased
    obtain ⟨lease, held, rfl⟩ := Option.map_eq_some_iff.mp epoch
    have standing := standing_some found
    have later := order.standing spaceId (numbered (by simp [standing]))
    cases present : last.ledger.state.spaces.get? spaceId with
    | none => exact .inl rfl
    | some after =>
      rw [standing, standing_some present] at later
      obtain ⟨next, again, le⟩ := later.epoch held
      exact .inr ⟨next.leaseEpoch, by simpa [LedgerState.leaseEpoch, present] using ⟨next, again, rfl⟩, le⟩
  refine ⟨current, ?_, ?_⟩
  · intro leaseEpoch one other now time early late
    obtain ⟨_, standing, _⟩ := authorizeSpace_standing early
    exact (order.authorized_alike (numbered (by simp [standing])) early late).2
  · intro epoch leaseEpoch authority now mutation leased smaller allowed
    obtain ⟨space, lease, authorized⟩ := authorizeSpace_ok.mp allowed
    obtain gone | ⟨new, found, le⟩ := current epoch leased
    · simp [authorized.found] at gone
    · simp only [LedgerState.leaseEpoch, authorized.found, authorized.leased, Option.bind_some, Option.map_some,
        Option.some.injEq] at found
      rw [authorized.epoch] at found
      exact absurd (found ▸ le) (Nat.not_le.mpr smaller)

/-- After a takeover the second epoch of a space is authorized and the first one never again. -/
theorem lease_epochs_fence_exclusively_takeover :
    ∃ middle last : System, middle.ledger.state.leaseEpoch ⟨1⟩ = some 2 ∧
      authorizeSpace last.ledger.state ⟨1⟩ sampleTicket 2 30 true = .ok () ∧
      ∀ authority now mutation, authorizeSpace last.ledger.state ⟨1⟩ authority 1 now mutation ≠ .ok () := by
  obtain ⟨middle, last, _, first, second, passed⟩ :=
    HostRun.of_advances sampleConfig (.fresh sampleConfig)
      (sampleStart ++ [(sampleEnv, .takeover 1 ⟨1⟩ sampleTicket 20 1000 none)])
      [(sampleEnv, .fenceAnswered 1 { acknowledged := true, error := none })]
      (fun middle last _ => decide (middle.ledger.state.leaseEpoch ⟨1⟩ = some 2) &&
        (authorizeSpace last.ledger.state ⟨1⟩ sampleTicket 2 30 true).toBool) (by decide)
  rw [Bool.and_eq_true, decide_eq_true_eq, toBool_ok] at passed
  obtain ⟨_, _, superseded⟩ := lease_epochs_fence_exclusively sample_initial first second ⟨1⟩
  exact ⟨middle, last, passed.1, passed.2,
    fun authority now mutation => superseded 2 1 authority now mutation passed.1 (by decide)⟩

end Runs

end AgentycHost
