import Mathlib.Data.List.Perm.Subperm
import AgentycHost.Effects.NativeRequests
import AgentycHost.Native.Link

set_option autoImplicit false

/-! # Replies that arrive after their request timed out -/

namespace AgentycHost

open Shared

section Observations

/-- The number of the request that a step lets time out. -/
def NativeMoment.timesOut (moment : Moment NativeRequests NativeLabel) : Option Nat :=
  match moment.label with
  | .expire index =>
      (moment.before.calls[index]?).bind fun call => if call.kind = .request then some call.number else none
  | _ => none

/-- The requests that timed out, latest first. -/
def timeouts (trace : NativeTrace) : List Nat := trace.filterMap NativeMoment.timesOut

def timeoutsSince (number : Nat) (trace : NativeTrace) : List Nat :=
  (timeouts trace).takeWhile fun other => other != number

/-- The request with the evicted name timed out before the others that are remembered. -/
def EvictsOldest (earlier : NativeTrace) (host : NativeRequests) (call : NativeCall) : Prop :=
  ∀ evicted, maxNativeTimedOutRequests ≤ host.timedOut.length -> leastName host.timedOut = some evicted ->
    ∀ other, other ∈ host.timedOut ∨ other = call.number -> other ≠ evicted ->
      other ∈ timeoutsSince evicted earlier

/-- A reply without a sender finds its request remembered, or still to be answered. -/
def FindsRemembered (host : NativeRequests) (number : Nat) : Prop :=
  ∀ (index : Nat) (call : NativeCall), host.calls[index]? = some call -> call.number = number ->
    call.phase ≠ .forgotten ∧ (call.phase = .lapsed -> call.kind = .request)

def StepOrderly (earlier : NativeTrace) (moment : Moment NativeRequests NativeLabel) : Prop :=
  match moment.label with
  | .call _ | .spend => moment.before.counter + 1 < 2 ^ 64
  | .deliver => ∀ number, moment.before.reader = .unmatched (some number) -> FindsRemembered moment.before number
  | .remember index =>
      ∀ call : NativeCall, moment.before.calls[index]? = some call -> EvictsOldest earlier moment.before call
  | _ => True

/-- Every step of a trace is in order. -/
def Orderly (trace : NativeTrace) : Prop :=
  ∀ later moment earlier, trace = later ++ moment :: earlier -> StepOrderly earlier moment

def Answered (number : Nat) (trace : NativeTrace) : Prop :=
  ∃ moment, moment ∈ trace ∧ ∃ value, moment.label = .answer (some number) value

/-- A step that is about a reply leaves the session and every other call alone. -/
structure ReplyIgnored (index : Nat) (moment : Moment NativeRequests NativeLabel) : Prop where
  others : ∀ other, other ≠ index -> moment.after.calls[other]? = moment.before.calls[other]?
  own : (moment.after.calls[index]?).map NativeCall.outcome = (moment.before.calls[index]?).map NativeCall.outcome
  closed : moment.after.closed = moment.before.closed
  reader : ∀ error, moment.after.reader ≠ .failed error

end Observations

section Identities

variable {host after : NativeRequests} {label : NativeLabel} {number target : Nat}

structure Identified (host : NativeRequests) : Prop where
  small : ∀ (index : Nat) (call : NativeCall), host.calls[index]? = some call -> call.number < host.counter
  distinct : ∀ (index other : Nat) (first second : NativeCall), host.calls[index]? = some first ->
    host.calls[other]? = some second -> first.number = second.number -> index = other
  matched : ∀ number target, host.pending.get? number = some target ->
    ∃ call, host.calls[target]? = some call ∧ call.number = number
  handing : ∀ number target value, host.reader = .handing number target value ->
    ∃ call, host.calls[target]? = some call ∧ call.number = number

def Unwrapped (label : NativeLabel) (host : NativeRequests) : Prop :=
  match label with
  | .call _ | .spend => host.counter + 1 < 2 ^ 64
  | _ => True

theorem NativeRequests.Moves.counter (moves : host.Moves label after) (unwrapped : Unwrapped label host) :
    host.counter ≤ after.counter := by
  cases moves with
  | called kind =>
    have bound : host.counter + 1 < 2 ^ 64 := unwrapped
    show host.counter ≤ (host.counter + 1) % 2 ^ 64
    rw [Nat.mod_eq_of_lt bound]
    omega
  | spent =>
    have bound : host.counter + 1 < 2 ^ 64 := unwrapped
    show host.counter ≤ (host.counter + 1) % 2 ^ 64
    rw [Nat.mod_eq_of_lt bound]
    omega
  | call found moves =>
    cases moves
    all_goals exact Nat.le_refl _
  | reader moves =>
    cases moves with
    | handed | notified =>
      unfold send
      split
      next => exact Nat.le_refl _
      next =>
        split
        next => exact Nat.le_refl _
        next => exact Nat.le_refl _
    | _ => exact Nat.le_refl _

theorem NativeRequests.send_fields (target : Nat) (message : Except NativeHostError Json) :
    (host.send target message).pending = host.pending ∧ (host.send target message).timedOut = host.timedOut ∧
      (host.send target message).reader = host.reader ∧ (host.send target message).closed = host.closed := by
  unfold send
  split
  next => exact ⟨rfl, rfl, rfl, rfl⟩
  next =>
    split
    next => exact ⟨rfl, rfl, rfl, rfl⟩
    next => exact ⟨rfl, rfl, rfl, rfl⟩

theorem NativeRequests.Moves.pending (moves : host.Moves label after) (held : after.pending.get? number = some target) :
    host.pending.get? number = some target ∨ ∃ call, host.calls[target]? = some call ∧ call.number = number := by
  have erased (other : Nat) (held : (host.pending.erase other).get? number = some target) :
      host.pending.get? number = some target := by
    rw [Table.get?_erase] at held
    split at held
    next => cases held
    next => exact held
  cases moves with
  | called => exact .inl held
  | spent => exact .inl held
  | @call index call _ _ found moves =>
    cases moves with
    | registered =>
      by_cases same : number = call.number
      · subst same
        have inserted : (host.pending.insert call.number index).get? call.number = some target := held
        rw [Table.get?_insert_self] at inserted
        cases inserted
        exact .inr ⟨call, found, rfl⟩
      · have inserted : (host.pending.insert call.number index).get? number = some target := held
        rw [Table.get?_insert_ne _ _ _ _ same] at inserted
        exact .inl inserted
    | gaveUp | forgotten | lapsed | disconnected => exact .inl (erased _ held)
    | _ => exact .inl held
  | reader moves =>
    cases moves with
    | matched => exact .inl (erased _ held)
    | drained =>
      have empty : (∅ : Table Nat Nat).get? number = some target := held
      rw [Table.get?_empty] at empty
      cases empty
    | handed | notified =>
      left
      rw [← (host.send_fields _ _).1]
      exact held
    | _ => exact .inl held

theorem NativeRequests.Moves.handing {value : Json} (moves : host.Moves label after)
    (handing : after.reader = .handing number target value) :
    host.reader = .handing number target value ∨ host.pending.get? number = some target := by
  cases moves with
  | called => exact .inl handing
  | spent => exact .inl handing
  | call _ moves =>
    cases moves
    all_goals exact .inl handing
  | reader moves =>
    cases moves with
    | matched _ found =>
      cases handing
      exact .inr found
    | _ => cases handing

theorem Identified.step (identified : Identified host) (moves : host.Moves label after)
    (unwrapped : Unwrapped label host) : Identified after := by
  have advanced := moves.counter unwrapped
  have kept (target number : Nat) (named : ∃ call, host.calls[target]? = some call ∧ call.number = number) :
      ∃ call, after.calls[target]? = some call ∧ call.number = number := by
    obtain ⟨call, found, same⟩ := named
    obtain ⟨later, held, _, number, _⟩ := moves.forward found
    exact ⟨later, held, number.trans same⟩
  constructor
  case small =>
    intro index later found
    rcases moves.backward found with ⟨call, held, _, number, _⟩ | ⟨last, number, _, counter⟩
    · have small := identified.small index call held
      omega
    · rcases moves.length with same | ⟨kind, rfl, counter, _⟩
      · have bound := (List.getElem?_eq_some_iff.mp found).1
        omega
      · have bound : host.counter + 1 < 2 ^ 64 := unwrapped
        rw [number, counter, Nat.mod_eq_of_lt bound]
        omega
  case distinct =>
    intro index other first second found held same
    rcases moves.backward found with ⟨before, was, _, number, _⟩ | ⟨last, number, _, _⟩
    · rcases moves.backward held with ⟨early, there, _, name, _⟩ | ⟨_, name, _, _⟩
      · exact identified.distinct index other before early was there (by omega)
      · have small := identified.small index before was
        omega
    · rcases moves.backward held with ⟨early, there, _, name, _⟩ | ⟨end_, _, _, _⟩
      · have small := identified.small other early there
        omega
      · omega
  case matched =>
    intro number target held
    rcases moves.pending held with before | named
    · exact kept _ _ (identified.matched number target before)
    · exact kept _ _ named
  case handing =>
    intro number target value handing
    rcases moves.handing handing with before | named
    · exact kept _ _ (identified.handing number target value before)
    · exact kept _ _ (identified.matched number target named)

end Identities

section Phases

variable {host after last : NativeRequests} {label : NativeLabel} {index : Nat} {call : NativeCall}
  {trace : NativeTrace}

def NativeCallPhase.timedOut : NativeCallPhase -> Bool
  | .expired | .forgotten | .lapsed => true
  | _ => false

theorem NativeCall.Turns.timedOut {phase : NativeCallPhase} (turns : call.Turns phase)
    (late : call.phase.timedOut = true) : phase.timedOut = true := by
  have gone {early : NativeCallPhase} (same : call.phase = early) (still : early.timedOut = false) :
      phase.timedOut = true := by
    rw [same, still] at late
    cases late
  cases turns with
  | full phase => exact gone phase rfl
  | registered phase => exact gone phase rfl
  | written phase => exact gone phase rfl
  | refused phase => exact gone phase rfl
  | gaveUp phase => exact gone phase rfl
  | received phase => exact gone phase rfl
  | disconnected phase => exact gone phase rfl
  | orphaned phase => exact gone phase rfl
  | _ => rfl

theorem NativeRequests.ReaderMoves.index_label (moves : host.ReaderMoves label after) : label.index = none := by
  cases moves
  all_goals rfl

theorem expired_timedOut (run : NativeRun .connected trace last)
    (expired : ∃ moment, moment ∈ trace ∧ moment.label = .expire index) :
    ∃ call, last.calls[index]? = some call ∧ call.phase.timedOut = true := by
  induction run with
  | nil =>
    obtain ⟨_, inside, _⟩ := expired
    cases inside
  | @step trace before after label _ stepped ih =>
    have moves := NativeRequests.next_moves stepped
    by_cases early : ∃ moment, moment ∈ trace ∧ moment.label = .expire index
    · obtain ⟨call, found, late⟩ := ih early
      obtain ⟨later, held, _, _, same | ⟨_, turns⟩⟩ := moves.forward found
      · exact ⟨later, held, same ▸ late⟩
      · exact ⟨later, held, turns.timedOut late⟩
    · obtain ⟨moment, inside, about⟩ := expired
      rcases List.mem_cons.mp inside with rfl | inside
      · have about : label = .expire index := about
        subst about
        cases moves with
        | call found moves =>
          cases moves with
          | expired phase => exact ⟨_, NativeRequests.reach_self found _, rfl⟩
        | reader moves => cases moves
      · exact absurd ⟨moment, inside, about⟩ early

end Phases

section Senders

variable {host after : NativeRequests} {label : NativeLabel} {index number : Nat} {call : NativeCall}
  {trace : NativeTrace}

def NativeCallPhase.isOpen : NativeCallPhase -> Bool
  | .registered | .refused _ | .waiting | .expired | .orphaned => true
  | _ => false

def NativeRequests.drained (host : NativeRequests) : Bool :=
  match host.reader with
  | .notifying .. | .ended => true
  | _ => false

def HoldsSenders (trace : NativeTrace) (host : NativeRequests) : Prop :=
  ∀ (index : Nat) (call : NativeCall), host.calls[index]? = some call -> call.phase.isOpen = true ->
    ¬ Answered call.number trace -> host.pending.get? call.number = some index ∨ host.drained = true

theorem NativeRequests.CallMoves.sender (moves : host.CallMoves index call label after)
    (differs : number ≠ call.number) :
    after.pending.get? number = host.pending.get? number := by
  have erased : (host.pending.erase call.number).get? number = host.pending.get? number := by
    rw [Table.get?_erase, if_neg differs]
  cases moves with
  | registered => exact Table.get?_insert_ne _ _ _ _ differs
  | gaveUp | forgotten | lapsed | disconnected => exact erased
  | _ => rfl

theorem NativeRequests.CallMoves.stays {later : NativeCall} (moves : host.CallMoves index call label after)
    (found : host.calls[index]? = some call) (reached : after.calls[index]? = some later)
    (opened : later.phase.isOpen = true) :
    later.number = call.number ∧ after.pending.get? call.number = some index ∨
      later.number = call.number ∧ call.phase.isOpen = true ∧ after.pending = host.pending := by
  cases moves with
  | full | gaveUp | received | forgotten | lapsed | disconnected | remembered =>
    have same := (NativeRequests.reach_self found _).symm.trans reached
    cases same
    cases opened
  | registered =>
    have same := (NativeRequests.reach_self found _).symm.trans reached
    cases same
    exact .inl ⟨rfl, Table.get?_insert_self _ _ _⟩
  | written phase | unflushed phase | refused phase | expired phase | orphaned phase =>
    have same := (NativeRequests.reach_self found _).symm.trans reached
    cases same
    exact .inr ⟨rfl, by rw [phase]; rfl, rfl⟩

theorem NativeRequests.CallMoves.drained (moves : host.CallMoves index call label after) :
    after.drained = host.drained := by
  cases moves
  all_goals rfl

theorem NativeRequests.ReaderMoves.sender (moves : host.ReaderMoves label after)
    (unanswered : ∀ value, label ≠ .answer (some number) value)
    (held : host.pending.get? number = some index ∨ host.drained = true) :
    after.pending.get? number = some index ∨ after.drained = true := by
  have listens {reader : NativeReader} (same : host.reader = reader)
      (still : ({ host with reader } : NativeRequests).drained = false) :
      host.pending.get? number = some index := by
    refine held.resolve_right fun drained => ?_
    rw [← same] at still
    exact absurd drained (Bool.eq_false_iff.mp still)
  cases moves with
  | @matched other target value listening found =>
    have differs : number ≠ other := fun same => unanswered value (same ▸ rfl)
    left
    show (host.pending.erase other).get? number = some index
    rw [Table.get?_erase, if_neg differs]
    exact listens listening rfl
  | unmatched listening => exact .inl (listens listening rfl)
  | handed handing =>
    left
    rw [show (host.send _ _).pending = host.pending from (host.send_fields _ _).1]
    exact listens handing rfl
  | ignored unmatched => exact .inl (listens unmatched rfl)
  | unasked unmatched => exact .inl (listens unmatched rfl)
  | failed listening => exact .inl (listens listening rfl)
  | marked failed => exact .inl (listens failed rfl)
  | drained => exact .inr rfl
  | notified => exact .inr rfl
  | ended => exact .inr rfl

theorem Answered.mono {moment : Moment NativeRequests NativeLabel} (answered : Answered number trace) :
    Answered number (moment :: trace) := by
  obtain ⟨first, inside, about⟩ := answered
  exact ⟨first, List.mem_cons_of_mem _ inside, about⟩

theorem HoldsSenders.step (holds : HoldsSenders trace host) (identified : Identified host)
    (moves : host.Moves label after) : HoldsSenders (⟨host, label, after⟩ :: trace) after := by
  intro index later found opened unanswered
  have early (call : NativeCall) (same : later.number = call.number) (present : host.calls[index]? = some call)
      (was : call.phase.isOpen = true) : host.pending.get? later.number = some index ∨ host.drained = true := by
    rw [same]
    refine holds index call present was fun answered => unanswered ?_
    rw [same]
    exact answered.mono
  cases moves with
  | called kind =>
    have back := NativeRequests.Moves.backward (.called kind) found
    rcases back with ⟨call, present, _, number, phase | ⟨moves, _⟩⟩ | ⟨_, _, phase, _⟩
    · exact early call number present (phase ▸ opened)
    · cases moves.index_label
    · rw [phase] at opened
      cases opened
  | spent => exact early later rfl found opened
  | @call other call _ _ present moves =>
    by_cases same : other = index
    · subst same
      rcases moves.stays present found opened with ⟨number, inserted⟩ | ⟨number, was, pending⟩
      · exact .inl (number ▸ inserted)
      · rw [pending, moves.drained]
        exact early call number present was
    · have kept := (moves.others same).symm.trans found
      have differs : later.number ≠ call.number := fun named =>
        same (identified.distinct _ _ _ _ present kept named.symm)
      rw [moves.sender differs, moves.drained]
      exact early later rfl kept opened
  | reader moves =>
    rcases NativeRequests.Moves.backward (.reader moves) found with ⟨call, present, _, number, phase | ⟨own, _⟩⟩ | new
    · refine moves.sender (fun value same => unanswered ?_) (early call number present (phase ▸ opened))
      exact ⟨_, List.mem_cons_self, value, same⟩
    · have about := own.index_label
      rw [moves.index_label] at about
      cases about
    · rw [new.2.2.1] at opened
      cases opened

end Senders

section Memories

variable {host after : NativeRequests} {label : NativeLabel} {index number : Nat} {call : NativeCall}
  {trace : NativeTrace} {moment : Moment NativeRequests NativeLabel} {other : Nat}

def DealtWith (number : Nat) (trace : NativeTrace) : Prop :=
  ∃ moment, moment ∈ trace ∧ moment.label = .deliver ∧ moment.before.reader = .unmatched (some number)

theorem DealtWith.mono (dealt : DealtWith number trace) :
    DealtWith number (moment :: trace) := by
  obtain ⟨first, inside, about⟩ := dealt
  exact ⟨first, List.mem_cons_of_mem _ inside, about⟩

structure RemembersLate (trace : NativeTrace) (host : NativeRequests) : Prop where
  unique : host.timedOut.Nodup
  lapsed : ∀ number, number ∈ host.timedOut -> ∃ (index : Nat) (call : NativeCall),
    host.calls[index]? = some call ∧ call.number = number ∧ call.phase = .lapsed
  taken : ∀ number, host.reader = .unmatched (some number) -> Answered number trace
  dealt : ∀ number, DealtWith number trace -> Answered number trace
  remembered : ∀ (index : Nat) (call : NativeCall), host.calls[index]? = some call -> call.phase = .lapsed ->
    call.kind = .request -> ¬ DealtWith call.number trace ->
    call.number ∈ host.timedOut ∨ maxNativeTimedOutRequests ≤ (timeoutsSince call.number trace).length

theorem timeoutsSince_quiet (quiet : NativeMoment.timesOut moment = none) :
    timeoutsSince number (moment :: trace) = timeoutsSince number trace := by
  unfold timeoutsSince timeouts
  rw [List.filterMap_cons_none quiet]

theorem timeoutsSince_grows (other : NativeMoment.timesOut moment ≠ some number) :
    (timeoutsSince number trace).length ≤ (timeoutsSince number (moment :: trace)).length := by
  cases times : NativeMoment.timesOut moment with
  | none => rw [timeoutsSince_quiet times]
  | some late =>
    rw [times] at other
    unfold timeoutsSince timeouts
    rw [List.filterMap_cons_some times, List.takeWhile_cons_of_pos]
    · exact Nat.le_succ _
    · exact bne_iff_ne.mpr fun same => other (same ▸ rfl)

theorem NativeMoment.timesOut_label (times : NativeMoment.timesOut moment = some number) :
    ∃ (index : Nat) (call : NativeCall), moment.label = .expire index ∧ moment.before.calls[index]? = some call ∧
      call.number = number := by
  unfold timesOut at times
  split at times
  next index label =>
    obtain ⟨call, found, named⟩ := Option.bind_eq_some_iff.mp times
    split at named
    next => exact ⟨index, call, label, found, Option.some.inj named⟩
    next => cases named
  next => cases times

theorem timeoutsSince_late (identified : Identified host) (moves : host.Moves label after)
    (found : host.calls[index]? = some call) (late : call.phase.timedOut = true) :
    (timeoutsSince call.number trace).length ≤ (timeoutsSince call.number (⟨host, label, after⟩ :: trace)).length := by
  refine timeoutsSince_grows fun times => ?_
  obtain ⟨other, waiting, about, held, named⟩ := NativeMoment.timesOut_label times
  have about : label = .expire other := about
  have same := identified.distinct _ _ _ _ found held named.symm
  subst about same
  cases moves with
  | call present moves =>
    have index := moves.index_label
    cases index
    rw [found] at present
    cases present
    cases moves with
    | expired phase =>
      rw [phase] at late
      cases late
  | reader moves => cases moves

theorem NativeRequests.remember_room (host : NativeRequests) (number : Nat) :
    ∃ room, (host.remember number).timedOut = (if number ∈ room then room else room ++ [number]) ∧
      (room = host.timedOut ∨ ∃ evicted, room = host.timedOut.erase evicted ∧
        maxNativeTimedOutRequests ≤ host.timedOut.length ∧ leastName host.timedOut = some evicted) := by
  unfold remember
  refine ⟨_, rfl, ?_⟩
  split
  next full =>
    split
    next evicted least => exact .inr ⟨evicted, rfl, full, least⟩
    next => exact .inl rfl
  next => exact .inl rfl

theorem NativeRequests.mem_remember_self (host : NativeRequests) (number : Nat) :
    number ∈ (host.remember number).timedOut := by
  obtain ⟨room, same, _⟩ := host.remember_room number
  rw [same]
  split
  next inside => exact inside
  next => exact List.mem_append_right _ (List.mem_singleton.mpr rfl)

theorem NativeRequests.of_mem_remember (inside : other ∈ (host.remember number).timedOut) :
    other = number ∨ other ∈ host.timedOut := by
  obtain ⟨room, same, kept⟩ := host.remember_room number
  have old (present : other ∈ room) : other ∈ host.timedOut := by
    rcases kept with rfl | ⟨evicted, rfl, _⟩
    · exact present
    · exact List.mem_of_mem_erase present
  rw [same] at inside
  split at inside
  next => exact .inr (old inside)
  next =>
    rcases List.mem_append.mp inside with present | last
    · exact .inr (old present)
    · exact .inl (List.mem_singleton.mp last)

theorem NativeRequests.mem_remember (inside : other ∈ host.timedOut) :
    other ∈ (host.remember number).timedOut ∨
      maxNativeTimedOutRequests ≤ host.timedOut.length ∧ leastName host.timedOut = some other := by
  obtain ⟨room, same, kept⟩ := host.remember_room number
  have stays (present : other ∈ room) : other ∈ (host.remember number).timedOut := by
    rw [same]
    split
    next => exact present
    next => exact List.mem_append_left _ present
  rcases kept with rfl | ⟨evicted, rfl, full, least⟩
  · exact .inl (stays inside)
  · by_cases out : other = evicted
    · exact .inr ⟨full, out ▸ least⟩
    · exact .inl (stays ((List.mem_erase_of_ne out).mpr inside))

theorem NativeRequests.remember_nodup (unique : host.timedOut.Nodup) : (host.remember number).timedOut.Nodup := by
  obtain ⟨room, same, kept⟩ := host.remember_room number
  have nodup : room.Nodup := by
    rcases kept with rfl | ⟨evicted, rfl, _⟩
    · exact unique
    · exact unique.erase _
  rw [same]
  split
  next => exact nodup
  next absent =>
    refine List.nodup_append.mpr ⟨nodup, List.nodup_singleton _, fun first inside second last => ?_⟩
    rw [List.mem_singleton.mp last]
    rintro rfl
    exact absent inside

theorem EvictsOldest.counts {evicted : Nat} (oldest : EvictsOldest trace host call) (unique : host.timedOut.Nodup)
    (fresh : call.number ∉ host.timedOut) (full : maxNativeTimedOutRequests ≤ host.timedOut.length)
    (least : leastName host.timedOut = some evicted) (inside : evicted ∈ host.timedOut) :
    maxNativeTimedOutRequests ≤ (timeoutsSince evicted trace).length := by
  have others : (call.number :: host.timedOut.erase evicted).Nodup :=
    List.nodup_cons.mpr ⟨fun present => fresh (List.mem_of_mem_erase present), unique.erase _⟩
  have since : call.number :: host.timedOut.erase evicted ⊆ timeoutsSince evicted trace := by
    intro other present
    rcases List.mem_cons.mp present with rfl | present
    · exact oldest evicted full least _ (.inr rfl) fun same => fresh (same ▸ inside)
    · obtain ⟨differs, held⟩ := (List.Nodup.mem_erase_iff unique).mp present
      exact oldest evicted full least _ (.inl held) differs
  have counted := (List.subperm_of_subset others since).length_le
  rw [List.length_cons, List.length_erase_of_mem inside] at counted
  omega

theorem NativeRequests.Moves.memory (moves : host.Moves label after) :
    after.timedOut = host.timedOut ∨
      (∃ (index : Nat) (call : NativeCall), label = .remember index ∧ host.calls[index]? = some call ∧
        call.phase = .forgotten ∧ after.timedOut = (host.remember call.number).timedOut ∧
        after.calls[index]? = some { call with phase := .lapsed }) ∨
      ∃ late, label = .deliver ∧ host.reader = .unmatched (some late) ∧
        after.timedOut = host.timedOut.erase late := by
  cases moves with
  | called => exact .inl rfl
  | spent => exact .inl rfl
  | @call index call _ _ found moves =>
    cases moves with
    | remembered phase => exact .inr (.inl ⟨index, call, rfl, found, phase, rfl, reach_self found _⟩)
    | _ => exact .inl rfl
  | reader moves =>
    cases moves with
    | ignored unmatched => exact .inr (.inr ⟨_, rfl, unmatched, rfl⟩)
    | handed => exact .inl (host.send_fields _ _).2.1
    | notified => exact .inl (host.send_fields _ _).2.1
    | _ => exact .inl rfl

theorem NativeRequests.CallMoves.remembers (moves : host.CallMoves index call label after)
    (forgotten : call.phase = .forgotten) : call.number ∈ after.timedOut := by
  cases moves with
  | remembered => exact host.mem_remember_self call.number
  | full other | registered other | written other | unflushed other | refused other | gaveUp other | received other
  | expired other | orphaned other | forgotten other | lapsed other | disconnected other =>
    rw [forgotten] at other
    cases other

theorem NativeCall.Turns.of_lapsed {phase : NativeCallPhase} (lapsed : call.phase = .lapsed) : ¬ call.Turns phase := by
  intro turns
  have shorter := turns.shorter
  rw [lapsed] at shorter
  exact absurd shorter (Nat.not_lt_zero _)

theorem NativeRequests.Moves.lapsed (moves : host.Moves label after) (found : host.calls[index]? = some call)
    (lapsed : call.phase = .lapsed) :
    ∃ later, after.calls[index]? = some later ∧ later.number = call.number ∧ later.phase = .lapsed := by
  obtain ⟨later, held, _, number, same | ⟨_, turns⟩⟩ := moves.forward found
  · exact ⟨later, held, number, same.trans lapsed⟩
  · exact absurd turns (NativeCall.Turns.of_lapsed lapsed)

theorem RemembersLate.before (remembers : RemembersLate trace host) (identified : Identified host)
    (moves : host.Moves label after) {later : NativeCall} (found : after.calls[index]? = some later)
    (lapsed : later.phase = .lapsed) (request : later.kind = .request)
    (undealt : ¬ DealtWith later.number (⟨host, label, after⟩ :: trace)) :
    (later.number ∈ host.timedOut ∨
      maxNativeTimedOutRequests ≤ (timeoutsSince later.number (⟨host, label, after⟩ :: trace)).length) ∨
      later.number ∈ after.timedOut := by
  rcases moves.backward found with ⟨call, present, kind, number, same | ⟨own, turns⟩⟩ | ⟨_, _, phase, _⟩
  · have was : call.phase = .lapsed := same.symm.trans lapsed
    rw [number] at undealt ⊢
    rcases remembers.remembered index call present was (kind.symm.trans request) fun dealt =>
      undealt dealt.mono with inside | bound
    · exact .inl (.inl inside)
    · exact .inl (.inr (Nat.le_trans bound (timeoutsSince_late identified moves present (by rw [was]; rfl))))
  · rw [lapsed] at turns
    cases turns with
    | lapsed _ fence =>
      rw [kind, fence] at request
      cases request
    | remembered phase =>
      rw [number]
      exact .inr (own.remembers phase)
  · rw [phase] at lapsed
    cases lapsed

theorem RemembersLate.step (remembers : RemembersLate trace host) (identified : Identified host)
    (moves : host.Moves label after) (orderly : StepOrderly trace ⟨host, label, after⟩) :
    RemembersLate (⟨host, label, after⟩ :: trace) after := by
  constructor
  case unique =>
    rcases moves.memory with same | ⟨_, call, _, _, _, same, _⟩ | ⟨late, _, _, same⟩
    · rw [same]
      exact remembers.unique
    · rw [same]
      exact NativeRequests.remember_nodup remembers.unique
    · rw [same]
      exact remembers.unique.erase _
  case lapsed =>
    intro number inside
    have old (present : number ∈ host.timedOut) : ∃ (index : Nat) (call : NativeCall),
        after.calls[index]? = some call ∧ call.number = number ∧ call.phase = .lapsed := by
      obtain ⟨index, call, found, named, lapsed⟩ := remembers.lapsed number present
      obtain ⟨later, held, same, still⟩ := moves.lapsed found lapsed
      exact ⟨index, later, held, same.trans named, still⟩
    rcases moves.memory with same | ⟨index, call, _, _, _, same, reached⟩ | ⟨late, _, _, same⟩
    · exact old (same ▸ inside)
    · rw [same] at inside
      rcases NativeRequests.of_mem_remember inside with rfl | present
      · exact ⟨index, _, reached, rfl, rfl⟩
      · exact old present
    · rw [same] at inside
      exact old (List.mem_of_mem_erase inside)
  case taken =>
    intro number unmatched
    cases moves with
    | called => exact (remembers.taken number unmatched).mono
    | spent => exact (remembers.taken number unmatched).mono
    | call _ moves =>
      cases moves
      all_goals exact (remembers.taken number unmatched).mono
    | reader moves =>
      cases moves with
      | @unmatched _ value =>
        cases unmatched
        exact ⟨_, List.mem_cons_self, value, rfl⟩
      | _ => cases unmatched
  case dealt =>
    rintro number ⟨moment, inside, about, unmatched⟩
    rcases List.mem_cons.mp inside with rfl | inside
    · exact (remembers.taken number unmatched).mono
    · exact (remembers.dealt number ⟨moment, inside, about, unmatched⟩).mono
  case remembered =>
    intro index later found lapsed request undealt
    rcases remembers.before identified moves found lapsed request undealt with (inside | bound) | inside
    · rcases moves.memory with same | ⟨other, call, about, held, forgotten, same, _⟩ | ⟨late, about, unmatched, same⟩
      · rw [same]
        exact .inl inside
      · rw [same]
        rcases NativeRequests.mem_remember inside with stays | ⟨full, least⟩
        · exact .inl stays
        · right
          have about : label = .remember other := about
          subst about
          have fresh : call.number ∉ host.timedOut := fun present => by
            obtain ⟨place, named, there, same, over_⟩ := remembers.lapsed call.number present
            have twin := identified.distinct _ _ _ _ there held same
            subst twin
            rw [held] at there
            cases there
            rw [forgotten] at over_
            cases over_
          rw [timeoutsSince_quiet rfl]
          exact EvictsOldest.counts (orderly call held) remembers.unique fresh full least inside
      · rw [same]
        refine .inl ((List.mem_erase_of_ne fun named => undealt ?_).mpr inside)
        rw [named]
        exact ⟨_, List.mem_cons_self, about, unmatched⟩
    · exact .inr bound
    · exact .inl inside

end Memories

section Results

variable {host after last : NativeRequests} {label : NativeLabel} {index : Nat} {call : NativeCall}
  {trace later between before : NativeTrace}
  {arrival delivery : Moment NativeRequests NativeLabel} {number : Nat}

structure LateInvariant (trace : NativeTrace) (host : NativeRequests) : Prop where
  identified : Identified host
  senders : HoldsSenders trace host
  remembers : RemembersLate trace host

theorem Identified.connected : Identified .connected where
  small := fun _ _ found => by cases found
  distinct := fun _ _ _ _ found => by cases found
  matched := fun _ _ held => by cases held
  handing := fun _ _ _ handing => by cases handing

theorem RemembersLate.connected : RemembersLate [] .connected where
  unique := List.nodup_nil
  lapsed := fun _ inside => by cases inside
  taken := fun _ unmatched => by cases unmatched
  dealt := fun _ dealt => by
    obtain ⟨_, inside, _⟩ := dealt
    cases inside
  remembered := fun _ _ found => by cases found

theorem StepOrderly.unwrapped (orderly : StepOrderly trace ⟨host, label, after⟩) : Unwrapped label host := by
  unfold Unwrapped
  split
  next => exact orderly
  next => exact orderly
  next => trivial

theorem late_invariant (run : NativeRun .connected trace last) (orderly : Orderly trace) :
    LateInvariant trace last := by
  induction run with
  | nil => exact ⟨.connected, fun _ _ found => (by cases found), .connected⟩
  | @step trace before after label _ stepped ih =>
    have held := ih fun later moment earlier split => orderly (_ :: later) moment earlier (by rw [split]; rfl)
    have now := orderly [] _ _ rfl
    have moves := NativeRequests.next_moves stepped
    exact ⟨held.identified.step moves now.unwrapped, held.senders.step held.identified moves,
      held.remembers.step held.identified moves now⟩

theorem reader_keeps {busy : NativeReader} (run : NativeRun host trace last) (taken : host.reader = busy)
    (reply : (∃ number target value, busy = .handing number target value) ∨
      ∃ number, busy = .unmatched number)
    (waits : ∀ moment, moment ∈ trace -> moment.label ≠ .deliver) : last.reader = busy := by
  induction run with
  | nil => exact taken
  | @step trace before after label _ stepped ih =>
    have same := ih fun moment inside => waits moment (List.mem_cons_of_mem _ inside)
    have waiting := waits _ List.mem_cons_self
    cases NativeRequests.next_moves stepped with
    | called => exact same
    | spent => exact same
    | call _ moves =>
      cases moves
      all_goals exact same
    | reader moves =>
      rcases reply with ⟨_, _, _, rfl⟩ | ⟨_, rfl⟩
      all_goals
        cases moves with
        | handed | ignored | unasked => exact absurd rfl waiting
        | matched other | unmatched other | failed other | marked other | drained other | notified other
        | ended other =>
          rw [same] at other
          cases other

def NativeCallPhase.gone : NativeCallPhase -> Bool
  | .forgotten | .lapsed => true
  | _ => false

theorem NativeCall.Turns.gone {phase : NativeCallPhase} (turns : call.Turns phase) (gone : call.phase.gone = true) :
    phase.gone = true := by
  cases turns with
  | remembered => rfl
  | forgotten => rfl
  | lapsed => rfl
  | full other | registered other | written other | refused other | gaveUp other | received other | expired other
  | orphaned other | disconnected other =>
    rw [other] at gone
    cases gone

theorem call_persists (run : NativeRun host trace last) (found : host.calls[index]? = some call) :
    ∃ later, last.calls[index]? = some later ∧ later.number = call.number ∧
      (call.phase.gone = true -> later.phase.gone = true) := by
  induction run with
  | nil => exact ⟨call, found, rfl, id⟩
  | step _ stepped ih =>
    obtain ⟨middle, there, named, gone⟩ := ih
    obtain ⟨later, held, _, number, same | ⟨_, turns⟩⟩ := (NativeRequests.next_moves stepped).forward there
    · exact ⟨later, held, number.trans named, fun early => same ▸ gone early⟩
    · exact ⟨later, held, number.trans named, fun early => turns.gone (gone early)⟩

theorem handed_ignored {target : Nat} {value : Json} (identified : Identified host)
    (found : host.calls[index]? = some call) (named : call.number = number)
    (handing : host.reader = .handing number target value) (moves : host.Moves .deliver after) :
    ReplyIgnored index ⟨host, .deliver, after⟩ := by
  obtain ⟨held, there, same⟩ := identified.handing number target value handing
  have own := identified.distinct _ _ _ _ there found (same.trans named.symm)
  subst own
  cases moves with
  | call _ moves => cases moves.index_label
  | reader moves =>
    cases moves with
    | @handed other place reply taken =>
      rw [handing] at taken
      cases taken
      refine ⟨fun other differs => NativeRequests.send_other differs.symm, ?_, (host.send_fields _ _).2.2.2,
        fun _ failed => by cases failed⟩
      have kept : ∃ inbox, (host.send target (.ok value)).calls[target]? = some { call with inbox } :=
        NativeRequests.send_call found _
      obtain ⟨inbox, put⟩ := kept
      show ((host.send target (.ok value)).calls[target]?).map NativeCall.outcome = _
      rw [put, found]
      rfl
    | ignored other | unasked other =>
      rw [handing] at other
      cases other

theorem unmatched_ignored (late : call.number ∈ host.timedOut) (unmatched : host.reader = .unmatched (some call.number))
    (moves : host.Moves .deliver after) : ReplyIgnored index ⟨host, .deliver, after⟩ := by
  cases moves with
  | call _ moves => cases moves.index_label
  | reader moves =>
    cases moves with
    | handed other =>
      rw [unmatched] at other
      cases other
    | ignored => exact ⟨fun _ _ => rfl, rfl, rfl, fun _ failed => by cases failed⟩
    | unasked other unknown =>
      rw [unmatched] at other
      cases other
      exact absurd late (unknown _ rfl)

/-- In an orderly run the reply of a request that timed out is ignored, unless the bound has timed out
after the request. -/
theorem late_reply_ignored {value : Json}
    (run : NativeRun .connected (later ++ delivery :: (between ++ arrival :: before)) last)
    (orderly : Orderly (later ++ delivery :: (between ++ arrival :: before)))
    (arrives : arrival.label = .answer (some call.number) value) (delivers : delivery.label = .deliver)
    (waits : ∀ moment, moment ∈ between -> moment.label ≠ .deliver)
    (found : delivery.before.calls[index]? = some call)
    (timedOut : ∃ moment, moment ∈ before ∧ moment.label = .expire index) (first : ¬ Answered call.number before)
    (few : (timeoutsSince call.number (between ++ arrival :: before)).length < maxNativeTimedOutRequests) :
    ReplyIgnored index arrival ∧ ReplyIgnored index delivery := by
  obtain ⟨delivered, deliveryStep⟩ := run.before_moment
  obtain ⟨arrived, arrivalStep⟩ := delivered.before_moment
  have early := late_invariant arrived fun others moment earlier split =>
    orderly (later ++ delivery :: (between ++ arrival :: others)) moment earlier (by simp [split])
  have now := late_invariant delivered fun others moment earlier split =>
    orderly (later ++ delivery :: others) moment earlier (by simp [split])
  have decision := orderly later delivery _ rfl
  obtain ⟨held, there, late⟩ := expired_timedOut arrived timedOut
  obtain ⟨still, stands, number, goes⟩ :=
    call_persists (Run.append (.step .nil arrivalStep) delivered.after_moment) there
  rw [found] at stands
  cases stands
  obtain ⟨host, label, after⟩ := delivery
  cases show label = .deliver from delivers
  have deliveryMoves : host.Moves .deliver after := NativeRequests.next_moves deliveryStep
  obtain ⟨start, label, taken⟩ := arrival
  cases show label = .answer (some call.number) value from arrives
  have undealt : ¬ DealtWith call.number (between ++ ⟨start, .answer (some call.number) value, taken⟩ :: before) := by
    rintro ⟨moment, inside, about, unmatched⟩
    rcases List.mem_append.mp inside with inside | inside
    · exact waits moment inside about
    · rcases List.mem_cons.mp inside with rfl | inside
      · cases about
      · exact first (early.remembers.dealt _ ⟨moment, inside, about, unmatched⟩)
  have arrivalMoves : start.Moves (.answer (some call.number) value) taken := NativeRequests.next_moves arrivalStep
  cases arrivalMoves with
  | call _ moves => cases moves.index_label
  | reader moves =>
    cases moves with
    | matched listening sender =>
      refine ⟨⟨fun _ _ => rfl, rfl, rfl, fun _ failed => by cases failed⟩, ?_⟩
      have reader := reader_keeps delivered.after_moment rfl (.inl ⟨_, _, _, rfl⟩) waits
      exact handed_ignored now.identified found rfl reader deliveryMoves
    | unmatched listening missing =>
      refine ⟨⟨fun _ _ => rfl, rfl, rfl, fun _ failed => by cases failed⟩, ?_⟩
      have reader := reader_keeps delivered.after_moment rfl (.inr ⟨_, rfl⟩) waits
      -- the sender of a call that has only expired is still in the table
      have gone : held.phase.gone = true := by
        cases phase : held.phase
        all_goals rw [phase] at late
        case forgotten => rfl
        case lapsed => rfl
        case expired =>
          rcases early.senders index held there (by rw [phase]; rfl) (number ▸ first) with sender | drained
          · rw [missing held.number (by rw [number])] at sender
            cases sender
          · unfold NativeRequests.drained at drained
            rw [show start.reader = .listening from listening] at drained
            cases drained
        all_goals cases late
      obtain ⟨settled, request⟩ := decision call.number reader index call found rfl
      have lapsed : call.phase = .lapsed := by
        have over_ := goes gone
        cases phase : call.phase
        all_goals rw [phase] at over_
        case forgotten => exact absurd phase settled
        all_goals cases over_
      rcases now.remembers.remembered index call found lapsed (request lapsed) undealt with inside | bound
      · exact unmatched_ignored inside reader deliveryMoves
      · exact absurd few (Nat.not_lt.mpr bound)

def nativeAdvance (label : NativeLabel) (host : NativeRequests) : Option NativeRequests := host.next label

def fenceLapses : List NativeLabel := [.call .fence, .register 0, .post 0 .written, .expire 0, .remove 0]

def requestLapses : List NativeLabel :=
  [.call .request, .register 0, .post 0 .written, .expire 0, .remove 0, .remember 0]

def firstReply : List NativeLabel := [.answer (some 1) (.object []), .deliver]

theorem unanswered_visits {labels : List NativeLabel} (absent : ∀ value, .answer (some number) value ∉ labels) :
    ¬ Answered number (visits nativeAdvance labels .connected).reverse := by
  rintro ⟨moment, inside, value, label⟩
  exact absent value (label ▸ visits_label (List.mem_reverse.mp inside))

/-- The acknowledgement of a fence that timed out ends the session. -/
theorem late_fence_ack_fails :
    ∃ delivery arrival before last call value, NativeRun .connected (delivery :: arrival :: before) last ∧
      arrival.label = .answer (some call.number) value ∧ delivery.label = .deliver ∧
      delivery.before.calls[0]? = some call ∧ (∃ moment, moment ∈ before ∧ moment.label = .expire 0) ∧
      ¬ Answered call.number before ∧ timeoutsSince call.number (arrival :: before) = [] ∧
      ¬ ReplyIgnored 0 delivery := by
  have run := advance_run (rfl : advance nativeAdvance (fenceLapses ++ firstReply) .connected = some _)
  refine ⟨_, _, (visits nativeAdvance fenceLapses .connected).reverse, _, _, _, run, rfl, rfl, rfl, ?_, ?_, rfl, ?_⟩
  · exact ⟨_, List.mem_cons_of_mem _ List.mem_cons_self, rfl⟩
  · exact unanswered_visits (by simp [fenceLapses])
  · exact fun ignored => ignored.reader _ rfl

theorem Orderly.nil : Orderly [] := by
  intro later moment earlier split
  cases later
  all_goals cases split

theorem Orderly.cons {moment : Moment NativeRequests NativeLabel} (now : StepOrderly trace moment)
    (orderly : Orderly trace) : Orderly (moment :: trace) := by
  intro later other earlier split
  cases later with
  | nil =>
    cases split
    exact now
  | cons first later =>
    cases split
    exact orderly later other earlier rfl

theorem EvictsOldest.of_room (room : host.timedOut.length < maxNativeTimedOutRequests) : EvictsOldest trace host call :=
  fun _ full => absurd full (Nat.not_le.mpr room)

theorem FindsRemembered.of_lapsed (calls : host.calls = [call]) (lapsed : call.phase = .lapsed)
    (request : call.kind = .request) : FindsRemembered host number := by
  intro index other found _
  have inside := List.mem_of_getElem? found
  rw [calls, List.mem_singleton] at inside
  subst inside
  refine ⟨fun forgotten => ?_, fun _ => request⟩
  rw [lapsed] at forgotten
  cases forgotten

theorem late_reply_ignored_sample :
    ∃ delivery arrival, NativeRun .connected
        (delivery :: arrival :: (visits nativeAdvance requestLapses .connected).reverse) delivery.after ∧
      ReplyIgnored 0 arrival ∧ ReplyIgnored 0 delivery := by
  have run := advance_run (rfl : advance nativeAdvance (requestLapses ++ firstReply) .connected = some _)
  have lapses : Orderly (visits nativeAdvance requestLapses .connected).reverse := by
    refine .cons ?_ (.cons ?_ (.cons ?_ (.cons ?_ (.cons ?_ (.cons ?_ .nil)))))
    · exact fun _ _ => .of_room (Nat.zero_lt_of_ne_zero (by decide))
    · exact True.intro
    · exact True.intro
    · exact True.intro
    · exact True.intro
    · exact (by decide : 1 + 1 < 2 ^ 64)
  have quiet : ¬ Answered 1 (visits nativeAdvance requestLapses .connected).reverse :=
    unanswered_visits (by simp [requestLapses])
  have waits : ∀ moment : Moment NativeRequests NativeLabel, moment ∈ [] -> moment.label ≠ .deliver :=
    fun _ inside => by cases inside
  refine ⟨_, _, run, @late_reply_ignored _ 0 _ [] [] _ _ _ _ run ?_ rfl rfl waits rfl ?_ ?_ ?_⟩
  · refine .cons ?_ (.cons ?_ lapses)
    · exact fun _ _ => .of_lapsed rfl rfl rfl
    · exact True.intro
  · exact ⟨_, List.mem_cons_of_mem _ (List.mem_cons_of_mem _ List.mem_cons_self), rfl⟩
  · exact quiet
  · exact Nat.zero_lt_of_ne_zero (by decide)

end Results

end AgentycHost

/-! # Responses and the connections they belong to -/

namespace AgentycHost

open Shared

variable {link after last : NativeLink} {label : LinkLabel} {trace : LinkTrace}

section Observations

/-- A handler finishes while its own connection is live, or none is, and no host runs out of request ids. -/
def CompletesAtHome (moment : Moment NativeLink LinkLabel) : Prop :=
  match moment.label with
  | .completed position _ =>
      ∀ handler, moment.before.handlers[position]? = some handler ->
        ∀ place, moment.before.current = some place -> place = handler.connection
  | .host place label =>
      ∀ connection, moment.before.connections[place]? = some connection -> Unwrapped label connection.host
  | _ => True

/-- What a host reads comes from a handler of its own connection, and a response that it matches to a
request from the handler of that request. -/
def AnswersOwn (moment : Moment NativeLink LinkLabel) : Prop :=
  match moment.label with
  | .hears place =>
      ∀ connection reply rest, moment.before.connections[place]? = some connection ->
        connection.toHost = reply :: rest ->
        reply.handler.connection = place ∧
          ∀ target, connection.host.pending.get? reply.handler.number = some target ->
            target = reply.handler.index
  | _ => True

end Observations

section Steps

variable {place other : Nat} {connection later : LinkConnection} {stood : LinkConnection} {number index : Nat}
  {host : NativeRequests}

inductive NativeLink.Moves (link : NativeLink) : LinkLabel -> NativeLink -> Prop where
  | opened (idle : link.current = none) :
      Moves link .opened
        { link with connections := link.connections ++ [.fresh], current := some link.connections.length }
  | dropped : Moves link .dropped { link with current := none }
  | host {place : Nat} {connection : LinkConnection} {label : NativeLabel} {host : NativeRequests}
      (found : link.connections[place]? = some connection) (moves : connection.host.Moves label host) :
      Moves link (.host place label)
        (link.setConnection place
          { connection with host, toExtension := connection.toExtension ++ connection.host.posts label })
  | hears {place : Nat} {connection : LinkConnection} {reply : HandlerReply} {rest : List HandlerReply}
      {host : NativeRequests} (found : link.connections[place]? = some connection)
      (head : connection.toHost = reply :: rest)
      (moves : connection.host.Moves (.answer (some reply.handler.number) reply.value) host) :
      Moves link (.hears place) (link.setConnection place { connection with host, toHost := rest })
  | received {place : Nat} {connection : LinkConnection} {frame : LinkFrame} {rest : List LinkFrame}
      (live : link.current = some place) (found : link.connections[place]? = some connection)
      (head : connection.toExtension = frame :: rest) :
      Moves link .received ((link.setConnection place { connection with toExtension := rest }).receive place frame)
  | completed {position : Nat} {handler : RequestHandler} (found : link.handlers[position]? = some handler)
      (value : Json) :
      Moves link (.completed position value)
        ({ link with handlers := link.handlers.eraseIdx position }.respond { value, handler })

theorem LinkConnection.hostStep_moves {step : NativeLabel} (moved : connection.hostStep step = some later) :
    ∃ host, connection.host.Moves step host ∧
      later = { connection with host, toExtension := connection.toExtension ++ connection.host.posts step } := by
  unfold hostStep at moved
  split at moved
  next => cases moved
  next =>
    obtain ⟨host, stepped, same⟩ := Option.map_eq_some_iff.mp moved
    exact ⟨host, NativeRequests.next_moves stepped, same.symm⟩

theorem LinkConnection.hear_moves (moved : connection.hear = some later) :
    ∃ reply rest host, connection.toHost = reply :: rest ∧
      connection.host.Moves (.answer (some reply.handler.number) reply.value) host ∧
      later = { connection with host, toHost := rest } := by
  unfold hear at moved
  split at moved
  next => cases moved
  next head =>
    obtain ⟨host, stepped, same⟩ := Option.map_eq_some_iff.mp moved
    exact ⟨_, _, host, head, NativeRequests.next_moves stepped, same.symm⟩

theorem NativeLink.next_moves (moved : link.next label = some after) : link.Moves label after := by
  unfold next at moved
  split at moved
  next =>
    split at moved
    next => cases moved
    next idle =>
      cases moved
      exact .opened idle
  next =>
    cases moved
    exact .dropped
  next =>
    obtain ⟨connection, found, moved⟩ := Option.bind_eq_some_iff.mp moved
    obtain ⟨later, stepped, rfl⟩ := Option.map_eq_some_iff.mp moved
    obtain ⟨host, moves, rfl⟩ := LinkConnection.hostStep_moves stepped
    exact .host found moves
  next =>
    obtain ⟨connection, found, moved⟩ := Option.bind_eq_some_iff.mp moved
    obtain ⟨later, stepped, rfl⟩ := Option.map_eq_some_iff.mp moved
    obtain ⟨reply, rest, host, head, moves, rfl⟩ := LinkConnection.hear_moves stepped
    exact .hears found head moves
  next =>
    obtain ⟨place, live, moved⟩ := Option.bind_eq_some_iff.mp moved
    obtain ⟨connection, found, moved⟩ := Option.bind_eq_some_iff.mp moved
    split at moved
    next => cases moved
    next head =>
      cases moved
      exact .received live found head
  next =>
    obtain ⟨handler, found, rfl⟩ := Option.map_eq_some_iff.mp moved
    exact .completed found _

theorem NativeLink.setConnection_cases (found : link.connections[place]? = some connection)
    (held : (link.setConnection place later).connections[other]? = some stood) :
    other = place ∧ stood = later ∨ link.connections[other]? = some stood := by
  unfold setConnection at held
  dsimp only at held
  by_cases same : place = other
  · subst same
    rw [List.getElem?_set_self (List.getElem?_eq_some_iff.mp found).1] at held
    exact .inl ⟨rfl, (Option.some.inj held).symm⟩
  · rw [List.getElem?_set_ne same] at held
    exact .inr held

theorem NativeLink.receive_connections (frame : LinkFrame) :
    (link.receive place frame).connections = link.connections ∧ (link.receive place frame).current = link.current := by
  unfold receive
  split
  next => exact ⟨rfl, rfl⟩
  next => exact ⟨rfl, rfl⟩

def Asked (host : NativeRequests) (index number : Nat) : Prop :=
  ∃ call : NativeCall, host.calls[index]? = some call ∧ call.number = number

theorem Asked.step {last : NativeRequests} {step : NativeLabel} (asked : Asked host index number)
    (moves : host.Moves step last) : Asked last index number := by
  obtain ⟨call, found, named⟩ := asked
  obtain ⟨held, there, _, same, _⟩ := moves.forward found
  exact ⟨held, there, same.trans named⟩

theorem posts_asked {step : NativeLabel} {frame : LinkFrame} (posted : frame ∈ host.posts step) :
    Asked host frame.index frame.number := by
  have by_call {index : Nat} (posted : frame ∈ host.posted index) : Asked host frame.index frame.number := by
    unfold NativeRequests.posted at posted
    split at posted
    next call found =>
      rw [List.mem_singleton.mp posted]
      exact ⟨call, found, rfl⟩
    next => cases posted
  unfold NativeRequests.posts at posted
  split at posted
  next => exact by_call posted
  next => exact by_call posted
  next => cases posted

structure ConnectionStep (link : NativeLink) (label : LinkLabel) (place : Nat)
    (connection later : LinkConnection) : Prop where
  host : later.host = connection.host ∨
    ∃ step, connection.host.Moves step later.host ∧ (label = .host place step ∨ step.reads = true)
  frames : ∀ frame, frame ∈ later.toExtension ->
    frame ∈ connection.toExtension ∨ Asked connection.host frame.index frame.number
  replies : ∀ reply, reply ∈ later.toHost ->
    reply ∈ connection.toHost ∨
      ∃ position value, label = .completed position value ∧ link.handlers[position]? = some reply.handler ∧
        link.current = some place

theorem ConnectionStep.refl : ConnectionStep link label place connection connection where
  host := .inl rfl
  frames := fun _ inside => .inl inside
  replies := fun _ inside => .inl inside

theorem NativeLink.Moves.changed (moves : link.Moves label after) (held : after.connections[place]? = some later) :
    later = .fresh ∨
      ∃ connection, link.connections[place]? = some connection ∧
        ConnectionStep link label place connection later := by
  cases moves with
  | opened =>
    by_cases old : place < link.connections.length
    · rw [List.getElem?_append_left old] at held
      exact .inr ⟨later, held, .refl⟩
    · rw [List.getElem?_append_right (Nat.le_of_not_lt old)] at held
      exact .inl (List.mem_singleton.mp (List.mem_of_getElem? held))
  | dropped => exact .inr ⟨later, held, .refl⟩
  | host found moves =>
    rcases setConnection_cases found held with ⟨rfl, rfl⟩ | same
    · refine .inr ⟨_, found, .inr ⟨_, moves, .inl rfl⟩, fun frame inside => ?_, fun _ inside => .inl inside⟩
      rcases List.mem_append.mp inside with queued | posted
      · exact .inl queued
      · exact .inr (posts_asked posted)
    · exact .inr ⟨later, same, .refl⟩
  | hears found head moves =>
    rcases setConnection_cases found held with ⟨rfl, rfl⟩ | same
    · refine .inr ⟨_, found, .inr ⟨_, moves, .inr rfl⟩, fun _ inside => .inl inside, fun reply inside => .inl ?_⟩
      rw [head]
      exact List.mem_cons_of_mem _ inside
    · exact .inr ⟨later, same, .refl⟩
  | received live found head =>
    rw [(receive_connections _).1] at held
    rcases setConnection_cases found held with ⟨rfl, rfl⟩ | same
    · refine .inr ⟨_, found, .inl rfl, fun frame inside => .inl ?_, fun _ inside => .inl inside⟩
      rw [head]
      exact List.mem_cons_of_mem _ inside
    · exact .inr ⟨later, same, .refl⟩
  | completed handled value =>
    unfold respond at held
    split at held
    next => exact .inr ⟨later, held, .refl⟩
    next live =>
      split at held
      next found =>
        rcases setConnection_cases found held with ⟨rfl, rfl⟩ | same
        · refine .inr ⟨_, found, .inl rfl, fun _ inside => .inl inside, fun reply inside => ?_⟩
          rcases List.mem_append.mp inside with queued | sent
          · exact .inl queued
          · rw [List.mem_singleton.mp sent]
            exact .inr ⟨_, _, rfl, handled, live⟩
        · exact .inr ⟨later, same, .refl⟩
      next => exact .inr ⟨later, held, .refl⟩

theorem NativeLink.setConnection_keeps (found : link.connections[place]? = some connection)
    (grows : Asked connection.host index number -> Asked later.host index number)
    (held : link.connections[other]? = some stood) (asked : Asked stood.host index number) :
    ∃ last, (link.setConnection place later).connections[other]? = some last ∧ Asked last.host index number := by
  unfold setConnection
  dsimp only
  by_cases same : place = other
  · subst same
    rw [found] at held
    cases held
    exact ⟨later, List.getElem?_set_self (List.getElem?_eq_some_iff.mp found).1, grows asked⟩
  · rw [List.getElem?_set_ne same]
    exact ⟨stood, held, asked⟩

theorem NativeLink.Moves.keeps (moves : link.Moves label after) (held : link.connections[place]? = some connection)
    (asked : Asked connection.host index number) :
    ∃ later, after.connections[place]? = some later ∧ Asked later.host index number := by
  cases moves with
  | opened =>
    refine ⟨connection, ?_, asked⟩
    dsimp only
    rw [List.getElem?_append_left (List.getElem?_eq_some_iff.mp held).1]
    exact held
  | dropped => exact ⟨connection, held, asked⟩
  | host found moves => exact setConnection_keeps found (fun early => early.step moves) held asked
  | hears found _ moves => exact setConnection_keeps found (fun early => early.step moves) held asked
  | received live found head =>
    rw [(receive_connections _).1]
    exact setConnection_keeps found id held asked
  | completed handled value =>
    unfold respond
    split
    next => exact ⟨connection, held, asked⟩
    next =>
      split
      next found => exact setConnection_keeps found id held asked
      next => exact ⟨connection, held, asked⟩

theorem NativeLink.Moves.handlers {handler : RequestHandler} (moves : link.Moves label after)
    (running : handler ∈ after.handlers) :
    handler ∈ link.handlers ∨
      ∃ connection frame, link.connections[handler.connection]? = some connection ∧
        frame ∈ connection.toExtension ∧ handler.index = frame.index ∧ handler.number = frame.number := by
  cases moves with
  | opened => exact .inl running
  | dropped => exact .inl running
  | host => exact .inl running
  | hears => exact .inl running
  | @received place connection frame rest live found head =>
    unfold receive at running
    split at running
    next =>
      rcases List.mem_append.mp running with old | new
      · exact .inl old
      · rw [List.mem_singleton.mp new]
        exact .inr ⟨connection, frame, found, by rw [head]; exact List.mem_cons_self, rfl, rfl⟩
    next => exact .inl running
  | completed handled value =>
    left
    apply List.mem_of_mem_eraseIdx
    unfold respond at running
    split at running
    next => exact running
    next =>
      split at running
      next => exact running
      next => exact running

end Steps

section Invariants

structure AtHome (link : NativeLink) : Prop where
  identified : ∀ (place : Nat) (connection : LinkConnection), link.connections[place]? = some connection ->
    Identified connection.host
  frames : ∀ (place : Nat) (connection : LinkConnection), link.connections[place]? = some connection ->
    ∀ frame, frame ∈ connection.toExtension -> Asked connection.host frame.index frame.number
  handlers : ∀ handler, handler ∈ link.handlers ->
    ∃ connection, link.connections[handler.connection]? = some connection ∧
      Asked connection.host handler.index handler.number
  replies : ∀ (place : Nat) (connection : LinkConnection), link.connections[place]? = some connection ->
    ∀ reply, reply ∈ connection.toHost ->
      reply.handler.connection = place ∧ Asked connection.host reply.handler.index reply.handler.number

theorem AtHome.started : AtHome .started where
  identified := fun _ _ found => by cases found
  frames := fun _ _ found => by cases found
  handlers := fun _ running => by cases running
  replies := fun _ _ found => by cases found

theorem ConnectionStep.asked {place : Nat} {connection later : LinkConnection} {index number : Nat}
    (step : ConnectionStep link label place connection later) (asked : Asked connection.host index number) :
    Asked later.host index number := by
  rcases step.host with same | ⟨_, moves, _⟩
  · rw [same]
    exact asked
  · exact asked.step moves

theorem AtHome.step (home : AtHome link) (moves : link.Moves label after)
    (careful : CompletesAtHome ⟨link, label, after⟩) : AtHome after := by
  constructor
  case identified =>
    intro place later held
    rcases moves.changed held with rfl | ⟨connection, found, step⟩
    · exact .connected
    · rcases step.host with same | ⟨inner, moved, about⟩
      · rw [same]
        exact home.identified place connection found
      · refine (home.identified place connection found).step moved ?_
        rcases about with rfl | reads
        · exact careful connection found
        · cases inner
          all_goals first | exact True.intro | cases reads
  case frames =>
    intro place later held frame inside
    rcases moves.changed held with rfl | ⟨connection, found, step⟩
    · cases inside
    · rcases step.frames frame inside with queued | asked
      · exact step.asked (home.frames place connection found frame queued)
      · exact step.asked asked
  case handlers =>
    intro handler running
    rcases moves.handlers running with old | ⟨connection, frame, found, queued, index, number⟩
    · obtain ⟨connection, found, asked⟩ := home.handlers handler old
      exact moves.keeps found asked
    · rw [index, number]
      exact moves.keeps found (home.frames _ connection found frame queued)
  case replies =>
    intro place later held reply inside
    rcases moves.changed held with rfl | ⟨connection, found, step⟩
    · cases inside
    · rcases step.replies reply inside with queued | ⟨position, value, rfl, handled, live⟩
      · obtain ⟨own, asked⟩ := home.replies place connection found reply queued
        exact ⟨own, step.asked asked⟩
      · -- the handler finishes on its own connection
        have own : place = reply.handler.connection := careful reply.handler handled place live
        obtain ⟨first, there, asked⟩ := home.handlers reply.handler (List.mem_of_getElem? handled)
        rw [← own, found] at there
        cases there
        exact ⟨own.symm, step.asked asked⟩

theorem at_home (run : LinkRun .started trace last)
    (careful : ∀ moment, moment ∈ trace -> CompletesAtHome moment) : AtHome last := by
  induction run with
  | nil => exact .started
  | step _ stepped ih =>
    have home := ih fun moment inside => careful moment (List.mem_cons_of_mem _ inside)
    exact home.step (NativeLink.next_moves stepped) (careful _ List.mem_cons_self)

end Invariants

section Results

/-- In a run whose handlers finish on their own connections, every response that a host reads was produced for
a request of its connection, and one that it matches for the request it is matched to. -/
theorem responses_stay_home (run : LinkRun .started trace last)
    (careful : ∀ moment, moment ∈ trace -> CompletesAtHome moment) :
    ∀ moment, moment ∈ trace -> AnswersOwn moment := by
  intro moment inside
  obtain ⟨earlier, later, early, stepped, split⟩ := run.at_moment inside
  subst split
  have home := at_home early fun moment inside =>
    careful moment (List.mem_append_right later (List.mem_cons_of_mem _ inside))
  unfold AnswersOwn
  split
  next place _ =>
    intro connection reply rest found head
    have queued : reply ∈ connection.toHost := by
      rw [head]
      exact List.mem_cons_self
    obtain ⟨own, call, there, named⟩ := home.replies place connection found reply queued
    refine ⟨own, fun target pending => ?_⟩
    -- the request id names one call of this host
    have identified := home.identified place connection found
    obtain ⟨matched, held, number⟩ := identified.matched _ target pending
    exact identified.distinct _ _ _ _ held there (number.trans named.symm)
  next => exact True.intro

def linkStep (label : LinkLabel) (link : NativeLink) : Option NativeLink := link.next label

def postsFirst (place : Nat) : List LinkLabel :=
  [.host place (.call .request), .host place (.register 0), .host place (.post 0 .written)]

def tabCreated : Json := .object [("ok", .bool true), ("result", .object [("created", .bool true)])]

def crossing : List LinkLabel :=
  [.opened] ++ postsFirst 0 ++ [.received, .dropped, .opened] ++ postsFirst 1 ++ [.completed 0 tabCreated]

/-- The second host takes the first connection's tab for the one it asked for. -/
theorem response_crosses_connections :
    ∃ trace moment connection reply, LinkRun .started (moment :: trace) moment.after ∧
      moment.label = .hears 1 ∧ ¬ AnswersOwn moment ∧ moment.before.connections[1]? = some connection ∧
      connection.toHost = [reply] ∧ reply.handler.connection = 0 ∧
      connection.host.pending.get? reply.handler.number = some 0 := by
  have run := advance_run (rfl : advance linkStep (crossing ++ [.hears 1]) .started = some _)
  refine ⟨(visits linkStep crossing .started).reverse, _, _, _, run, rfl, fun own => ?_, rfl, rfl, rfl, rfl⟩
  cases (own _ _ _ rfl rfl).1

def finishesAtHome (moment : Moment NativeLink LinkLabel) : Bool :=
  match moment.label with
  | .completed position _ =>
      (moment.before.handlers[position]?).all fun handler =>
        moment.before.current.all fun place => place == handler.connection
  | .host place _ =>
      (moment.before.connections[place]?).all fun connection => decide (connection.host.counter + 1 < 2 ^ 64)
  | _ => true

theorem finishesAtHome_careful {moment : Moment NativeLink LinkLabel} (checked : finishesAtHome moment = true) :
    CompletesAtHome moment := by
  obtain ⟨before, label, after⟩ := moment
  cases label with
  | completed position value =>
    intro handler found place live
    have found : before.handlers[position]? = some handler := found
    have live : before.current = some place := live
    unfold finishesAtHome at checked
    dsimp only at checked
    rw [found, live] at checked
    exact beq_iff_eq.mp checked
  | host place label =>
    intro connection found
    have found : before.connections[place]? = some connection := found
    unfold finishesAtHome at checked
    dsimp only at checked
    rw [found] at checked
    have room : connection.host.counter + 1 < 2 ^ 64 := of_decide_eq_true checked
    cases label
    all_goals first | exact room | exact True.intro
  | opened | dropped | hears | received => exact True.intro

def confirming : List LinkLabel := [.opened] ++ postsFirst 0 ++ [.received, .completed 0 tabCreated, .hears 0]

theorem responses_stay_home_sample :
    ∃ trace moment, LinkRun .started (moment :: trace) moment.after ∧ moment.label = .hears 0 ∧
      AnswersOwn moment := by
  have run := advance_run (rfl : advance linkStep confirming .started = some _)
  have careful := visits_all linkStep confirming .started finishesAtHome rfl
  have own := responses_stay_home run fun moment inside => finishesAtHome_careful (careful moment inside)
  exact ⟨_, _, run, rfl, own _ List.mem_cons_self⟩

end Results

end AgentycHost
