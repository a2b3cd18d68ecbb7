import AgentycHost.Broker.Scheduler
import AgentycHost.Shared.Runs

set_option autoImplicit false

/-!
# Calls to the scheduler

Threads acquire, wait for and drop permits in any order. A call is named by the
number of its arrival, which also stands for the token it queues with.
-/

namespace AgentycHost

open Shared

def Scheduler.create (limits : SchedulerLimits) : Except String Scheduler :=
  if limits.maxConcurrentReads = 0 then .error "max_concurrent_reads must be greater than zero"
  else .ok (.new limits)

-- The mutation calls that wait and those that hold a permit are kept with their space.
structure Permits where
  scheduler : Scheduler
  arrivals : Nat := 0
  waiters : Table Nat SpaceId := ∅
  holders : Table Nat SpaceId := ∅
  readWaiters : List Nat := []
  readers : List Nat := []

inductive PermitCommand where
  | acquireMutation (spaceId : SpaceId)
  | turnMutation (call : Nat) (cancelled expired : Bool)
  | dropMutation (call : Nat)
  | acquireRead
  | turnRead (call : Nat) (cancelled expired : Bool)
  | dropRead (call : Nat)
  deriving DecidableEq

inductive PermitReply where
  | acquired (answer : Acquired)
  | turned (turn : Scheduler.Turn)
  | dropped
  | panicked
  deriving DecidableEq

namespace Permits

def acquireMutation (permits : Permits) (spaceId : SpaceId) : Permits × PermitReply :=
  let call := permits.arrivals
  let (scheduler, answer) := permits.scheduler.acquireMutation spaceId call
  let arrived := { permits with scheduler, arrivals := call + 1 }
  match answer with
  | .permit => ({ arrived with holders := permits.holders.insert call spaceId }, .acquired answer)
  | .waiting => ({ arrived with waiters := permits.waiters.insert call spaceId }, .acquired answer)
  | .backpressure _ => (arrived, .acquired answer)

def turnMutation (permits : Permits) (spaceId : SpaceId) (call : Nat) (cancelled expired : Bool) :
    Permits × PermitReply :=
  match permits.scheduler.turnMutation spaceId call cancelled expired with
  | none => ({ permits with waiters := permits.waiters.erase call }, .panicked)
  | some (scheduler, turn) =>
      let turned := { permits with scheduler }
      match turn with
      | .granted =>
          ({ turned with
              waiters := permits.waiters.erase call
              holders := permits.holders.insert call spaceId }, .turned turn)
      | .cancelled | .deadlineExceeded => ({ turned with waiters := permits.waiters.erase call }, .turned turn)
      | .waits => (turned, .turned turn)

def dropMutation (permits : Permits) (spaceId : SpaceId) (call : Nat) : Permits × PermitReply :=
  ({ permits with
      scheduler := permits.scheduler.release spaceId
      holders := permits.holders.erase call }, .dropped)

def acquireRead (permits : Permits) : Permits × PermitReply :=
  let call := permits.arrivals
  let (scheduler, answer) := permits.scheduler.acquireRead call
  let arrived := { permits with scheduler, arrivals := call + 1 }
  match answer with
  | .permit => ({ arrived with readers := call :: permits.readers }, .acquired answer)
  | .waiting => ({ arrived with readWaiters := permits.readWaiters ++ [call] }, .acquired answer)
  | .backpressure _ => (arrived, .acquired answer)

def turnRead (permits : Permits) (call : Nat) (cancelled expired : Bool) : Permits × PermitReply :=
  let (scheduler, turn) := permits.scheduler.turnRead call cancelled expired
  let turned := { permits with scheduler }
  match turn with
  | .granted =>
      ({ turned with
          readWaiters := permits.readWaiters.erase call
          readers := call :: permits.readers }, .turned turn)
  | .cancelled | .deadlineExceeded =>
      ({ turned with readWaiters := permits.readWaiters.erase call }, .turned turn)
  | .waits => (turned, .turned turn)

def dropRead (permits : Permits) (call : Nat) : Permits × PermitReply :=
  let left := { permits with readers := permits.readers.erase call }
  match permits.scheduler.releaseRead with
  | none => (left, .panicked)
  | some scheduler => ({ left with scheduler }, .dropped)

/-- One step under the lock; `none` where no such call waits or holds a permit. -/
def next (permits : Permits) : PermitCommand -> Option (Permits × PermitReply)
  | .acquireMutation spaceId => some (permits.acquireMutation spaceId)
  | .turnMutation call cancelled expired =>
      (permits.waiters.get? call).map fun spaceId => permits.turnMutation spaceId call cancelled expired
  | .dropMutation call => (permits.holders.get? call).map fun spaceId => permits.dropMutation spaceId call
  | .acquireRead => some permits.acquireRead
  | .turnRead call cancelled expired =>
      if call ∈ permits.readWaiters then some (permits.turnRead call cancelled expired) else none
  | .dropRead call => if call ∈ permits.readers then some (permits.dropRead call) else none

end Permits

structure PermitStep where
  command : PermitCommand
  reply : PermitReply
  deriving DecidableEq

def Permits.follow (label : PermitStep) (permits : Permits) : Option Permits :=
  (permits.next label.command).bind fun result => if result.2 = label.reply then some result.1 else none

theorem Permits.follow_iff {label : PermitStep} {before after : Permits} :
    before.follow label = some after <-> before.next label.command = some (after, label.reply) := by
  unfold Permits.follow
  rw [Option.bind_eq_some_iff]
  constructor
  · rintro ⟨⟨after', reply⟩, taken, answered⟩
    obtain ⟨rfl, same⟩ := Option.ite_none_right_eq_some.mp answered
    cases same
    exact taken
  · intro taken
    exact ⟨_, taken, if_pos rfl⟩

abbrev PermitMoment := Moment Permits PermitStep

abbrev PermitRun (start : Scheduler) : List PermitMoment -> Permits -> Prop :=
  Run (fun label before after => before.follow label = some after) { scheduler := start }

def grantedTo (spaceId : SpaceId) (moment : PermitMoment) : Option Nat :=
  match moment.label.command, moment.label.reply with
  | .acquireMutation asked, .acquired .permit => if asked = spaceId then some moment.before.arrivals else none
  | .turnMutation call _ _, .turned .granted =>
      if moment.before.waiters.get? call = some spaceId then some call else none
  | _, _ => none

def grants (spaceId : SpaceId) (trace : List PermitMoment) : List Nat := trace.filterMap (grantedTo spaceId)

end AgentycHost
