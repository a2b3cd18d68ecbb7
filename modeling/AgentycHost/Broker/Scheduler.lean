import AgentycHost.Core.Contracts
import AgentycHost.Shared.Table

set_option autoImplicit false

/-!
# Permits

One mutation permit per space and a bounded number of read permits, handed to
the calls that wait for them in their order.
-/

namespace AgentycHost

open Shared

structure SchedulerLimits where
  maxQueuedMutations : Nat := 256
  maxQueuedMutationsPerSpace : Nat := 32
  maxConcurrentReads : Nat := 8
  maxQueuedReads : Nat := 64
  deriving DecidableEq

/-- `waiting` holds the calls in the order in which they asked. -/
structure MutationQueue where
  active : Bool
  waiting : List Nat
  deriving DecidableEq

def MutationQueue.idle : MutationQueue := { active := false, waiting := [] }

inductive BackpressureKind where
  | mutationQueueFull
  | globalMutationQueueFull
  | readQueueFull
  deriving DecidableEq

structure Scheduler where
  limits : SchedulerLimits
  mutations : Table SpaceId MutationQueue
  activeReads : Nat := 0
  readQueue : List Nat := []

inductive Acquired where
  | permit
  | waiting
  | backpressure (kind : BackpressureKind)
  deriving DecidableEq

namespace Scheduler

def new (limits : SchedulerLimits) : Scheduler := { limits, mutations := ∅ }

def queue (scheduler : Scheduler) (spaceId : SpaceId) : MutationQueue :=
  (scheduler.mutations.get? spaceId).getD .idle

def setQueue (scheduler : Scheduler) (spaceId : SpaceId) (queue : MutationQueue) : Scheduler :=
  { scheduler with mutations := scheduler.mutations.insert spaceId queue }

def queuedMutations (scheduler : Scheduler) : Nat :=
  (scheduler.mutations.values.map fun queue => queue.waiting.length).sum

/-- The first step of `acquire_mutation`: take the permit, join the queue or refuse. -/
def acquireMutation (scheduler : Scheduler) (spaceId : SpaceId) (call : Nat) : Scheduler × Acquired :=
  let queue := scheduler.queue spaceId
  let present := scheduler.setQueue spaceId queue
  if queue.active = false ∧ queue.waiting = [] then
    (scheduler.setQueue spaceId { queue with active := true }, .permit)
  else if scheduler.limits.maxQueuedMutationsPerSpace ≤ queue.waiting.length then
    (present, .backpressure .mutationQueueFull)
  else if scheduler.limits.maxQueuedMutations ≤ present.queuedMutations then
    (present, .backpressure .globalMutationQueueFull)
  else (scheduler.setQueue spaceId { queue with waiting := queue.waiting ++ [call] }, .waiting)

def wake (scheduler : Scheduler) (spaceId : SpaceId) (call : Nat) : Option Scheduler :=
  let queue := scheduler.queue spaceId
  if queue.active = false ∧ queue.waiting.head? = some call then
    some (scheduler.setQueue spaceId { active := true, waiting := queue.waiting.tail })
  else none

def release (scheduler : Scheduler) (spaceId : SpaceId) : Scheduler :=
  match scheduler.mutations.get? spaceId with
  | none => scheduler
  | some queue =>
      if queue.waiting = [] then { scheduler with mutations := scheduler.mutations.erase spaceId }
      else scheduler.setQueue spaceId { queue with active := false }

/-- `remove_mutation_waiter`: a call leaves the line of a space without its permit. -/
def removeMutationWaiter (scheduler : Scheduler) (spaceId : SpaceId) (call : Nat) : Scheduler :=
  match scheduler.mutations.get? spaceId with
  | none => scheduler
  | some queue =>
      let waiting := queue.waiting.erase call
      if queue.active = false ∧ waiting = [] then
        { scheduler with mutations := scheduler.mutations.erase spaceId }
      else scheduler.setQueue spaceId { queue with waiting }

inductive Turn where
  | granted
  | cancelled
  | deadlineExceeded
  | waits
  deriving DecidableEq

/-- One turn of a call that waits for the permit of a space; `none` is the panic of the `expect` in it. -/
def turnMutation (scheduler : Scheduler) (spaceId : SpaceId) (call : Nat) (cancelled expired : Bool) :
    Option (Scheduler × Turn) :=
  if cancelled then some (scheduler.removeMutationWaiter spaceId call, .cancelled)
  else if expired then some (scheduler.removeMutationWaiter spaceId call, .deadlineExceeded)
  else
    match scheduler.mutations.get? spaceId with
    | none => none
    | some queue =>
        if queue.active = false ∧ queue.waiting.head? = some call then
          some (scheduler.setQueue spaceId { active := true, waiting := queue.waiting.tail }, .granted)
        else some (scheduler, .waits)

def acquireRead (scheduler : Scheduler) (call : Nat) : Scheduler × Acquired :=
  if scheduler.activeReads < scheduler.limits.maxConcurrentReads ∧ scheduler.readQueue = [] then
    ({ scheduler with activeReads := scheduler.activeReads + 1 }, .permit)
  else if scheduler.limits.maxQueuedReads ≤ scheduler.readQueue.length then
    (scheduler, .backpressure .readQueueFull)
  else ({ scheduler with readQueue := scheduler.readQueue ++ [call] }, .waiting)

def removeReadWaiter (scheduler : Scheduler) (call : Nat) : Scheduler :=
  { scheduler with readQueue := scheduler.readQueue.erase call }

def turnRead (scheduler : Scheduler) (call : Nat) (cancelled expired : Bool) : Scheduler × Turn :=
  if cancelled then (scheduler.removeReadWaiter call, .cancelled)
  else if expired then (scheduler.removeReadWaiter call, .deadlineExceeded)
  else if scheduler.activeReads < scheduler.limits.maxConcurrentReads ∧ scheduler.readQueue.head? = some call then
    ({ scheduler with activeReads := scheduler.activeReads + 1, readQueue := scheduler.readQueue.tail }, .granted)
  else (scheduler, .waits)

/-- The drop of a read permit; `none` is an underflow of the counter. -/
def releaseRead (scheduler : Scheduler) : Option Scheduler :=
  if scheduler.activeReads = 0 then none
  else some { scheduler with activeReads := scheduler.activeReads - 1 }

@[simp]
theorem queue_setQueue (scheduler : Scheduler) (spaceId other : SpaceId) (queue : MutationQueue) :
    (scheduler.setQueue spaceId queue).queue other = if other = spaceId then queue else scheduler.queue other := by
  unfold Scheduler.queue Scheduler.setQueue
  rw [Table.get?_insert]
  split_ifs <;> rfl

theorem active_release (scheduler : Scheduler) (spaceId other : SpaceId) :
    ((scheduler.release spaceId).queue other).active =
      if other = spaceId then false else (scheduler.queue other).active := by
  unfold release
  split
  · next absent =>
    split_ifs with same
    · simp [Scheduler.queue, same, absent, MutationQueue.idle]
    · rfl
  · next queue present =>
    split_ifs with empty same same
    · simp [Scheduler.queue, same, Table.get?_erase, MutationQueue.idle]
    · simp [Scheduler.queue, same, Table.get?_erase]
    · simp [same]
    · simp [same]

end Scheduler

end AgentycHost
