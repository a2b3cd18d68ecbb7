import AgentycHost.System.Permits

set_option autoImplicit false

/-! # Permits in the order of arrival -/

namespace AgentycHost

open Shared

variable {scheduler : Scheduler} {spaceId : SpaceId} {queue : MutationQueue} {call : Nat} {limits : SchedulerLimits}

structure Scheduler.Requeued (before after : Scheduler) (spaceId : SpaceId) (queue : MutationQueue) : Prop where
  limits : after.limits = before.limits
  activeReads : after.activeReads = before.activeReads
  readQueue : after.readQueue = before.readQueue
  queueOf : ∀ other, after.queue other = if other = spaceId then queue else before.queue other
  present : ∀ other, after.mutations.contains other =
    if other = spaceId then !decide (queue = .idle) else before.mutations.contains other
  queued : after.queuedMutations + (before.queue spaceId).waiting.length =
    before.queuedMutations + queue.waiting.length

section Queues

theorem Scheduler.queuedMutations_eq :
    scheduler.queuedMutations = scheduler.mutations.total fun _ queue => queue.waiting.length := by
  simp only [Scheduler.queuedMutations, Table.total, Table.values, List.map_map]
  rfl

theorem Scheduler.queue_length :
    (scheduler.queue spaceId).waiting.length =
      scheduler.mutations.weight (fun _ queue => queue.waiting.length) spaceId := by
  unfold Scheduler.queue Table.weight
  cases scheduler.mutations.get? spaceId <;> rfl

theorem Scheduler.setQueue_requeued (busy : queue ≠ .idle) :
    scheduler.Requeued (scheduler.setQueue spaceId queue) spaceId queue := by
  refine ⟨rfl, rfl, rfl, fun other => scheduler.queue_setQueue spaceId other queue, fun other => ?_, ?_⟩
  · simp only [Scheduler.setQueue, Table.contains, Table.get?_insert, busy, decide_false, Bool.not_false]
    split_ifs <;> rfl
  · rw [Scheduler.queuedMutations_eq, Scheduler.queuedMutations_eq, Scheduler.queue_length]
    exact scheduler.mutations.total_insert _ spaceId queue

theorem Scheduler.erase_requeued (idle : queue = .idle) :
    scheduler.Requeued { scheduler with mutations := scheduler.mutations.erase spaceId } spaceId queue := by
  subst idle
  refine ⟨rfl, rfl, rfl, fun other => ?_, fun other => ?_, ?_⟩
  · simp only [Scheduler.queue, Table.get?_erase]
    split_ifs <;> rfl
  · simp only [Table.contains, Table.get?_erase, decide_true, Bool.not_true]
    split_ifs <;> rfl
  · rw [Scheduler.queuedMutations_eq, Scheduler.queuedMutations_eq, Scheduler.queue_length]
    have parts := scheduler.mutations.total_erase (fun _ queue => queue.waiting.length) spaceId
    simpa [MutationQueue.idle] using parts.symm

theorem Scheduler.queue_of_found (found : scheduler.mutations.get? spaceId = some queue) :
    scheduler.queue spaceId = queue := by
  simp [Scheduler.queue, found]

def Scheduler.NoIdle (scheduler : Scheduler) : Prop :=
  ∀ spaceId, scheduler.mutations.contains spaceId = true <-> scheduler.queue spaceId ≠ .idle

theorem Scheduler.Requeued.noIdle {before after : Scheduler} (moved : before.Requeued after spaceId queue)
    (tidy : before.NoIdle) : after.NoIdle := by
  intro other
  rw [moved.queueOf, moved.present]
  by_cases same : other = spaceId
  · simp [same]
  · simpa [same] using tidy other

theorem Scheduler.NoIdle.found (tidy : scheduler.NoIdle) (busy : scheduler.queue spaceId ≠ .idle) :
    scheduler.mutations.get? spaceId = some (scheduler.queue spaceId) := by
  have present := (tidy spaceId).mpr busy
  obtain ⟨queue, found⟩ := (Table.contains_iff _ _).mp present
  rw [Scheduler.queue_of_found found, found]

theorem MutationQueue.busy_iff : queue ≠ .idle <-> queue.active = true ∨ queue.waiting ≠ [] := by
  obtain ⟨active, waiting⟩ := queue
  cases active <;> simp [MutationQueue.idle]

end Queues

theorem Scheduler.acquireMutation_cases {scheduler after : Scheduler} {spaceId : SpaceId} {call : Nat}
    {answer : Acquired} (asked : scheduler.acquireMutation spaceId call = (after, answer)) :
    (answer = .permit ∧ scheduler.queue spaceId = .idle ∧
      scheduler.Requeued after spaceId { active := true, waiting := [] }) ∨
    (answer = .waiting ∧ scheduler.queue spaceId ≠ .idle ∧
      (scheduler.queue spaceId).waiting.length < scheduler.limits.maxQueuedMutationsPerSpace ∧
      scheduler.queuedMutations < scheduler.limits.maxQueuedMutations ∧
      scheduler.Requeued after spaceId
        { scheduler.queue spaceId with waiting := (scheduler.queue spaceId).waiting ++ [call] }) ∨
    ((∃ kind, answer = .backpressure kind) ∧ scheduler.queue spaceId ≠ .idle ∧
      scheduler.Requeued after spaceId (scheduler.queue spaceId)) := by
  unfold Scheduler.acquireMutation at asked
  generalize line : scheduler.queue spaceId = queue at asked ⊢
  by_cases free : queue.active = false ∧ queue.waiting = []
  · have idle : queue = .idle := by
      by_contra busy
      rcases MutationQueue.busy_iff.mp busy with active | waiting
      · simp [free.1] at active
      · exact waiting free.2
    rw [if_pos free] at asked
    cases asked
    refine .inl ⟨rfl, idle, ?_⟩
    rw [free.2]
    exact Scheduler.setQueue_requeued (by simp [MutationQueue.idle])
  have busy : queue ≠ .idle := by
    intro rest
    simp [rest, MutationQueue.idle] at free
  have present : scheduler.Requeued (scheduler.setQueue spaceId queue) spaceId queue := Scheduler.setQueue_requeued busy
  -- a busy queue has its entry, and putting it back changes no count
  have same : (scheduler.setQueue spaceId queue).queuedMutations = scheduler.queuedMutations := by
    have counted := present.queued
    rw [line] at counted
    omega
  rw [if_neg free, same] at asked
  by_cases full : scheduler.limits.maxQueuedMutationsPerSpace ≤ queue.waiting.length
  · rw [if_pos full] at asked
    cases asked
    exact .inr (.inr ⟨⟨_, rfl⟩, busy, present⟩)
  by_cases crowded : scheduler.limits.maxQueuedMutations ≤ scheduler.queuedMutations
  · rw [if_neg full, if_pos crowded] at asked
    cases asked
    exact .inr (.inr ⟨⟨_, rfl⟩, busy, present⟩)
  · rw [if_neg full, if_neg crowded] at asked
    cases asked
    exact .inr (.inl ⟨rfl, busy, by omega, by omega, Scheduler.setQueue_requeued (by simp [MutationQueue.idle])⟩)

section Leaving

theorem Scheduler.release_requeued (tidy : scheduler.NoIdle) (active : (scheduler.queue spaceId).active = true) :
    scheduler.Requeued (scheduler.release spaceId) spaceId { scheduler.queue spaceId with active := false } := by
  have found := tidy.found (MutationQueue.busy_iff.mpr (.inl active))
  unfold Scheduler.release
  rw [found]
  by_cases empty : (scheduler.queue spaceId).waiting = []
  · simp only [if_pos empty]
    exact Scheduler.erase_requeued (by rw [empty]; rfl)
  · simp only [if_neg empty]
    exact Scheduler.setQueue_requeued (MutationQueue.busy_iff.mpr (.inr empty))

theorem Scheduler.removeMutationWaiter_requeued (tidy : scheduler.NoIdle)
    (waits : call ∈ (scheduler.queue spaceId).waiting) :
    scheduler.Requeued (scheduler.removeMutationWaiter spaceId call) spaceId
      { scheduler.queue spaceId with waiting := (scheduler.queue spaceId).waiting.erase call } := by
  have found := tidy.found (MutationQueue.busy_iff.mpr (.inr (List.ne_nil_of_mem waits)))
  unfold Scheduler.removeMutationWaiter
  rw [found]
  generalize scheduler.queue spaceId = queue
  by_cases idle : queue.active = false ∧ queue.waiting.erase call = []
  · simp only [if_pos idle]
    exact Scheduler.erase_requeued (by rw [idle.1, idle.2]; rfl)
  · simp only [if_neg idle]
    apply Scheduler.setQueue_requeued
    rw [MutationQueue.busy_iff]
    by_cases active : queue.active = true
    · exact .inl active
    · exact .inr fun empty => idle ⟨by simpa using active, empty⟩

theorem Scheduler.turnMutation_cases (tidy : scheduler.NoIdle) (cancelled expired : Bool)
    (waits : call ∈ (scheduler.queue spaceId).waiting) :
    ∃ after turn, scheduler.turnMutation spaceId call cancelled expired = some (after, turn) ∧
      ((turn = .cancelled ∨ turn = .deadlineExceeded) ∧
          scheduler.Requeued after spaceId
            { scheduler.queue spaceId with waiting := (scheduler.queue spaceId).waiting.erase call } ∨
        turn = .granted ∧ (scheduler.queue spaceId).active = false ∧
          (∃ behind, (scheduler.queue spaceId).waiting = call :: behind ∧
            scheduler.Requeued after spaceId { active := true, waiting := behind }) ∨
        turn = .waits ∧ after = scheduler) := by
  have found := tidy.found (MutationQueue.busy_iff.mpr (.inr (List.ne_nil_of_mem waits)))
  have removed := scheduler.removeMutationWaiter_requeued tidy waits
  unfold Scheduler.turnMutation
  by_cases left : cancelled = true
  · rw [if_pos left]
    exact ⟨_, _, rfl, .inl ⟨.inl rfl, removed⟩⟩
  by_cases late : expired = true
  · rw [if_neg left, if_pos late]
    exact ⟨_, _, rfl, .inl ⟨.inr rfl, removed⟩⟩
  rw [if_neg left, if_neg late, found]
  by_cases first : (scheduler.queue spaceId).active = false ∧ (scheduler.queue spaceId).waiting.head? = some call
  · simp only [if_pos first]
    obtain ⟨behind, line⟩ := List.head?_eq_some_iff.mp first.2
    refine ⟨_, _, rfl, .inr (.inl ⟨rfl, first.1, behind, line, ?_⟩)⟩
    rw [line]
    exact Scheduler.setQueue_requeued (by simp [MutationQueue.idle])
  · simp only [if_neg first]
    exact ⟨_, _, rfl, .inr (.inr ⟨rfl, rfl⟩)⟩

end Leaving

structure InLine (waiters holders : Table Nat SpaceId) (spaceId : SpaceId) (queue : MutationQueue) : Prop where
  waiting : ∀ call, call ∈ queue.waiting <-> waiters.get? call = some spaceId
  ordered : queue.waiting.Pairwise (· < ·)
  active : queue.active = true <-> ∃ call, holders.get? call = some spaceId
  exclusive : ∀ one other, holders.get? one = some spaceId -> holders.get? other = some spaceId -> one = other

structure Numbered (waiters holders : Table Nat SpaceId) (arrivals : Nat) : Prop where
  waiter : ∀ call spaceId, waiters.get? call = some spaceId -> call < arrivals
  holder : ∀ call spaceId, holders.get? call = some spaceId -> call < arrivals
  apart : ∀ call spaceId, waiters.get? call = some spaceId -> holders.get? call = none

section Numbers

variable {waiters holders : Table Nat SpaceId} {arrivals : Nat} {calls : Table Nat SpaceId}

namespace Numbered

variable (numbered : Numbered waiters holders arrivals)

include numbered

theorem newWaiter : waiters.get? arrivals = none := by
  by_contra present
  obtain ⟨spaceId, found⟩ := Option.ne_none_iff_exists'.mp present
  have := numbered.waiter arrivals spaceId found
  omega

theorem newHolder : holders.get? arrivals = none := by
  by_contra present
  obtain ⟨spaceId, found⟩ := Option.ne_none_iff_exists'.mp present
  have := numbered.holder arrivals spaceId found
  omega

theorem later {next : Nat} (more : arrivals ≤ next) : Numbered waiters holders next where
  waiter one spaceId found := by
    have := numbered.waiter one spaceId found
    omega
  holder one spaceId found := by
    have := numbered.holder one spaceId found
    omega
  apart := numbered.apart

theorem join (absent : holders.get? call = none) (known : call < arrivals) :
    Numbered (waiters.insert call spaceId) holders arrivals where
  waiter one other found := by
    rw [Table.get?_insert] at found
    split_ifs at found with same
    · omega
    · exact numbered.waiter one other found
  holder := numbered.holder
  apart one other found := by
    rw [Table.get?_insert] at found
    split_ifs at found with same
    · rw [same, absent]
    · exact numbered.apart one other found

theorem leave : Numbered (waiters.erase call) holders arrivals where
  waiter one other found := by
    rw [Table.get?_erase] at found
    split_ifs at found
    exact numbered.waiter one other found
  holder := numbered.holder
  apart one other found := by
    rw [Table.get?_erase] at found
    split_ifs at found
    exact numbered.apart one other found

theorem hold (absent : waiters.get? call = none) (known : call < arrivals) :
    Numbered waiters (holders.insert call spaceId) arrivals where
  waiter := numbered.waiter
  holder one other found := by
    rw [Table.get?_insert] at found
    split_ifs at found with same
    · omega
    · exact numbered.holder one other found
  apart one other found := by
    rw [Table.get?_insert]
    split_ifs with same
    · simp [same, absent] at found
    · exact numbered.apart one other found

theorem drop : Numbered waiters (holders.erase call) arrivals where
  waiter := numbered.waiter
  holder one other found := by
    rw [Table.get?_erase] at found
    split_ifs at found
    exact numbered.holder one other found
  apart one other found := by
    rw [Table.get?_erase]
    split_ifs
    · rfl
    · exact numbered.apart one other found

end Numbered

def SameElsewhere (spaceId : SpaceId) (before after : Table Nat SpaceId) : Prop :=
  ∀ call other, other ≠ spaceId -> (after.get? call = some other <-> before.get? call = some other)

theorem SameElsewhere.refl (calls : Table Nat SpaceId) : SameElsewhere spaceId calls calls :=
  fun _ _ _ => Iff.rfl

theorem SameElsewhere.insert (absent : calls.get? call = none) :
    SameElsewhere spaceId calls (calls.insert call spaceId) := by
  intro one other elsewhere
  rw [Table.get?_insert]
  by_cases same : one = call
  · simp [same, absent, elsewhere.symm]
  · simp [same]

theorem SameElsewhere.erase (found : calls.get? call = some spaceId) :
    SameElsewhere spaceId calls (calls.erase call) := by
  intro one other elsewhere
  rw [Table.get?_erase]
  by_cases same : one = call
  · simp [same, found, elsewhere.symm]
  · simp [same]

namespace InLine

theorem elsewhere {other : SpaceId} {newWaiters newHolders : Table Nat SpaceId} (distinct : other ≠ spaceId)
    (line : InLine waiters holders other queue) (sameWaiters : SameElsewhere spaceId waiters newWaiters)
    (sameHolders : SameElsewhere spaceId holders newHolders) : InLine newWaiters newHolders other queue where
  waiting call := (line.waiting call).trans (sameWaiters call other distinct).symm
  ordered := line.ordered
  active := line.active.trans (exists_congr fun call => (sameHolders call other distinct).symm)
  exclusive one two first second :=
    line.exclusive one two ((sameHolders one other distinct).mp first) ((sameHolders two other distinct).mp second)

variable (line : InLine waiters holders spaceId queue)

include line

theorem join (latest : ∀ one, waiters.get? one = some spaceId -> one < call) :
    InLine (waiters.insert call spaceId) holders spaceId { queue with waiting := queue.waiting ++ [call] } where
  waiting one := by
    rw [List.mem_append, List.mem_singleton, line.waiting, Table.get?_insert]
    by_cases same : one = call <;> simp [same]
  ordered := by
    refine List.pairwise_append.mpr ⟨line.ordered, List.pairwise_singleton _ _, fun one inside two last => ?_⟩
    rw [List.mem_singleton.mp last]
    exact latest one ((line.waiting one).mp inside)
  active := line.active
  exclusive := line.exclusive

theorem leave : InLine (waiters.erase call) holders spaceId { queue with waiting := queue.waiting.erase call } where
  waiting one := by
    -- the line is in strict order, so a number leaves it with its only occurrence
    have once : queue.waiting.Nodup := line.ordered.imp fun before => Nat.ne_of_lt before
    rw [once.mem_erase_iff, line.waiting, Table.get?_erase]
    by_cases same : one = call <;> simp [same]
  ordered := line.ordered.sublist List.erase_sublist
  active := line.active
  exclusive := line.exclusive

theorem hold {behind : List Nat} (free : queue.active = false) (rest : behind.Pairwise (· < ·))
    (others : ∀ one, one ∈ behind <-> waiters.get? one = some spaceId ∧ one ≠ call) :
    InLine (waiters.erase call) (holders.insert call spaceId) spaceId { active := true, waiting := behind } := by
  -- no other call holds a permit
  have none_ (one : Nat) : holders.get? one ≠ some spaceId := by
    intro held
    simp [line.active.mpr ⟨one, held⟩] at free
  have only (one : Nat) (held : (holders.insert call spaceId).get? one = some spaceId) : one = call := by
    rw [Table.get?_insert] at held
    split_ifs at held with same
    · exact same
    · exact (none_ one held).elim
  refine ⟨fun one => ?_, rest, ?_, fun one other first second => ?_⟩
  · rw [others, Table.get?_erase]
    by_cases same : one = call <;> simp [same]
  · simp only [true_iff]
    exact ⟨call, by simp⟩
  · rw [only one first, only other second]

theorem drop (held : holders.get? call = some spaceId) :
    InLine waiters (holders.erase call) spaceId { queue with active := false } := by
  have none_ (one : Nat) : (holders.erase call).get? one ≠ some spaceId := by
    intro still
    rw [Table.get?_erase] at still
    split_ifs at still with same
    exact same (line.exclusive one call still held)
  refine ⟨line.waiting, line.ordered, ?_, fun one other first => (none_ one first).elim⟩
  simp [none_]

end InLine

end Numbers

structure Permits.Coherent (limits : SchedulerLimits) (permits : Permits) : Prop where
  configured : permits.scheduler.limits = limits
  tidy : permits.scheduler.NoIdle
  line : ∀ spaceId, InLine permits.waiters permits.holders spaceId (permits.scheduler.queue spaceId)
  numbered : Numbered permits.waiters permits.holders permits.arrivals
  spaceBound : ∀ spaceId, (permits.scheduler.queue spaceId).waiting.length ≤ limits.maxQueuedMutationsPerSpace
  globalBound : permits.scheduler.queuedMutations ≤ limits.maxQueuedMutations
  readLine : permits.scheduler.readQueue = permits.readWaiters
  readQueueBound : permits.scheduler.readQueue.length ≤ limits.maxQueuedReads
  reading : permits.scheduler.activeReads = permits.readers.length
  readBound : permits.scheduler.activeReads ≤ limits.maxConcurrentReads

namespace Permits

variable {permits after : Permits} {reply : PermitReply} {expired cancelled : Bool} {command : PermitCommand}

theorem Coherent.requeued (coherent : permits.Coherent limits) {scheduler : Scheduler} {queue : MutationQueue}
    {waiters holders : Table Nat SpaceId} {arrivals : Nat} (moved : permits.scheduler.Requeued scheduler spaceId queue)
    (line : InLine waiters holders spaceId queue) (numbered : Numbered waiters holders arrivals)
    (sameWaiters : SameElsewhere spaceId permits.waiters waiters)
    (sameHolders : SameElsewhere spaceId permits.holders holders)
    (room : queue.waiting.length ≤ (permits.scheduler.queue spaceId).waiting.length ∨
      queue.waiting.length ≤ limits.maxQueuedMutationsPerSpace ∧ scheduler.queuedMutations ≤ limits.maxQueuedMutations) :
    Coherent limits { permits with scheduler, waiters, holders, arrivals } where
  configured := moved.limits.trans coherent.configured
  tidy := moved.noIdle coherent.tidy
  line other := by
    change InLine waiters holders other (scheduler.queue other)
    rw [moved.queueOf]
    split_ifs with same
    · exact same ▸ line
    · exact (coherent.line other).elsewhere same sameWaiters sameHolders
  numbered := numbered
  spaceBound other := by
    change (scheduler.queue other).waiting.length ≤ _
    rw [moved.queueOf]
    have earlier := coherent.spaceBound spaceId
    split_ifs with same
    · omega
    · exact coherent.spaceBound other
  globalBound := by
    change scheduler.queuedMutations ≤ _
    have earlier := coherent.globalBound
    have counted := moved.queued
    omega
  readLine := moved.readQueue.trans coherent.readLine
  readQueueBound := by
    change scheduler.readQueue.length ≤ _
    rw [moved.readQueue]
    exact coherent.readQueueBound
  reading := moved.activeReads.trans coherent.reading
  readBound := by
    change scheduler.activeReads ≤ _
    rw [moved.activeReads]
    exact coherent.readBound

theorem acquireMutation_coherent (coherent : permits.Coherent limits)
    (taken : permits.acquireMutation spaceId = (after, reply)) : after.Coherent limits ∧ reply ≠ .panicked := by
  have line := coherent.line spaceId
  have numbered := coherent.numbered.later (Nat.le_succ _)
  have newWaiter := coherent.numbered.newWaiter
  have newHolder := coherent.numbered.newHolder
  have spaceBound := coherent.spaceBound spaceId
  simp only [Permits.acquireMutation] at taken
  rcases asked : permits.scheduler.acquireMutation spaceId permits.arrivals with ⟨scheduler, answer⟩
  rw [asked] at taken
  obtain ⟨rfl, idle, moved⟩ | ⟨rfl, busy, short, few, moved⟩ | ⟨⟨kind, rfl⟩, busy, moved⟩ :=
    Scheduler.acquireMutation_cases asked
  · cases taken
    refine ⟨coherent.requeued moved ?_ (numbered.hold newWaiter (Nat.lt_succ_self _)) (.refl _)
      (.insert newHolder) (.inl (Nat.zero_le _)), by simp⟩
    -- an idle queue has no waiter, so the line behind the new call is empty
    rw [idle] at line
    have nobody (one : Nat) : one ∈ ([] : List Nat) <->
        permits.waiters.get? one = some spaceId ∧ one ≠ permits.arrivals := by
      simp [← line.waiting, MutationQueue.idle]
    have hold := line.hold rfl .nil nobody
    refine ⟨fun one => ?_, hold.ordered, hold.active, hold.exclusive⟩
    rw [← line.waiting]
    simp [MutationQueue.idle]
  · cases taken
    refine ⟨coherent.requeued moved (line.join fun one found => coherent.numbered.waiter one spaceId found)
      (numbered.join newHolder (Nat.lt_succ_self _)) (.insert newWaiter) (.refl _) (.inr ⟨?_, ?_⟩), by simp⟩
    · rw [coherent.configured] at short
      simp only [List.length_append, List.length_singleton]
      omega
    · have counted := moved.queued
      rw [coherent.configured] at few
      change scheduler.queuedMutations ≤ _
      simp only [List.length_append, List.length_singleton] at counted
      omega
  · cases taken
    exact ⟨coherent.requeued moved line numbered (.refl _) (.refl _) (.inl (Nat.le_refl _)), by simp⟩

theorem turnMutation_coherent (coherent : permits.Coherent limits) (waits : permits.waiters.get? call = some spaceId)
    (taken : permits.turnMutation spaceId call cancelled expired = (after, reply)) :
    after.Coherent limits ∧ reply ≠ .panicked := by
  have line := coherent.line spaceId
  have waiting := (line.waiting call).mpr waits
  obtain ⟨scheduler, turn, turned, ends⟩ :=
    Scheduler.turnMutation_cases coherent.tidy cancelled expired waiting
  have left (moved : permits.scheduler.Requeued scheduler spaceId
      { permits.scheduler.queue spaceId with waiting := (permits.scheduler.queue spaceId).waiting.erase call }) :
      Coherent limits { permits with scheduler, waiters := permits.waiters.erase call } :=
    coherent.requeued moved line.leave coherent.numbered.leave (.erase waits) (.refl _) (.inl List.length_erase_le)
  unfold Permits.turnMutation at taken
  rw [turned] at taken
  obtain ⟨rfl | rfl, moved⟩ | ⟨rfl, free, behind, first, moved⟩ | ⟨rfl, rfl⟩ := ends
  · cases taken
    exact ⟨left moved, by simp⟩
  · cases taken
    exact ⟨left moved, by simp⟩
  · cases taken
    have ordered := line.ordered
    rw [first] at ordered
    have absent := coherent.numbered.apart call spaceId waits
    have known := coherent.numbered.waiter call spaceId waits
    have others (one : Nat) : one ∈ behind <-> permits.waiters.get? one = some spaceId ∧ one ≠ call := by
      rw [← line.waiting, first, List.mem_cons]
      constructor
      · intro inside
        have earlier := (List.pairwise_cons.mp ordered).1 one inside
        exact ⟨.inr inside, by omega⟩
      · rintro ⟨same | inside, other⟩
        · exact (other same).elim
        · exact inside
    have held := line.hold free (List.pairwise_cons.mp ordered).2 others
    refine ⟨coherent.requeued moved held (coherent.numbered.leave.hold (by simp [Table.get?_erase]) known)
      (.erase waits) (.insert absent) (.inl ?_), by simp⟩
    rw [first]
    exact Nat.le_succ _
  · cases taken
    exact ⟨coherent, by simp⟩

theorem dropMutation_coherent (coherent : permits.Coherent limits) (held : permits.holders.get? call = some spaceId)
    (taken : permits.dropMutation spaceId call = (after, reply)) : after.Coherent limits ∧ reply ≠ .panicked := by
  have line := coherent.line spaceId
  have active := line.active.mpr ⟨call, held⟩
  have moved := Scheduler.release_requeued coherent.tidy active
  cases taken
  exact ⟨coherent.requeued moved (line.drop held) coherent.numbered.drop (.refl _) (.erase held)
    (.inl (Nat.le_refl _)), by simp⟩

theorem acquireRead_coherent (coherent : permits.Coherent limits) (taken : permits.acquireRead = (after, reply)) :
    after.Coherent limits ∧ reply ≠ .panicked := by
  have numbered := coherent.numbered.later (Nat.le_succ _)
  have reading := coherent.reading
  have configured := coherent.configured
  simp only [Permits.acquireRead, Scheduler.acquireRead] at taken
  split_ifs at taken with free full
  · cases taken
    refine ⟨{ coherent with numbered, reading := ?_, readBound := ?_ }, by simp⟩
    · simp [reading]
    · have slot := free.1
      rw [configured] at slot
      exact slot
  · cases taken
    exact ⟨{ coherent with numbered }, by simp⟩
  · cases taken
    refine ⟨{ coherent with numbered, readLine := ?_, readQueueBound := ?_ }, by simp⟩
    · simp [coherent.readLine]
    · rw [configured] at full
      simp only [List.length_append, List.length_singleton]
      omega

theorem turnRead_coherent (coherent : permits.Coherent limits)
    (taken : permits.turnRead call cancelled expired = (after, reply)) :
    after.Coherent limits ∧ reply ≠ .panicked := by
  have left : Coherent limits { permits with
      scheduler := permits.scheduler.removeReadWaiter call
      readWaiters := permits.readWaiters.erase call } :=
    { coherent with
      readLine := by simp [Scheduler.removeReadWaiter, coherent.readLine]
      readQueueBound := List.length_erase_le.trans coherent.readQueueBound }
  simp only [Permits.turnRead, Scheduler.turnRead] at taken
  split_ifs at taken with gone late first
  · cases taken
    exact ⟨left, by simp⟩
  · cases taken
    exact ⟨left, by simp⟩
  · cases taken
    obtain ⟨behind, line⟩ := List.head?_eq_some_iff.mp first.2
    have slot := first.1
    have waiting := coherent.readLine
    have bound := coherent.readQueueBound
    rw [coherent.configured] at slot
    rw [line] at waiting bound
    refine ⟨{ coherent with readLine := ?_, readQueueBound := ?_, reading := ?_, readBound := slot }, by simp⟩
    · simp [line, ← waiting]
    · simp only [line, List.tail_cons]
      exact (Nat.le_succ _).trans bound
    · simp [coherent.reading]
  · cases taken
    exact ⟨coherent, by simp⟩

theorem dropRead_coherent (coherent : permits.Coherent limits) (held : call ∈ permits.readers)
    (taken : permits.dropRead call = (after, reply)) : after.Coherent limits ∧ reply ≠ .panicked := by
  have reading := coherent.reading
  have some_ := List.length_pos_of_mem held
  -- the permit that is dropped is counted
  have counted : permits.scheduler.activeReads ≠ 0 := by omega
  simp only [Permits.dropRead, Scheduler.releaseRead, if_neg counted] at taken
  cases taken
  refine ⟨{ coherent with reading := ?_, readBound := (Nat.sub_le _ _).trans coherent.readBound }, by simp⟩
  simp only [List.length_erase_of_mem held]
  omega

theorem next_coherent (coherent : permits.Coherent limits) (taken : permits.next command = some (after, reply)) :
    after.Coherent limits ∧ reply ≠ .panicked := by
  cases command with
  | acquireMutation spaceId => exact acquireMutation_coherent coherent (Option.some.inj taken)
  | turnMutation call cancelled expired =>
    obtain ⟨spaceId, waits, turned⟩ := Option.map_eq_some_iff.mp taken
    exact turnMutation_coherent coherent waits turned
  | dropMutation call =>
    obtain ⟨spaceId, held, dropped⟩ := Option.map_eq_some_iff.mp taken
    exact dropMutation_coherent coherent held dropped
  | acquireRead => exact acquireRead_coherent coherent (Option.some.inj taken)
  | turnRead call cancelled expired =>
    obtain ⟨_, turned⟩ := Option.ite_none_right_eq_some.mp taken
    exact turnRead_coherent coherent (Option.some.inj turned)
  | dropRead call =>
    obtain ⟨held, dropped⟩ := Option.ite_none_right_eq_some.mp taken
    exact dropRead_coherent coherent held (Option.some.inj dropped)

theorem next_arrivals (taken : permits.next command = some (after, reply)) :
    permits.arrivals ≤ after.arrivals := by
  cases command with
  | acquireMutation spaceId =>
    simp only [next, Permits.acquireMutation] at taken
    split at taken <;> cases taken <;> exact Nat.le_succ _
  | turnMutation call cancelled expired =>
    obtain ⟨spaceId, _, turned⟩ := Option.map_eq_some_iff.mp taken
    simp only [Permits.turnMutation] at turned
    split at turned
    · cases turned
      exact Nat.le_refl _
    · split at turned <;> cases turned <;> exact Nat.le_refl _
  | dropMutation call =>
    obtain ⟨spaceId, _, dropped⟩ := Option.map_eq_some_iff.mp taken
    cases dropped
    exact Nat.le_refl _
  | acquireRead =>
    simp only [next, Permits.acquireRead] at taken
    split at taken <;> cases taken <;> exact Nat.le_succ _
  | turnRead call cancelled expired =>
    obtain ⟨_, turned⟩ := Option.ite_none_right_eq_some.mp taken
    simp only [Permits.turnRead] at turned
    split at turned <;> cases turned <;> exact Nat.le_refl _
  | dropRead call =>
    obtain ⟨_, dropped⟩ := Option.ite_none_right_eq_some.mp taken
    simp only [Permits.dropRead] at dropped
    split at dropped <;> cases dropped <;> exact Nat.le_refl _

theorem next_waiter (taken : permits.next command = some (after, reply))
    (waits : after.waiters.get? call = some spaceId) :
    permits.waiters.get? call = some spaceId ∨ call = permits.arrivals := by
  have erased (other : Nat) (still : (permits.waiters.erase other).get? call = some spaceId) :
      permits.waiters.get? call = some spaceId ∨ call = permits.arrivals := by
    rw [Table.get?_erase] at still
    split_ifs at still
    exact .inl still
  cases command with
  | acquireMutation asked =>
    simp only [next, Permits.acquireMutation] at taken
    split at taken
    · cases taken
      exact .inl waits
    · cases taken
      rw [Table.get?_insert] at waits
      split_ifs at waits with same
      · exact .inr same
      · exact .inl waits
    · cases taken
      exact .inl waits
  | turnMutation turning cancelled expired =>
    obtain ⟨_, _, turned⟩ := Option.map_eq_some_iff.mp taken
    simp only [Permits.turnMutation] at turned
    split at turned
    · cases turned
      exact erased _ waits
    · split at turned
      · cases turned
        exact erased _ waits
      · cases turned
        exact erased _ waits
      · cases turned
        exact erased _ waits
      · cases turned
        exact .inl waits
  | dropMutation dropped =>
    obtain ⟨_, _, dropped⟩ := Option.map_eq_some_iff.mp taken
    cases dropped
    exact .inl waits
  | acquireRead =>
    simp only [next, Permits.acquireRead] at taken
    split at taken <;> cases taken <;> exact .inl waits
  | turnRead turning cancelled expired =>
    obtain ⟨_, turned⟩ := Option.ite_none_right_eq_some.mp taken
    simp only [Permits.turnRead] at turned
    split at turned <;> cases turned <;> exact .inl waits
  | dropRead dropping =>
    obtain ⟨_, dropped⟩ := Option.ite_none_right_eq_some.mp taken
    simp only [Permits.dropRead] at dropped
    split at dropped <;> cases dropped <;> exact .inl waits

theorem next_granted (coherent : permits.Coherent limits) {label : PermitStep}
    (taken : permits.next label.command = some (after, label.reply))
    (granted : grantedTo spaceId ⟨permits, label, after⟩ = some call) :
    after.holders.get? call = some spaceId ∧
      (call = permits.arrivals ∨ permits.waiters.get? call = some spaceId) ∧
      ∀ other, permits.waiters.get? other = some spaceId -> call ≤ other := by
  obtain ⟨command, reply⟩ := label
  have line := coherent.line spaceId
  unfold grantedTo at granted
  split at granted
  · next asked command reply =>
    simp only at command reply
    subst command reply
    split_ifs at granted with same
    subst same
    cases granted
    have found := Option.some.inj taken
    simp only [Permits.acquireMutation] at found
    rcases answered : permits.scheduler.acquireMutation asked permits.arrivals with ⟨scheduler, answer⟩
    rw [answered] at found
    obtain ⟨rfl, idle, _⟩ | ⟨rfl, _⟩ | ⟨⟨kind, rfl⟩, _⟩ := Scheduler.acquireMutation_cases answered
    · cases found
      refine ⟨by simp, .inl rfl, fun other waits => ?_⟩
      have inside := (line.waiting other).mpr waits
      simp [idle, MutationQueue.idle] at inside
    · simp at found
    · simp at found
  · next turning cancelled expired command reply =>
    simp only at command reply
    subst command reply
    split_ifs at granted with waits
    cases granted
    obtain ⟨found, there, turned⟩ := Option.map_eq_some_iff.mp taken
    obtain rfl : found = spaceId := Option.some.inj (there.symm.trans waits)
    obtain ⟨scheduler, turn, ends, cases_⟩ :=
      Scheduler.turnMutation_cases coherent.tidy cancelled expired ((line.waiting call).mpr waits)
    simp only [Permits.turnMutation, ends] at turned
    obtain ⟨rfl | rfl, _⟩ | ⟨rfl, _, behind, first, _⟩ | ⟨rfl, _⟩ := cases_
    · simp at turned
    · simp at turned
    · cases turned
      refine ⟨by simp, .inr waits, fun other waiting => ?_⟩
      have inside := (line.waiting other).mpr waiting
      have ordered := line.ordered
      rw [first] at inside ordered
      rcases List.mem_cons.mp inside with rfl | later
      · exact Nat.le_refl _
      · exact Nat.le_of_lt ((List.pairwise_cons.mp ordered).1 other later)
    · simp at turned
  · cases granted

end Permits

/-- What callers see of a scheduler, against the calls that wait and the permits that live. -/
structure Permits.Safe (limits : SchedulerLimits) (permits : Permits) : Prop where
  exclusive : ∀ spaceId one other,
    permits.holders.get? one = some spaceId -> permits.holders.get? other = some spaceId -> one = other
  active : ∀ spaceId,
    (permits.scheduler.queue spaceId).active = true <-> ∃ call, permits.holders.get? call = some spaceId
  waiting : ∀ spaceId call,
    call ∈ (permits.scheduler.queue spaceId).waiting <-> permits.waiters.get? call = some spaceId
  present : ∀ spaceId, permits.scheduler.mutations.contains spaceId = true <->
    (∃ call, permits.holders.get? call = some spaceId) ∨ ∃ call, permits.waiters.get? call = some spaceId
  spaceBound : ∀ spaceId, (permits.scheduler.queue spaceId).waiting.length ≤ limits.maxQueuedMutationsPerSpace
  globalBound : permits.scheduler.queuedMutations ≤ limits.maxQueuedMutations
  readWaiting : permits.scheduler.readQueue = permits.readWaiters
  readQueueBound : permits.scheduler.readQueue.length ≤ limits.maxQueuedReads
  reading : permits.scheduler.activeReads = permits.readers.length
  readBound : permits.scheduler.activeReads ≤ limits.maxConcurrentReads

theorem Permits.Coherent.safe {limits : SchedulerLimits} {permits : Permits} (coherent : permits.Coherent limits) :
    permits.Safe limits where
  exclusive spaceId := (coherent.line spaceId).exclusive
  active spaceId := (coherent.line spaceId).active
  waiting spaceId := (coherent.line spaceId).waiting
  present spaceId := by
    have line := coherent.line spaceId
    rw [coherent.tidy, MutationQueue.busy_iff, line.active]
    apply or_congr Iff.rfl
    constructor
    · intro some_
      obtain ⟨call, inside⟩ := List.exists_mem_of_ne_nil _ some_
      exact ⟨call, (line.waiting call).mp inside⟩
    · rintro ⟨call, waits⟩
      exact List.ne_nil_of_mem ((line.waiting call).mpr waits)
  spaceBound := coherent.spaceBound
  globalBound := coherent.globalBound
  readWaiting := coherent.readLine
  readQueueBound := coherent.readQueueBound
  reading := coherent.reading
  readBound := coherent.readBound

section Runs

variable {trace : List PermitMoment} {last : Permits}

theorem Scheduler.create_coherent (created : Scheduler.create limits = .ok scheduler) :
    Permits.Coherent limits { scheduler } := by
  unfold Scheduler.create at created
  split_ifs at created
  cases created
  constructor
  case line => exact fun _ => ⟨by simp [Scheduler.new, Scheduler.queue, MutationQueue.idle], .nil, by
    simp [Scheduler.new, Scheduler.queue, MutationQueue.idle], by simp⟩
  case numbered => exact ⟨by simp, by simp, by simp⟩
  case tidy => exact fun _ => by simp [Scheduler.new, Scheduler.queue, Table.contains]
  case globalBound => exact Nat.zero_le _
  all_goals simp [Scheduler.new, Scheduler.queue, MutationQueue.idle]

theorem PermitRun.coherent (run : PermitRun scheduler trace last) (created : Scheduler.create limits = .ok scheduler) :
    last.Coherent limits :=
  run.keeps (Permits.Coherent limits) (Scheduler.create_coherent created)
    fun _ _ taken coherent => (Permits.next_coherent coherent (Permits.follow_iff.mp taken)).1

theorem PermitRun.grants_ordered (run : PermitRun scheduler trace last)
    (created : Scheduler.create limits = .ok scheduler) (spaceId : SpaceId) :
    (grants spaceId trace).Pairwise (· > ·) ∧ ∀ call, call ∈ grants spaceId trace -> call < last.arrivals ∧
      ∀ other, last.waiters.get? other = some spaceId -> call < other := by
  induction run with
  | nil => exact ⟨.nil, by simp [grants]⟩
  | @step trace before after label earlier taken ih =>
    obtain ⟨ordered, older⟩ := ih
    rw [Permits.follow_iff] at taken
    have coherent := PermitRun.coherent earlier created
    have later := (Permits.next_coherent coherent taken).1
    have more := Permits.next_arrivals taken
    have kept (call : Nat) (inside : call ∈ grants spaceId trace) : call < after.arrivals ∧
        ∀ other, after.waiters.get? other = some spaceId -> call < other := by
      obtain ⟨known, behind⟩ := older call inside
      refine ⟨by omega, fun other waits => ?_⟩
      rcases Permits.next_waiter taken waits with waited | rfl
      · exact behind other waited
      · exact known
    cases granted : grantedTo spaceId ⟨before, label, after⟩ with
    | none =>
      have same : grants spaceId (⟨before, label, after⟩ :: trace) = grants spaceId trace := by
        rw [grants, List.filterMap_cons_none granted]
        rfl
      rw [same]
      exact ⟨ordered, kept⟩
    | some call =>
      have new : grants spaceId (⟨before, label, after⟩ :: trace) = call :: grants spaceId trace := by
        rw [grants, List.filterMap_cons_some granted]
        rfl
      obtain ⟨held, origin, first⟩ := Permits.next_granted coherent taken granted
      rw [new]
      refine ⟨List.pairwise_cons.mpr ⟨fun one inside => ?_, ordered⟩, fun one inside => ?_⟩
      · obtain ⟨known, behind⟩ := older one inside
        rcases origin with rfl | waited
        · exact known
        · exact behind call waited
      rcases List.mem_cons.mp inside with rfl | inside
      · refine ⟨later.numbered.holder one spaceId held, fun other waits => ?_⟩
        -- the call holds its permit, so it is not the one that waits
        have distinct : one ≠ other := by
          rintro rfl
          simp [later.numbered.apart one spaceId waits] at held
        have bound := later.numbered.holder one spaceId held
        rcases Permits.next_waiter taken waits with waited | rfl
        · have before_ := first other waited
          omega
        · rcases origin with same | waited
          · exact (distinct same).elim
          · exact coherent.numbered.waiter one spaceId waited
      · exact kept one inside

/-- In every order of calls, turns and drops: permits are exclusive in a space and granted in the order of arrival,
no queue grows past its bound, entries are those in use, and no internal check fails. -/
theorem permits_safe (created : Scheduler.create limits = .ok scheduler) (run : PermitRun scheduler trace last) :
    last.Safe limits ∧
      (∀ moment, moment ∈ trace -> moment.before.Safe limits ∧ moment.label.reply ≠ .panicked) ∧
      ∀ spaceId, (grants spaceId trace).Pairwise (· > ·) ∧
        ∀ moment, moment ∈ trace -> ∀ call, grantedTo spaceId moment = some call ->
          ∀ other, moment.before.waiters.get? other = some spaceId -> call ≤ other := by
  refine ⟨(PermitRun.coherent run created).safe, fun moment inside => ?_, fun spaceId =>
    ⟨(PermitRun.grants_ordered run created spaceId).1, fun moment inside call granted => ?_⟩⟩
  · obtain ⟨earlier, _, before, taken, _⟩ := run.at_moment inside
    have coherent := PermitRun.coherent before created
    exact ⟨coherent.safe, (Permits.next_coherent coherent (Permits.follow_iff.mp taken)).2⟩
  · obtain ⟨earlier, _, before, taken, _⟩ := run.at_moment inside
    have coherent := PermitRun.coherent before created
    exact (Permits.next_granted coherent (Permits.follow_iff.mp taken) granted).2.2

def crowdedSteps : List PermitStep :=
  [⟨.acquireMutation ⟨1⟩, .acquired .permit⟩, ⟨.acquireMutation ⟨1⟩, .acquired .waiting⟩,
    ⟨.acquireMutation ⟨1⟩, .acquired .waiting⟩, ⟨.acquireMutation ⟨2⟩, .acquired .permit⟩,
    ⟨.acquireRead, .acquired .permit⟩, ⟨.turnMutation 2 false false, .turned .waits⟩,
    ⟨.turnMutation 1 true false, .turned .cancelled⟩, ⟨.dropMutation 0, .dropped⟩,
    ⟨.turnMutation 2 false false, .turned .granted⟩, ⟨.dropRead 4, .dropped⟩]

def crowdedLimits : SchedulerLimits := { maxConcurrentReads := 1, maxQueuedMutations := 2 }

theorem permits_safe_crowded : ∃ trace last,
    PermitRun (.new crowdedLimits) trace last ∧ grants ⟨1⟩ trace = [2, 0] ∧ last.Safe crowdedLimits := by
  obtain ⟨last, run, _⟩ := advance_reaches Permits.follow { scheduler := .new crowdedLimits } crowdedSteps
    (fun last => last.readers == []) (by decide)
  have granted : grants ⟨1⟩
      (visits Permits.follow crowdedSteps { scheduler := .new crowdedLimits }).reverse = [2, 0] := by
    decide
  exact ⟨_, last, run, granted, (permits_safe rfl run).1⟩

end Runs

end AgentycHost
