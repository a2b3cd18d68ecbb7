import AgentycHost.Effects.Answers
import AgentycHost.Native.Outbound

set_option autoImplicit false

/-! # The sequence numbers on the wire of one connection -/

namespace AgentycHost

open Shared

variable {envelope : HostEnvelope} {checks : EnvelopeChecks} {host after : NativeOutbound} {label : OutboundLabel}
  {index other : Nat} {thread : OutboundThread} {trace : OutboundTrace}

section Observations

def HostEnvelope.greets (envelope : HostEnvelope) : Bool := decide (envelope.kind = .helloOk)

/-- The thread has an envelope with a number and has not written it. -/
def OutboundThread.carries (thread : OutboundThread) : Option HostEnvelope :=
  match thread.phase with
  | .numbered envelope | .ready envelope => some envelope
  | _ => none

/-- What a write step puts on the wire. -/
def NativeOutbound.writes (checks : EnvelopeChecks) (host : NativeOutbound) (label : OutboundLabel) :
    List HostEnvelope :=
  match label with
  | .write index outcome =>
      match (host.threads[index]?).bind OutboundThread.carries with
      | some envelope => (host.writeEnvelopeUnlocked checks envelope outcome).1
      | none => []
  | _ => []

/-- A write step that ends without its envelope on the wire. -/
def OutboundMoment.drops (checks : EnvelopeChecks) (moment : Moment NativeOutbound OutboundLabel) : Bool :=
  match moment.label with
  | .write _ _ => (moment.before.writes checks moment.label).isEmpty
  | _ => false

/-- Every post is written after the greeting, and no number was dropped before it. -/
def PostsInTurn (checks : EnvelopeChecks) (trace : OutboundTrace) : Prop :=
  ∀ later moment earlier, trace = later ++ moment :: earlier ->
    ∀ envelope, envelope ∈ moment.before.writes checks moment.label -> envelope.greets = false ->
      (∃ first, first ∈ moment.before.wire ∧ first.greets = true) ∧
        ∀ past, past ∈ earlier -> OutboundMoment.drops checks past = false

/-- The numbers on the wire are 1, 2, 3 and so on, the greeting has the first, and the extension takes all. -/
structure InSequence (wire : List HostEnvelope) : Prop where
  contiguous : wire.map HostEnvelope.sequence = List.range' 1 wire.length
  begins : ∀ first, wire.head? = some first -> first.greets = true
  accepted : SequenceValidator.acceptAll { next := 1 } (wire.map HostEnvelope.sequence) =
    .ok { next := wire.length + 1 }

end Observations

section Sequences

variable {wire : List HostEnvelope}

theorem SequenceValidator.acceptAll_range (first count : Nat) :
    SequenceValidator.acceptAll { next := first } (List.range' first count) = .ok { next := first + count } := by
  induction count generalizing first with
  | zero => rfl
  | succ count ih =>
    rw [List.range'_succ, acceptAll, accept, if_pos rfl]
    dsimp only
    rw [ih, Nat.add_assoc, Nat.add_comm 1 count]

theorem InSequence.of (contiguous : wire.map HostEnvelope.sequence = List.range' 1 wire.length)
    (begins : ∀ first, wire.head? = some first -> first.greets = true) : InSequence wire where
  contiguous := contiguous
  begins := begins
  accepted := by
    rw [contiguous, SequenceValidator.acceptAll_range, Nat.add_comm]

theorem InSequence.nil : InSequence [] := .of rfl fun _ head => by cases head

theorem InSequence.concat (inSequence : InSequence wire) (number : envelope.sequence = wire.length + 1)
    (begins : wire = [] -> envelope.greets = true) : InSequence (wire ++ [envelope]) := by
  apply InSequence.of
  · rw [List.map_append, inSequence.contiguous, List.length_append, List.length_singleton, List.range'_concat,
      List.map_singleton, number, Nat.one_mul, Nat.add_comm 1]
  · intro first head
    cases wire with
    | nil =>
      cases head
      exact begins rfl
    | cons other rest => exact inSequence.begins first head

theorem InSequence.of_concat (inSequence : InSequence (wire ++ [envelope])) :
    InSequence wire ∧ envelope.sequence = wire.length + 1 ∧ (wire = [] -> envelope.greets = true) := by
  have contiguous := inSequence.contiguous
  rw [List.map_append, List.length_append, List.length_singleton, List.range'_concat, List.map_singleton] at contiguous
  obtain ⟨early, last⟩ := List.append_inj' contiguous rfl
  refine ⟨.of early fun first head => inSequence.begins first ?_, ?_, ?_⟩
  · rw [List.head?_append, head]
    rfl
  · have number := List.singleton_inj.mp last
    omega
  · rintro rfl
    exact inSequence.begins envelope rfl

theorem InSequence.greeted (inSequence : InSequence wire) (some_ : wire ≠ []) :
    ∃ first, first ∈ wire ∧ first.greets = true := by
  cases wire with
  | nil => exact absurd rfl some_
  | cons first rest => exact ⟨first, List.mem_cons_self, inSequence.begins first rfl⟩

end Sequences

section Moves

inductive NativeOutbound.Moves (checks : EnvelopeChecks) (host : NativeOutbound) :
    OutboundLabel -> NativeOutbound -> Prop where
  | asked (task : OutboundTask) :
      Moves checks host (.ask task) { host with threads := host.threads ++ [{ task, phase := .asked }] }
  | greeted {index : Nat} {thread : OutboundThread} {offer : HandshakeOffer} {session : OutboundSession}
      {envelope : HostEnvelope} (found : host.threads[index]? = some thread) (task : thread.task = .handshake offer)
      (phase : thread.phase = .asked) (first : host.session.handshakeComplete = false)
      (complete : session.handshakeComplete = true) (greets : envelope.greets = true)
      (number : envelope.sequence = host.session.nextOutboundSequence)
      (advanced : session.nextOutboundSequence = host.session.nextOutboundSequence + 1) :
      Moves checks host (.accept index) ({ host with session }.reach index thread (.numbered envelope))
  | declined {index : Nat} {thread : OutboundThread} {session : OutboundSession} {error : NativeHostError}
      (found : host.threads[index]? = some thread) (phase : thread.phase = .asked)
      (complete : session.handshakeComplete = host.session.handshakeComplete)
      (number : session.nextOutboundSequence = host.session.nextOutboundSequence) :
      Moves checks host (.accept index) ({ host with session }.reach index thread (.ended (.error error)))
  | locked {index : Nat} {thread : OutboundThread} {kind : PostKind} {fields : List (String × Json)}
      (found : host.threads[index]? = some thread) (task : thread.task = .post kind fields)
      (phase : thread.phase = .asked) (free : host.holder = none) :
      Moves checks host (.lock index) ({ host with holder := some index }.reach index thread .locked)
  | greetingLocked {index : Nat} {thread : OutboundThread} {offer : HandshakeOffer} {envelope : HostEnvelope}
      (found : host.threads[index]? = some thread) (task : thread.task = .handshake offer)
      (phase : thread.phase = .numbered envelope) (free : host.holder = none) :
      Moves checks host (.lock index) ({ host with holder := some index }.reach index thread (.ready envelope))
  | numbered {index : Nat} {thread : OutboundThread} {kind : PostKind} {fields : List (String × Json)}
      {session : OutboundSession} {envelope : HostEnvelope} (found : host.threads[index]? = some thread)
      (task : thread.task = .post kind fields) (phase : thread.phase = .locked)
      (complete : host.session.handshakeComplete = true) (still : session.handshakeComplete = true)
      (posts : envelope.greets = false) (number : envelope.sequence = host.session.nextOutboundSequence)
      (advanced : session.nextOutboundSequence = host.session.nextOutboundSequence + 1) :
      Moves checks host (.number index) ({ host with session }.reach index thread (.ready envelope))
  | refused {index : Nat} {thread : OutboundThread} {error : NativeHostError}
      (found : host.threads[index]? = some thread) (phase : thread.phase = .locked) :
      Moves checks host (.number index) ({ host with holder := none }.reach index thread (.ended (.error error)))
  | wrote {index : Nat} {thread : OutboundThread} {envelope : HostEnvelope} {outcome : WriterOutcome}
      (found : host.threads[index]? = some thread) (phase : thread.phase = .ready envelope) :
      Moves checks host (.write index outcome)
        ({ host with
          holder := none
          wire := host.wire ++ (host.writeEnvelopeUnlocked checks envelope outcome).1 }.reach index thread
            (.ended (host.writeEnvelopeUnlocked checks envelope outcome).2))

theorem OutboundSession.acceptHandshake_cases (session : OutboundSession) (offer : HandshakeOffer) :
    (∃ later error, session.acceptHandshake offer = (later, .error error) ∧
      later.handshakeComplete = session.handshakeComplete ∧
      later.nextOutboundSequence = session.nextOutboundSequence) ∨
    ∃ later envelope, session.acceptHandshake offer = (later, .ok envelope) ∧
      session.handshakeComplete = false ∧ later.handshakeComplete = true ∧ envelope.greets = true ∧
      envelope.sequence = session.nextOutboundSequence ∧
      later.nextOutboundSequence = session.nextOutboundSequence + 1 := by
  unfold acceptHandshake
  split
  next => exact .inl ⟨_, _, rfl, rfl, rfl⟩
  next =>
    split
    next => exact .inl ⟨_, _, rfl, rfl, rfl⟩
    next =>
      split
      next => exact .inl ⟨_, _, rfl, rfl, rfl⟩
      next open_ =>
        split
        next => exact .inl ⟨_, _, rfl, rfl, rfl⟩
        next =>
          dsimp only
          split
          next => exact .inr ⟨_, _, rfl, Bool.eq_false_iff.mpr open_, rfl, rfl, rfl, rfl⟩
          next => exact .inl ⟨_, _, rfl, rfl, rfl⟩

theorem OutboundSession.numberPost_cases (session : OutboundSession) (kind : PostKind) (fields : List (String × Json)) :
    (∃ error, session.numberPost kind fields = (session, .error error)) ∨
    ∃ later envelope, session.numberPost kind fields = (later, .ok envelope) ∧
      session.handshakeComplete = true ∧ later.handshakeComplete = true ∧ envelope.greets = false ∧
      envelope.sequence = session.nextOutboundSequence ∧
      later.nextOutboundSequence = session.nextOutboundSequence + 1 := by
  unfold numberPost
  split
  next => exact .inl ⟨_, rfl⟩
  next complete =>
    have done : session.handshakeComplete = true := by simpa using complete
    split
    next => exact .inl ⟨_, rfl⟩
    next => exact .inl ⟨_, rfl⟩
    next =>
      split
      next => exact .inr ⟨_, _, rfl, done, done, rfl, rfl, rfl⟩
      next => exact .inl ⟨_, rfl⟩

theorem NativeOutbound.next_moves (moved : host.next checks label = some after) : Moves checks host label after := by
  unfold next at moved
  split at moved
  next =>
    cases moved
    exact .asked _
  next index =>
    obtain ⟨thread, found, stepped⟩ := Option.bind_eq_some_iff.mp moved
    unfold acceptStep at stepped
    split at stepped
    next offer task phase =>
      rcases host.session.acceptHandshake_cases offer with ⟨later, error, same, complete, number⟩ |
        ⟨later, envelope, same, first, complete, greets, number, advanced⟩
      · rw [same] at stepped
        cases stepped
        exact .declined found phase complete number
      · rw [same] at stepped
        cases stepped
        exact .greeted found task phase first complete greets number advanced
    next => cases stepped
  next index =>
    obtain ⟨thread, found, stepped⟩ := Option.bind_eq_some_iff.mp moved
    unfold lockStep at stepped
    split at stepped
    next => cases stepped
    next taken =>
      have free := Option.not_isSome_iff_eq_none.mp taken
      split at stepped
      next task phase =>
        cases stepped
        exact .locked found task phase free
      next task phase =>
        cases stepped
        exact .greetingLocked found task phase free
      next => cases stepped
  next index =>
    obtain ⟨thread, found, stepped⟩ := Option.bind_eq_some_iff.mp moved
    unfold numberStep at stepped
    split at stepped
    next kind fields task phase =>
      rcases host.session.numberPost_cases kind fields with ⟨error, same⟩ |
        ⟨later, envelope, same, complete, still, posts, number, advanced⟩
      · rw [same] at stepped
        cases stepped
        exact .refused found phase
      · rw [same] at stepped
        cases stepped
        exact .numbered found task phase complete still posts number advanced
    next => cases stepped
  next index outcome =>
    obtain ⟨thread, found, stepped⟩ := Option.bind_eq_some_iff.mp moved
    unfold writeStep at stepped
    split at stepped
    next phase =>
      cases stepped
      exact .wrote found phase
    next => cases stepped

end Moves

section Counting

variable {later : OutboundThread} {phase : OutboundPhase} {session : OutboundSession} {outcome : WriterOutcome}

def OutboundThread.carrying (thread : OutboundThread) : Bool := thread.carries.isSome

def OutboundThread.greeting (thread : OutboundThread) : Bool := thread.carries.any HostEnvelope.greets

theorem NativeOutbound.reach_cases (held : (host.reach index thread phase).threads[other]? = some later) :
    other = index ∧ later = { thread with phase } ∨ other ≠ index ∧ host.threads[other]? = some later := by
  unfold reach at held
  dsimp only at held
  by_cases same : index = other
  · subst same
    have bound := (List.getElem?_eq_some_iff.mp held).1
    rw [List.length_set] at bound
    rw [List.getElem?_set_self bound] at held
    exact .inl ⟨rfl, (Option.some.inj held).symm⟩
  · rw [List.getElem?_set_ne same] at held
    exact .inr ⟨fun named => same named.symm, held⟩

theorem NativeOutbound.reach_count (found : host.threads[index]? = some thread) (phase : OutboundPhase)
    (test : OutboundThread -> Bool) :
    (host.reach index thread phase).threads.countP test + (test thread).toNat =
      host.threads.countP test + (test { thread with phase }).toNat := by
  obtain ⟨bound, same⟩ := List.getElem?_eq_some_iff.mp found
  unfold reach
  dsimp only
  rw [List.countP_set bound, same]
  have counted : (test thread).toNat ≤ host.threads.countP test := by
    cases passes : test thread with
    | false => exact Nat.zero_le _
    | true => exact List.countP_pos_iff.mpr ⟨thread, List.mem_of_getElem? found, passes⟩
  cases passes : test thread
  all_goals
    rw [passes] at counted
    cases test { thread with phase }
    all_goals
      simp only [Bool.toNat_true, Bool.toNat_false, if_true, Bool.false_eq_true, if_false] at counted ⊢
      omega

structure NumberedWire (checks : EnvelopeChecks) (trace : OutboundTrace) (host : NativeOutbound) : Prop where
  counted : host.wire.length + trace.countP (OutboundMoment.drops checks) +
    host.threads.countP OutboundThread.carrying + 1 = host.session.nextOutboundSequence
  holds : ∀ (index : Nat) (thread : OutboundThread), host.threads[index]? = some thread ->
    thread.phase = .locked ∨ (∃ envelope, thread.phase = .ready envelope) -> host.holder = some index
  posts : ∀ (index : Nat) (thread : OutboundThread) (kind : PostKind) (fields : List (String × Json))
    (envelope : HostEnvelope), host.threads[index]? = some thread -> thread.task = .post kind fields ->
    thread.carries = some envelope -> thread.phase = .ready envelope ∧ envelope.greets = false ∧
      envelope.sequence + 1 = host.session.nextOutboundSequence ∧ host.session.handshakeComplete = true
  greetings : ∀ (index : Nat) (thread : OutboundThread) (offer : HandshakeOffer) (envelope : HostEnvelope),
    host.threads[index]? = some thread -> thread.task = .handshake offer -> thread.carries = some envelope ->
    envelope.greets = true ∧ envelope.sequence = 1
  fresh : host.session.handshakeComplete = false -> host.session.nextOutboundSequence = 1
  once : host.wire.countP HostEnvelope.greets + host.threads.countP OutboundThread.greeting ≤
    host.session.handshakeComplete.toNat

theorem drops_cons_quiet {moment : Moment NativeOutbound OutboundLabel}
    (quiet : OutboundMoment.drops checks moment = false) :
    (moment :: trace).countP (OutboundMoment.drops checks) = trace.countP (OutboundMoment.drops checks) :=
  List.countP_cons_of_neg (by rw [quiet]; exact Bool.false_ne_true)

theorem NumberedWire.quiet {holder : Option Nat}
    (numbered : NumberedWire checks trace host) (found : host.threads[index]? = some thread)
    (same : ({ thread with phase } : OutboundThread).carries = thread.carries)
    (handshake : ∀ kind fields, thread.task = .post kind fields -> thread.carries = none)
    (complete : session.handshakeComplete = host.session.handshakeComplete)
    (number : session.nextOutboundSequence = host.session.nextOutboundSequence)
    (undropped : OutboundMoment.drops checks
      ⟨host, label, ({ host with session, holder } : NativeOutbound).reach index thread phase⟩ = false)
    (holds : ∀ (other : Nat) (held : OutboundThread),
      ((host.reach index thread phase).threads[other]? = some held) ->
      held.phase = .locked ∨ (∃ envelope, held.phase = .ready envelope) -> holder = some other) :
    NumberedWire checks (⟨host, label, ({ host with session, holder } : NativeOutbound).reach index thread phase⟩ :: trace)
      (({ host with session, holder } : NativeOutbound).reach index thread phase) := by
  have carrying := host.reach_count found phase OutboundThread.carrying
  have greeting := host.reach_count found phase OutboundThread.greeting
  unfold OutboundThread.carrying at carrying
  unfold OutboundThread.greeting at greeting
  rw [same] at carrying greeting
  constructor
  case counted =>
    rw [drops_cons_quiet undropped]
    show host.wire.length + _ + (host.reach index thread phase).threads.countP _ + 1 = session.nextOutboundSequence
    have counted := numbered.counted
    unfold OutboundThread.carrying at counted ⊢
    omega
  case holds => exact holds
  case posts =>
    intro other held kind fields envelope present task carries
    show held.phase = _ ∧ _ ∧ _ = session.nextOutboundSequence ∧ session.handshakeComplete = true
    rw [number, complete]
    rcases NativeOutbound.reach_cases (present : (host.reach index thread phase).threads[other]? = some held) with
      ⟨_, rfl⟩ | ⟨_, old⟩
    · rw [same, handshake kind fields task] at carries
      cases carries
    · exact numbered.posts other held kind fields envelope old task carries
  case greetings =>
    intro other held offer envelope present task carries
    rcases NativeOutbound.reach_cases (present : (host.reach index thread phase).threads[other]? = some held) with
      ⟨_, rfl⟩ | ⟨_, old⟩
    · exact numbered.greetings index thread offer envelope found task (same ▸ carries)
    · exact numbered.greetings other held offer envelope old task carries
  case fresh =>
    show session.handshakeComplete = false -> session.nextOutboundSequence = 1
    rw [number, complete]
    exact numbered.fresh
  case once =>
    show host.wire.countP _ + (host.reach index thread phase).threads.countP _ ≤ session.handshakeComplete.toNat
    rw [complete]
    have once := numbered.once
    unfold OutboundThread.greeting at once ⊢
    omega

theorem NumberedWire.keeps_holder (numbered : NumberedWire checks trace host)
    (loose : ¬ (phase = .locked ∨ ∃ envelope, phase = .ready envelope)) (held : OutboundThread)
    (present : (host.reach index thread phase).threads[other]? = some held)
    (holds : held.phase = .locked ∨ ∃ envelope, held.phase = .ready envelope) : host.holder = some other := by
  rcases NativeOutbound.reach_cases present with ⟨_, rfl⟩ | ⟨_, old⟩
  · exact absurd holds loose
  · exact numbered.holds other held old holds

theorem NumberedWire.sole_holder (numbered : NumberedWire checks trace host) (found : host.threads[index]? = some thread)
    (holding : thread.phase = .locked ∨ ∃ envelope, thread.phase = .ready envelope) {held : OutboundThread}
    (present : host.threads[other]? = some held)
    (holds : held.phase = .locked ∨ ∃ envelope, held.phase = .ready envelope) : other = index := by
  have first := numbered.holds index thread found holding
  have second := numbered.holds other held present holds
  rw [first] at second
  exact (Option.some.inj second).symm

theorem NumberedWire.greeted {offer : HandshakeOffer} (numbered : NumberedWire checks trace host)
    (found : host.threads[index]? = some thread) (task : thread.task = .handshake offer)
    (phase : thread.phase = .asked) (first : host.session.handshakeComplete = false)
    (complete : session.handshakeComplete = true) (greets : envelope.greets = true)
    (number : envelope.sequence = host.session.nextOutboundSequence)
    (advanced : session.nextOutboundSequence = host.session.nextOutboundSequence + 1) :
    NumberedWire checks (⟨host, .accept index, { host with session }.reach index thread (.numbered envelope)⟩ :: trace)
      ({ host with session }.reach index thread (.numbered envelope)) := by
  have carrying := host.reach_count found (.numbered envelope) OutboundThread.carrying
  have greeting := host.reach_count found (.numbered envelope) OutboundThread.greeting
  have before : thread.carries = none := by
    unfold OutboundThread.carries
    rw [phase]
  have carried : thread.carrying = false := by rw [OutboundThread.carrying, before]; rfl
  have silent : thread.greeting = false := by rw [OutboundThread.greeting, before]; rfl
  have greetsNow : ({ thread with phase := .numbered envelope } : OutboundThread).greeting = true := greets
  rw [carried, show ({ thread with phase := .numbered envelope } : OutboundThread).carrying = true from rfl] at carrying
  rw [silent, greetsNow] at greeting
  simp only [Bool.toNat_true, Bool.toNat_false] at carrying greeting
  constructor
  case counted =>
    rw [drops_cons_quiet rfl]
    show host.wire.length + _ + (host.reach index thread (.numbered envelope)).threads.countP _ + 1 =
      session.nextOutboundSequence
    have counted := numbered.counted
    omega
  case holds =>
    intro other held present holds
    refine numbered.keeps_holder ?_ held present holds
    rintro (locked | ⟨_, ready⟩)
    · cases locked
    · cases ready
  case posts =>
    intro other held kind fields sealed present posts carries
    rcases NativeOutbound.reach_cases (present : (host.reach index thread (.numbered envelope)).threads[other]? =
      some held) with ⟨_, rfl⟩ | ⟨_, old⟩
    · rw [show thread.task = .post kind fields from posts] at task
      cases task
    · have started := (numbered.posts other held kind fields sealed old posts carries).2.2.2
      rw [first] at started
      cases started
  case greetings =>
    intro other held another sealed present greeting carries
    rcases NativeOutbound.reach_cases (present : (host.reach index thread (.numbered envelope)).threads[other]? =
      some held) with ⟨_, rfl⟩ | ⟨_, old⟩
    · cases carries
      exact ⟨greets, number.trans (numbered.fresh first)⟩
    · exact numbered.greetings other held another sealed old greeting carries
  case fresh =>
    intro unfinished
    rw [show session.handshakeComplete = false from unfinished] at complete
    cases complete
  case once =>
    show host.wire.countP _ + (host.reach index thread (.numbered envelope)).threads.countP _ ≤
      session.handshakeComplete.toNat
    have once := numbered.once
    rw [first, Bool.toNat_false] at once
    rw [complete, Bool.toNat_true]
    omega

theorem NumberedWire.numbered {kind : PostKind} {fields : List (String × Json)}
    (numbered : NumberedWire checks trace host) (found : host.threads[index]? = some thread)
    (task : thread.task = .post kind fields) (phase : thread.phase = .locked)
    (complete : host.session.handshakeComplete = true) (still : session.handshakeComplete = true)
    (posts : envelope.greets = false) (number : envelope.sequence = host.session.nextOutboundSequence)
    (advanced : session.nextOutboundSequence = host.session.nextOutboundSequence + 1) :
    NumberedWire checks (⟨host, .number index, { host with session }.reach index thread (.ready envelope)⟩ :: trace)
      ({ host with session }.reach index thread (.ready envelope)) := by
  have carrying := host.reach_count found (.ready envelope) OutboundThread.carrying
  have greeting := host.reach_count found (.ready envelope) OutboundThread.greeting
  have before : thread.carries = none := by
    unfold OutboundThread.carries
    rw [phase]
  have carried : thread.carrying = false := by rw [OutboundThread.carrying, before]; rfl
  have silent : thread.greeting = false := by rw [OutboundThread.greeting, before]; rfl
  have silentNow : ({ thread with phase := .ready envelope } : OutboundThread).greeting = false := posts
  rw [carried, show ({ thread with phase := .ready envelope } : OutboundThread).carrying = true from rfl] at carrying
  rw [silent, silentNow] at greeting
  simp only [Bool.toNat_true, Bool.toNat_false] at carrying greeting
  constructor
  case counted =>
    rw [drops_cons_quiet rfl]
    show host.wire.length + _ + (host.reach index thread (.ready envelope)).threads.countP _ + 1 =
      session.nextOutboundSequence
    have counted := numbered.counted
    omega
  case holds =>
    intro other held present holds
    rcases NativeOutbound.reach_cases (present : (host.reach index thread (.ready envelope)).threads[other]? =
      some held) with ⟨rfl, rfl⟩ | ⟨_, old⟩
    · exact numbered.holds other thread found (.inl phase)
    · exact numbered.holds other held old holds
  case posts =>
    intro other held another values sealed present posted carries
    rcases NativeOutbound.reach_cases (present : (host.reach index thread (.ready envelope)).threads[other]? =
      some held) with ⟨_, rfl⟩ | ⟨differs, old⟩
    · cases carries
      exact ⟨rfl, posts, by rw [number]; exact advanced.symm, still⟩
    · have ready := (numbered.posts other held another values sealed old posted carries).1
      exact absurd (numbered.sole_holder found (.inl phase) old (.inr ⟨_, ready⟩)) differs
  case greetings =>
    intro other held offer sealed present greeting carries
    rcases NativeOutbound.reach_cases (present : (host.reach index thread (.ready envelope)).threads[other]? =
      some held) with ⟨_, rfl⟩ | ⟨_, old⟩
    · rw [show thread.task = .handshake offer from greeting] at task
      cases task
    · exact numbered.greetings other held offer sealed old greeting carries
  case fresh =>
    intro unfinished
    rw [show session.handshakeComplete = false from unfinished] at still
    cases still
  case once =>
    show host.wire.countP _ + (host.reach index thread (.ready envelope)).threads.countP _ ≤
      session.handshakeComplete.toNat
    have once := numbered.once
    rw [complete] at once
    rw [still]
    omega

theorem NativeOutbound.written_cases (checks : EnvelopeChecks) (host : NativeOutbound) (envelope : HostEnvelope)
    (outcome : WriterOutcome) :
    (host.writeEnvelopeUnlocked checks envelope outcome).1 = [] ∨
      (host.writeEnvelopeUnlocked checks envelope outcome).1 = [envelope] := by
  unfold writeEnvelopeUnlocked
  split
  next => exact .inl rfl
  next =>
    cases outcome with
    | written => exact .inr rfl
    | unflushed => exact .inr rfl
    | torn => exact .inl rfl

theorem NativeOutbound.writes_ready (found : host.threads[index]? = some thread)
    (phase : thread.phase = .ready envelope) :
    host.writes checks (.write index outcome) = (host.writeEnvelopeUnlocked checks envelope outcome).1 := by
  unfold writes
  dsimp only
  rw [found, Option.bind_some, OutboundThread.carries, phase]

theorem NumberedWire.wrote {added : List HostEnvelope} {result : Except NativeHostError Unit}
    (numbered : NumberedWire checks trace host) (found : host.threads[index]? = some thread)
    (phase : thread.phase = .ready envelope) (writes : host.writes checks (.write index outcome) = added)
    (one : added = [] ∨ added = [envelope]) :
    NumberedWire checks (⟨host, .write index outcome,
        { host with holder := none, wire := host.wire ++ added }.reach index thread (.ended result)⟩ :: trace)
      ({ host with holder := none, wire := host.wire ++ added }.reach index thread (.ended result)) := by
  have carrying := host.reach_count found (.ended result) OutboundThread.carrying
  have greeting := host.reach_count found (.ended result) OutboundThread.greeting
  have before : thread.carries = some envelope := by
    unfold OutboundThread.carries
    rw [phase]
  have carried : thread.carrying = true := by rw [OutboundThread.carrying, before]; rfl
  have greets : thread.greeting = envelope.greets := by rw [OutboundThread.greeting, before]; rfl
  rw [carried, show ({ thread with phase := .ended result } : OutboundThread).carrying = false from rfl] at carrying
  rw [greets, show ({ thread with phase := .ended result } : OutboundThread).greeting = false from rfl] at greeting
  simp only [Bool.toNat_true, Bool.toNat_false] at carrying greeting
  -- the lock is this thread's, so no other thread is in one of its phases
  have others (other : Nat) (held : OutboundThread) (present : host.threads[other]? = some held) (differs : other ≠ index)
      (holds : held.phase = .locked ∨ ∃ envelope, held.phase = .ready envelope) : False :=
    differs (numbered.sole_holder found (.inr ⟨_, phase⟩) present holds)
  constructor
  case counted =>
    show (host.wire ++ added).length + _ + (host.reach index thread (.ended result)).threads.countP _ + 1 =
      host.session.nextOutboundSequence
    have counted := numbered.counted
    rw [List.length_append, List.countP_cons]
    unfold OutboundMoment.drops at counted ⊢
    dsimp only
    rw [writes]
    rcases one with rfl | rfl
    · simp only [List.length_nil, List.isEmpty_nil, if_true]
      omega
    · simp only [List.length_singleton, List.isEmpty_cons, Bool.false_eq_true, if_false]
      omega
  case holds =>
    intro other held present holds
    rcases NativeOutbound.reach_cases (present : (host.reach index thread (.ended result)).threads[other]? =
      some held) with ⟨_, rfl⟩ | ⟨differs, old⟩
    · rcases holds with locked | ⟨_, ready⟩
      · cases locked
      · cases ready
    · exact absurd holds (others other held old differs)
  case posts =>
    intro other held kind fields sealed present posts carries
    rcases NativeOutbound.reach_cases (present : (host.reach index thread (.ended result)).threads[other]? =
      some held) with ⟨_, rfl⟩ | ⟨differs, old⟩
    · cases carries
    · have ready := (numbered.posts other held kind fields sealed old posts carries).1
      exact (others other held old differs (.inr ⟨_, ready⟩)).elim
  case greetings =>
    intro other held offer sealed present greeting carries
    rcases NativeOutbound.reach_cases (present : (host.reach index thread (.ended result)).threads[other]? =
      some held) with ⟨_, rfl⟩ | ⟨_, old⟩
    · cases carries
    · exact numbered.greetings other held offer sealed old greeting carries
  case fresh => exact numbered.fresh
  case once =>
    show (host.wire ++ added).countP _ + (host.reach index thread (.ended result)).threads.countP _ ≤
      host.session.handshakeComplete.toNat
    have once := numbered.once
    rw [List.countP_append]
    rcases one with rfl | rfl
    · rw [List.countP_nil]
      omega
    · rw [List.countP_singleton]
      cases greets : envelope.greets
      all_goals
        rw [greets] at greeting
        simp only [Bool.toNat_true, Bool.toNat_false, if_true, Bool.false_eq_true, if_false] at greeting ⊢
        omega

theorem NumberedWire.asked (numbered : NumberedWire checks trace host) (task : OutboundTask) :
    NumberedWire checks (⟨host, .ask task, { host with threads := host.threads ++ [{ task, phase := .asked }] }⟩ :: trace)
      { host with threads := host.threads ++ [{ task, phase := .asked }] } := by
  have old (other : Nat) (held : OutboundThread)
      (present : (host.threads ++ [{ task, phase := .asked }])[other]? = some held) :
      held.phase = .asked ∨ host.threads[other]? = some held := by
    by_cases early : other < host.threads.length
    · rw [List.getElem?_append_left early] at present
      exact .inr present
    · rw [List.getElem?_append_right (by omega)] at present
      left
      have inside := List.mem_of_getElem? present
      rw [List.mem_singleton] at inside
      rw [inside]
  have carries (held : OutboundThread) (phase : held.phase = .asked) : held.carries = none := by
    unfold OutboundThread.carries
    rw [phase]
  constructor
  case counted =>
    rw [drops_cons_quiet rfl]
    show host.wire.length + _ + (host.threads ++ [({ task, phase := .asked } : OutboundThread)]).countP _ + 1 = _
    rw [List.countP_append, List.countP_singleton, if_neg (fun carrying => by cases carrying)]
    exact numbered.counted
  case holds =>
    intro other held present holds
    rcases old other held present with phase | present
    · rcases holds with locked | ⟨_, ready⟩
      · rw [phase] at locked
        cases locked
      · rw [phase] at ready
        cases ready
    · exact numbered.holds other held present holds
  case posts =>
    intro other held kind fields sealed present posts carried
    rcases old other held present with phase | present
    · rw [carries held phase] at carried
      cases carried
    · exact numbered.posts other held kind fields sealed present posts carried
  case greetings =>
    intro other held offer sealed present greeting carried
    rcases old other held present with phase | present
    · rw [carries held phase] at carried
      cases carried
    · exact numbered.greetings other held offer sealed present greeting carried
  case fresh => exact numbered.fresh
  case once =>
    show _ + (host.threads ++ [({ task, phase := .asked } : OutboundThread)]).countP _ ≤ _
    rw [List.countP_append, List.countP_singleton, if_neg (fun greeting => by cases greeting)]
    exact numbered.once

theorem NumberedWire.step (numbered : NumberedWire checks trace host) (moves : host.Moves checks label after) :
    NumberedWire checks (⟨host, label, after⟩ :: trace) after := by
  have idle {held : OutboundThread} (phase : held.phase = .asked ∨ held.phase = .locked) : held.carries = none := by
    unfold OutboundThread.carries
    rcases phase with phase | phase
    all_goals rw [phase]
  cases moves with
  | asked task => exact numbered.asked task
  | greeted found task phase first complete greets number advanced =>
    exact numbered.greeted found task phase first complete greets number advanced
  | declined found phase complete number =>
    refine numbered.quiet found (idle (.inl phase)).symm (fun _ _ _ => idle (.inl phase)) complete number rfl ?_
    intro other held present holds
    refine numbered.keeps_holder ?_ held present holds
    rintro (locked | ⟨_, ready⟩)
    · cases locked
    · cases ready
  | @locked index thread _ _ found _ phase free =>
    refine numbered.quiet found (idle (.inl phase)).symm (fun _ _ _ => idle (.inl phase)) rfl rfl rfl ?_
    intro other held present holds
    rcases NativeOutbound.reach_cases present with ⟨rfl, _⟩ | ⟨_, old⟩
    · rfl
    · have taken := numbered.holds other held old holds
      rw [free] at taken
      cases taken
  | @greetingLocked index thread _ _ found task phase free =>
    refine numbered.quiet found ?_ (fun kind fields posts => ?_) rfl rfl rfl ?_
    · unfold OutboundThread.carries
      rw [phase]
    · rw [task] at posts
      cases posts
    · intro other held present holds
      rcases NativeOutbound.reach_cases present with ⟨rfl, _⟩ | ⟨_, old⟩
      · rfl
      · have taken := numbered.holds other held old holds
        rw [free] at taken
        cases taken
  | numbered found task phase complete still posts number advanced =>
    exact NumberedWire.numbered numbered found task phase complete still posts number advanced
  | refused found phase =>
    refine numbered.quiet found (idle (.inr phase)).symm (fun _ _ _ => idle (.inr phase)) rfl rfl rfl ?_
    intro other held present holds
    rcases NativeOutbound.reach_cases present with ⟨_, rfl⟩ | ⟨differs, old⟩
    · rcases holds with locked | ⟨_, ready⟩
      · cases locked
      · cases ready
    · exact absurd (numbered.sole_holder found (.inl phase) old holds) differs
  | wrote found phase =>
    exact numbered.wrote found phase (NativeOutbound.writes_ready found phase) (host.written_cases checks _ _)

end Counting

section Results

variable {last : NativeOutbound} {hello : NativeHello}

theorem NumberedWire.accepted : NumberedWire checks [] (.accepted hello) where
  counted := rfl
  holds := fun _ _ found => by cases found
  posts := fun _ _ _ _ _ found => by cases found
  greetings := fun _ _ _ _ found => by cases found
  fresh := fun _ => rfl
  once := Nat.le_refl 0

theorem outbound_numbered (run : OutboundRun checks (.accepted hello) trace last) : NumberedWire checks trace last := by
  induction run with
  | nil => exact .accepted
  | step _ stepped ih => exact ih.step (NativeOutbound.next_moves stepped)

theorem postsInTurn_nil : PostsInTurn checks [] := by
  intro later moment earlier split
  cases later
  all_goals cases split

theorem postsInTurn_cons {moment : Moment NativeOutbound OutboundLabel} :
    PostsInTurn checks (moment :: trace) <->
      (∀ envelope, envelope ∈ moment.before.writes checks moment.label -> envelope.greets = false ->
        (∃ first, first ∈ moment.before.wire ∧ first.greets = true) ∧
          ∀ past, past ∈ trace -> OutboundMoment.drops checks past = false) ∧ PostsInTurn checks trace := by
  constructor
  · intro inTurn
    exact ⟨inTurn [] moment trace rfl, fun later other earlier split =>
      inTurn (moment :: later) other earlier (by rw [split]; rfl)⟩
  · rintro ⟨now, early⟩ later other earlier split
    cases later with
    | nil =>
      cases split
      exact now
    | cons first later =>
      cases split
      exact early later other earlier rfl

theorem NativeOutbound.countP_unique {test : OutboundThread -> Bool} (found : host.threads[index]? = some thread)
    (passes : test thread = true) (idle : test { thread with phase := .asked } = false)
    (unique : ∀ (other : Nat) (held : OutboundThread), host.threads[other]? = some held -> test held = true ->
      other = index) : host.threads.countP test = 1 := by
  have counted := host.reach_count found .asked test
  have none_left : (host.reach index thread .asked).threads.countP test = 0 := by
    rw [List.countP_eq_zero]
    intro held inside passed
    obtain ⟨other, present⟩ := List.mem_iff_getElem?.mp inside
    rcases reach_cases present with ⟨_, rfl⟩ | ⟨differs, old⟩
    · rw [idle] at passed
      cases passed
    · exact differs (unique other held old passed)
  rw [none_left, passes, idle, Bool.toNat_true, Bool.toNat_false] at counted
  omega

theorem countP_greets {wire : List HostEnvelope} (greeted : ∃ first, first ∈ wire ∧ first.greets = true) :
    0 < wire.countP HostEnvelope.greets := List.countP_pos_iff.mpr greeted

theorem NumberedWire.writes_greeting (numbered : NumberedWire checks trace host)
    (found : host.threads[index]? = some thread) (phase : thread.phase = .ready envelope)
    (greets : envelope.greets = true) (inSequence : InSequence host.wire) : InSequence (host.wire ++ [envelope]) := by
  have carries : thread.carries = some envelope := by
    unfold OutboundThread.carries
    rw [phase]
  have pending : 0 < host.threads.countP OutboundThread.greeting := by
    refine List.countP_pos_iff.mpr ⟨thread, List.mem_of_getElem? found, ?_⟩
    rw [OutboundThread.greeting, carries]
    exact greets
  have once := numbered.once
  have atMost := Bool.toNat_le host.session.handshakeComplete
  have empty : host.wire = [] := by
    by_cases some_ : host.wire = []
    · exact some_
    · have counted := countP_greets (inSequence.greeted some_)
      omega
  have number : envelope.sequence = 1 := by
    cases task : thread.task with
    | handshake offer => exact (numbered.greetings index thread offer envelope found task carries).2
    | post kind fields =>
      rw [(numbered.posts index thread kind fields envelope found task carries).2.1] at greets
      cases greets
  rw [empty] at inSequence ⊢
  exact inSequence.concat number fun _ => greets

theorem NumberedWire.post_ready (numbered : NumberedWire checks trace host)
    (found : host.threads[index]? = some thread) (phase : thread.phase = .ready envelope)
    (posts : envelope.greets = false) : envelope.sequence + 1 = host.session.nextOutboundSequence := by
  have carries : thread.carries = some envelope := by
    unfold OutboundThread.carries
    rw [phase]
  cases task : thread.task with
  | handshake offer =>
    rw [(numbered.greetings index thread offer envelope found task carries).1] at posts
    cases posts
  | post kind fields => exact (numbered.posts index thread kind fields envelope found task carries).2.2.1

theorem NumberedWire.sole_carrier (numbered : NumberedWire checks trace host)
    (found : host.threads[index]? = some thread) (phase : thread.phase = .ready envelope)
    (greeted : ∃ first, first ∈ host.wire ∧ first.greets = true) :
    host.threads.countP OutboundThread.carrying = 1 := by
  have carries : thread.carries = some envelope := by
    unfold OutboundThread.carries
    rw [phase]
  refine NativeOutbound.countP_unique found ?_ rfl fun other held present carrying => ?_
  · rw [OutboundThread.carrying, carries]
    rfl
  · unfold OutboundThread.carrying at carrying
    obtain ⟨sealed, carried⟩ := Option.isSome_iff_exists.mp carrying
    cases task : held.task with
    | handshake offer =>
      have greets := (numbered.greetings other held offer sealed present task carried).1
      have pending : 0 < host.threads.countP OutboundThread.greeting := by
        refine List.countP_pos_iff.mpr ⟨held, List.mem_of_getElem? present, ?_⟩
        rw [OutboundThread.greeting, carried]
        exact greets
      have once := numbered.once
      have atMost := Bool.toNat_le host.session.handshakeComplete
      have counted := countP_greets greeted
      omega
    | post kind fields =>
      have ready := (numbered.posts other held kind fields sealed present task carried).1
      exact numbered.sole_holder found (.inr ⟨_, phase⟩) present (.inr ⟨_, ready⟩)

theorem NumberedWire.writes_post_iff (numbered : NumberedWire checks trace host)
    (found : host.threads[index]? = some thread) (phase : thread.phase = .ready envelope)
    (posts : envelope.greets = false) :
    InSequence (host.wire ++ [envelope]) <->
      InSequence host.wire ∧ (∃ first, first ∈ host.wire ∧ first.greets = true) ∧
        ∀ past, past ∈ trace -> OutboundMoment.drops checks past = false := by
  have number := numbered.post_ready found phase posts
  have counted := numbered.counted
  constructor
  · intro inSequence
    obtain ⟨early, position, begins⟩ := inSequence.of_concat
    have greeted : ∃ first, first ∈ host.wire ∧ first.greets = true := by
      apply early.greeted
      intro empty
      rw [begins empty] at posts
      cases posts
    have sole := numbered.sole_carrier found phase greeted
    have undropped : trace.countP (OutboundMoment.drops checks) = 0 := by omega
    refine ⟨early, greeted, fun past inside => Bool.eq_false_iff.mpr ?_⟩
    exact List.countP_eq_zero.mp undropped past inside
  · rintro ⟨early, greeted, undropped⟩
    have sole := numbered.sole_carrier found phase greeted
    have none_dropped : trace.countP (OutboundMoment.drops checks) = 0 := by
      refine List.countP_eq_zero.mpr fun past inside => ?_
      rw [undropped past inside]
      exact Bool.false_ne_true
    refine early.concat (by omega) fun empty => ?_
    obtain ⟨first, inside, _⟩ := greeted
    rw [empty] at inside
    cases inside

/-- The wire of a connection is in sequence exactly when every post is written after the greeting and
after no number was dropped. -/
theorem outbound_in_sequence_iff (run : OutboundRun checks (.accepted hello) trace last) :
    InSequence last.wire <-> PostsInTurn checks trace := by
  induction run with
  | nil => exact ⟨fun _ => postsInTurn_nil, fun _ => .nil⟩
  | @step trace before after label earlier stepped ih =>
    have numbered := outbound_numbered earlier
    rw [postsInTurn_cons, <- ih]
    have quiet (same : after.wire = before.wire) (silent : before.writes checks label = []) :
        InSequence after.wire <->
          (∀ envelope, envelope ∈ before.writes checks label -> envelope.greets = false ->
            (∃ first, first ∈ before.wire ∧ first.greets = true) ∧
              ∀ past, past ∈ trace -> OutboundMoment.drops checks past = false) ∧ InSequence before.wire := by
      rw [same, silent]
      exact ⟨fun held => ⟨fun _ inside => (by cases inside), held⟩, fun held => held.2⟩
    cases NativeOutbound.next_moves stepped with
    | asked | greeted | declined | locked | greetingLocked | numbered | refused => exact quiet rfl rfl
    | @wrote index thread envelope outcome found phase =>
      have writes : before.writes checks (.write index outcome) =
          (before.writeEnvelopeUnlocked checks envelope outcome).1 := NativeOutbound.writes_ready found phase
      rcases before.written_cases checks envelope outcome with none_ | one
      · refine quiet ?_ (writes.trans none_)
        show before.wire ++ _ = before.wire
        rw [none_, List.append_nil]
      · show InSequence (before.wire ++ _) <-> _
        rw [one, writes, one]
        simp only [List.mem_singleton, forall_eq]
        cases greets : envelope.greets with
        | true =>
          constructor
          · intro inSequence
            exact ⟨fun posts => (by cases posts), inSequence.of_concat.1⟩
          · intro held
            exact numbered.writes_greeting found phase greets held.2
        | false =>
          rw [numbered.writes_post_iff found phase greets]
          constructor
          · rintro ⟨early, greeted, undropped⟩
            exact ⟨fun _ => ⟨greeted, undropped⟩, early⟩
          · rintro ⟨inTurn, early⟩
            exact ⟨early, (inTurn rfl).1, (inTurn rfl).2⟩

def textHello : NativeHello where
  nonce := "n"
  workerInstanceEpoch := 1
  browserSessionEpoch := 1
  rest := []

def textOffer : HandshakeOffer where
  hello := textHello
  brokerEpoch := 1
  connectionEpoch := 1
  resume := .ok ()
  limits := .ok 1024
  fields := []

def refuseTabs (value : Json) : Except NativeHostError Unit :=
  match (value.get "payload").bind fun payload => payload.get "tab_id" with
  | some _ => .error (.protocol "raw browser identifier is not allowed")
  | none => .ok ()

def tabChecks : EnvelopeChecks where
  validateNativeShape := fun _ _ => .ok ()
  assertNoRawBrowserIdentifiers := refuseTabs
  toVec := fun value => some value.toVec

def eventFields (payload : Json) : List (String × Json) := [("event", .string "e"), ("payload", payload)]

theorem NativeOutbound.write_fits (found : host.threads[index]? = some thread)
    (phase : thread.phase = .ready envelope) (fits : host.session.refusal checks envelope = none) :
    host.next checks (.write index .written) =
      some ({ host with holder := none, wire := host.wire ++ [envelope] }.reach index thread (.ended (.ok ()))) := by
  unfold next
  dsimp only
  rw [found, Option.bind_some]
  unfold writeStep writeEnvelopeUnlocked
  rw [phase]
  dsimp only
  rw [fits]

theorem NativeOutbound.write_refused {error : NativeHostError} {outcome : WriterOutcome}
    (found : host.threads[index]? = some thread) (phase : thread.phase = .ready envelope)
    (refused : host.session.refusal checks envelope = some error) :
    host.next checks (.write index outcome) =
      some ({ host with holder := none, wire := host.wire ++ [] }.reach index thread (.ended (.error error))) := by
  unfold next
  dsimp only
  rw [found, Option.bind_some]
  unfold writeStep writeEnvelopeUnlocked
  rw [phase]
  dsimp only
  rw [refused]

def textEnvelope (kind : HostKind) (sequence : Nat) (fields : List (String × Json)) : HostEnvelope where
  kind
  sequence
  brokerEpoch := 1
  connectionEpoch := 1
  hello := textHello
  fields

def textEvent : List (String × Json) := eventFields (.object [])

def tabEvent : List (String × Json) := eventFields (.object [("tab_id", .int 1)])

theorem refusal_none {session : OutboundSession} (bound : session.maxControlBytes = 1024)
    (tabs : refuseTabs envelope.toValue = .ok ()) (fits : envelope.toValue.toVec.length ≤ 1024) :
    session.refusal tabChecks envelope = none := by
  unfold OutboundSession.refusal
  dsimp only [tabChecks]
  rw [tabs]
  dsimp only
  rw [if_neg]
  omega

theorem renderMembers_le (fields : List (String × Json)) :
    textSize (renderMembers fields) ≤
      (fields.map fun field => quotedSize field.1 + textSize field.2.render + 2).sum := by
  induction fields with
  | nil => exact Nat.le_refl 0
  | cons field rest ih =>
    obtain ⟨key, value⟩ := field
    rw [List.map_cons, List.sum_cons]
    dsimp only
    cases rest with
    | nil =>
      rw [renderMembers_last]
      omega
    | cons other more =>
      rw [renderMembers_cons key value (List.cons_ne_nil _ _)]
      omega

theorem object_fits {fields : List (String × Json)} {bound : Nat}
    (fits : (fields.map fun field => quotedSize field.1 + textSize field.2.render + 2).sum + 2 ≤ bound) :
    (Json.object fields).toVec.length ≤ bound := by
  rw [Json.toVec_length, Json.size, object_size]
  have members := renderMembers_le fields
  omega

theorem greeting_fits : (textEnvelope .helloOk 1 []).toValue.toVec.length ≤ 1024 := object_fits (by decide)

theorem event_fits : (textEnvelope (.post .event) 3 textEvent).toValue.toVec.length ≤ 1024 :=
  object_fits (by decide)

def outboundStep (label : OutboundLabel) (host : NativeOutbound) : Option NativeOutbound := host.next tabChecks label

/-- A post is refused after it took its number, and another one is written. -/
theorem refused_post_leaves_gap :
    ∃ trace last, OutboundRun tabChecks (.accepted textHello) trace last ∧
      last.wire.map HostEnvelope.sequence = [1, 3] ∧ ¬ InSequence last.wire := by
  have greets (session : OutboundSession) (bound : session.maxControlBytes = 1024) :
      session.refusal tabChecks (textEnvelope .helloOk 1 []) = none := refusal_none bound rfl greeting_fits
  have fits (session : OutboundSession) (bound : session.maxControlBytes = 1024) :
      session.refusal tabChecks (textEnvelope (.post .event) 3 textEvent) = none :=
    refusal_none bound rfl event_fits
  have asked := advance_run
    (rfl : advance outboundStep [.ask (.handshake textOffer), .accept 0, .lock 0] (.accepted textHello) = some _)
  have greeted : OutboundRun tabChecks (.accepted textHello) (⟨_, .write 0 .written, _⟩ :: _) _ :=
    asked.step (NativeOutbound.write_fits rfl rfl (greets _ rfl))
  have tabbed := greeted.append (advance_run
    (rfl : advance outboundStep [.ask (.post .event tabEvent), .lock 1, .number 1] _ = some _))
  have refused : OutboundRun tabChecks (.accepted textHello) (⟨_, .write 1 .written, _⟩ :: _) _ :=
    tabbed.step (NativeOutbound.write_refused rfl rfl rfl)
  have posted := refused.append (advance_run
    (rfl : advance outboundStep [.ask (.post .event textEvent), .lock 2, .number 2] _ = some _))
  have gap : OutboundRun tabChecks (.accepted textHello) (⟨_, .write 2 .written, _⟩ :: _) _ :=
    posted.step (NativeOutbound.write_fits rfl rfl (fits _ rfl))
  refine ⟨_, _, gap, rfl, fun inSequence => ?_⟩
  have contiguous : [1, 3] = [1, 2] := inSequence.contiguous
  cases contiguous

theorem outbound_in_sequence_sample :
    ∃ trace last, OutboundRun tabChecks (.accepted textHello) trace last ∧
      last.wire.map HostEnvelope.sequence = [1] ∧ (InSequence last.wire <-> PostsInTurn tabChecks trace) := by
  have fits (session : OutboundSession) (bound : session.maxControlBytes = 1024) :
      session.refusal tabChecks (textEnvelope .helloOk 1 []) = none := refusal_none bound rfl greeting_fits
  have asked := advance_run
    (rfl : advance outboundStep [.ask (.handshake textOffer), .accept 0, .lock 0] (.accepted textHello) = some _)
  have greeted : OutboundRun tabChecks (.accepted textHello) (⟨_, .write 0 .written, _⟩ :: _) _ :=
    asked.step (NativeOutbound.write_fits rfl rfl (fits _ rfl))
  exact ⟨_, _, greeted, rfl, outbound_in_sequence_iff greeted⟩

end Results

end AgentycHost
