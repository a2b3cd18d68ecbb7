import AgentycHost.Effects.Canonical
import AgentycHost.Policy.Tickets

set_option autoImplicit false

/-! # Tickets of the trace policy -/

namespace AgentycHost

open Shared

variable {store after : IntentTicketStore} {binding : IntentBinding} {ticket presented : IntentTicket}
  {ticketId : UserIntentTicketId} {issued : IssuedIntent} {now ttlMs count : Nat} {state last : PolicyState}
  {trace : List (Moment PolicyState PolicyCall)}

section Operations

/-- The ticket is the one that the store holds for the binding, unspent and unexpired. -/
structure Spendable (store : IntentTicketStore) (binding : IntentBinding) (presented : IntentTicket)
    (now : Timestamp) : Prop where
  shape : binding.validate = .ok ()
  held : store.tickets.get? presented.ticketId = some ⟨presented, binding.boundary⟩
  unspent : presented.state = .issued
  unexpired : now < presented.expiresAt
  bound : presented.matchesBinding binding = true

def spentIntent (binding : IntentBinding) (presented : IntentTicket) : IssuedIntent :=
  ⟨{ presented with state := .consumed }, binding.boundary⟩

theorem admit_ok {spent : IssuedIntent} (admitted : store.admits binding presented now = .ok spent) :
    Spendable store binding presented now ∧ spent = spentIntent binding presented := by
  simp only [IntentTicketStore.admits, bind_ok, orElse_ok, require_ok, mapError_ok, pure_ok, beq_iff_eq,
    decide_eq_true_eq, IntentTicket.validateAndConsume] at admitted
  obtain ⟨_, shape, ⟨issuedTicket, boundary⟩, held, _, _, _, same, _, rfl, _, unexpired, _,
    ⟨_, unspent, _, _, _, bound, _, _, rfl⟩, rfl⟩ := admitted
  dsimp only at same
  subst same
  exact ⟨⟨shape, held, unspent, unexpired, bound⟩, rfl⟩

theorem consume_cases (store : IntentTicketStore) (binding : IntentBinding) (presented : IntentTicket) (now : Timestamp) :
    (Spendable store binding presented now ∧ store.consume binding presented now =
      ({ store with tickets := store.tickets.insert presented.ticketId (spentIntent binding presented) }, .ok ())) ∨
    ∃ error, store.consume binding presented now = (store, .error error) := by
  unfold IntentTicketStore.consume
  split
  next error _ => exact .inr ⟨error, rfl⟩
  next spent admitted =>
    obtain ⟨spendable, rfl⟩ := admit_ok admitted
    exact .inl ⟨spendable, rfl⟩

inductive RegistryMove (store : IntentTicketStore) (now : Timestamp) :
    IntentTicketStore -> Option (IntentBinding × IntentTicket) -> Option (IntentBinding × IntentTicket) -> Prop where
  | kept {after : IntentTicketStore} (tickets : after.tickets = store.tickets) (number : after.nextTicket = store.nextTicket) :
      RegistryMove store now after none none
  | pruned : RegistryMove store now store.retainBounded none none
  | issued {binding : IntentBinding} {ticketId : UserIntentTicketId} {expiresAt : Timestamp}
      (named : ticketId.suffix = "intent-" ++ toString (store.nextTicket + 1)) :
      RegistryMove store now
        { store.retainBounded with
          tickets := store.retainBounded.tickets.insert ticketId
            ⟨IntentTicketStore.boundTicket binding ticketId expiresAt, binding.boundary⟩
          nextTicket := store.nextTicket + 1 }
        (some (binding, IntentTicketStore.boundTicket binding ticketId expiresAt)) none
  | revoked {ticketId : UserIntentTicketId} {issued : IssuedIntent} (held : store.tickets.get? ticketId = some issued)
      (unspent : issued.ticket.state = .issued) :
      RegistryMove store now (store.setState ticketId issued .revoked) none none
  | spent {binding : IntentBinding} {presented : IntentTicket} (spendable : Spendable store binding presented now) :
      RegistryMove store now
        { store with tickets := store.tickets.insert presented.ticketId (spentIntent binding presented) } none
        (some (binding, presented))

theorem retainBounded_number (store : IntentTicketStore) : store.retainBounded.nextTicket = store.nextTicket := by
  unfold IntentTicketStore.retainBounded
  split_ifs <;> rfl

theorem fromSuffix_some {tag suffix : String} {identifier : Identifier tag}
    (made : Identifier.fromSuffix tag suffix = some identifier) : identifier.suffix = suffix := by
  unfold Identifier.fromSuffix at made
  split_ifs at made
  cases made
  rfl

theorem mint_ok {number : Nat} (minted : store.mint binding now ttlMs = .ok (number, ticket)) :
    number = store.nextTicket + 1 ∧ ∃ ticketId, ticketId.suffix = "intent-" ++ toString number ∧
      ticket = IntentTicketStore.boundTicket binding ticketId (now + ttlMs) := by
  simp only [IntentTicketStore.mint, checkedAdd, bind_ok, orElse_ok, mapError_ok, pure_ok, Prod.mk.injEq,
    Option.ite_none_right_eq_some, Option.some.injEq] at minted
  obtain ⟨_, ⟨_, rfl⟩, next, counted, ticketId, named, _, _, rfl, rfl⟩ := minted
  exact ⟨(checkedNext_eq_some.mp counted).2, ticketId, fromSuffix_some named, rfl⟩

theorem issueTicket_move (store : IntentTicketStore) (binding : IntentBinding) (now ttlMs : Nat) :
    (∃ error, store.issue binding now ttlMs = (store, .error error) ∨
      store.issue binding now ttlMs = (store.retainBounded, .error error)) ∨
    ∃ after ticket, store.issue binding now ttlMs = (after, .ok ticket) ∧ ticket.expiresAt = now + ttlMs ∧
      RegistryMove store now after (some (binding, ticket)) none := by
  unfold IntentTicketStore.issue
  split
  next error _ => exact .inl ⟨error, .inl rfl⟩
  next =>
    dsimp only
    split
    next => exact .inl ⟨_, .inr rfl⟩
    next =>
      split
      next error _ => exact .inl ⟨error, .inr rfl⟩
      next number ticket minted =>
        obtain ⟨rfl, ticketId, named, rfl⟩ := mint_ok minted
        rw [retainBounded_number] at named ⊢
        exact .inr ⟨_, _, rfl, rfl, .issued named⟩

theorem authorize_move (store : IntentTicketStore) (binding : IntentBinding) (offered : Option IntentTicket)
    (now : Timestamp) :
    (∃ result, store.authorize binding offered now = (store, result) ∧ result ≠ .ok .ticket ∧
      (result = .ok .paused -> store.isPaused binding.scope.spaceId = true)) ∨
    ∃ presented, offered = some presented ∧ Spendable store binding presented now ∧
      store.authorize binding offered now =
        ({ store with tickets := store.tickets.insert presented.ticketId (spentIntent binding presented) }, .ok .ticket) := by
  unfold IntentTicketStore.authorize
  split
  next => exact .inl ⟨_, rfl, by simp, by simp⟩
  next =>
    split
    next paused => exact .inl ⟨_, rfl, by simp, fun _ => paused⟩
    next =>
      cases offered with
      | none => exact .inl ⟨_, rfl, by simp, by simp⟩
      | some presented =>
        dsimp only
        obtain ⟨spendable, consumed⟩ | ⟨error, refused⟩ := consume_cases store binding presented now
        · rw [consumed]
          exact .inr ⟨presented, rfl, spendable, rfl⟩
        · rw [refused]
          exact .inl ⟨_, rfl, by simp, by simp⟩

theorem policy_move (state : PolicyState) (call : PolicyCall) :
    RegistryMove state.store state.now (state.next call).store (state.issues call) (state.spends call) := by
  cases call with
  | issue binding ttlMs =>
    unfold PolicyState.next PolicyState.issues PolicyState.spends
    dsimp only
    obtain ⟨error, same | dropped⟩ | ⟨after, ticket, made, _, move⟩ := issueTicket_move state.store binding state.now ttlMs
    · rw [same]
      exact .kept rfl rfl
    · rw [dropped]
      exact .pruned
    · rw [made]
      exact move
  | cancel ticketId =>
    unfold PolicyState.next PolicyState.issues PolicyState.spends IntentTicketStore.cancel
    dsimp only
    split
    next => exact .kept rfl rfl
    next issued held =>
      split_ifs with used
      · exact .kept rfl rfl
      · exact .revoked held (not_not.mp used)
  | pause spaceId =>
    unfold PolicyState.next PolicyState.issues PolicyState.spends IntentTicketStore.pause
    dsimp only
    split_ifs <;> exact .kept rfl rfl
  | resume spaceId => exact .kept rfl rfl
  | authorize binding offered =>
    unfold PolicyState.next PolicyState.issues
    dsimp only
    obtain ⟨result, same, unspent, _⟩ | ⟨presented, rfl, spendable, admitted⟩ :=
      authorize_move state.store binding offered state.now
    · have nothing : state.spends (.authorize binding offered) = none := by
        cases offered with
        | none => rfl
        | some presented =>
          unfold PolicyState.spends
          dsimp only
          rw [same]
          dsimp only
          split
          next => exact absurd rfl unspent
          next => rfl
      rw [same, nothing]
      exact .kept rfl rfl
    · unfold PolicyState.spends
      dsimp only
      rw [admitted]
      exact .spent spendable
  | consume binding presented =>
    unfold PolicyState.next PolicyState.issues PolicyState.spends
    dsimp only
    obtain ⟨spendable, consumed⟩ | ⟨error, refused⟩ := consume_cases state.store binding presented state.now
    · rw [consumed]
      exact .spent spendable
    · rw [refused]
      exact .kept rfl rfl
  | tick passed => exact .kept rfl rfl

end Operations

section Histories

variable {before : PolicyState} {call : PolicyCall} {later earlier : List (Moment PolicyState PolicyCall)}
  {moment : Moment PolicyState PolicyCall} {expiresAt : Timestamp}
  {crossed made : Option (IntentBinding × IntentTicket)}

def issuedIn (moment : Moment PolicyState PolicyCall) : Option (IntentBinding × IntentTicket) :=
  moment.before.issues moment.label

def spentIn (moment : Moment PolicyState PolicyCall) : Option (IntentBinding × IntentTicket) :=
  moment.before.spends moment.label

/-- The identities of the tickets that were spent, latest first. -/
def spentIds (trace : List (Moment PolicyState PolicyCall)) : List UserIntentTicketId :=
  (trace.filterMap spentIn).map fun crossing => crossing.2.ticketId

/-- The ticket was issued in the trace, for the binding. -/
def TicketIssuedFor (trace : List (Moment PolicyState PolicyCall)) (binding : IntentBinding) (ticket : IntentTicket) : Prop :=
  ∃ moment, moment ∈ trace ∧ issuedIn moment = some (binding, ticket)

def NumberedUpTo (count : Nat) (ticketId : UserIntentTicketId) : Prop :=
  ∃ number, number ≤ count ∧ ticketId.suffix = "intent-" ++ toString number

theorem NumberedUpTo.next (numbered : NumberedUpTo count ticketId) : NumberedUpTo (count + 1) ticketId := by
  obtain ⟨number, within, named⟩ := numbered
  exact ⟨number, by omega, named⟩

theorem NumberedUpTo.fresh {other : UserIntentTicketId} (numbered : NumberedUpTo count ticketId)
    (named : other.suffix = "intent-" ++ toString (count + 1)) : ticketId ≠ other := by
  rintro rfl
  obtain ⟨number, within, named'⟩ := numbered
  have same := decimal_inj ((String.append_right_inj _).mp (named'.symm.trans named))
  omega

structure InRegistry (trace : List (Moment PolicyState PolicyCall)) (store : IntentTicketStore) : Prop where
  numbered : ∀ binding ticket, TicketIssuedFor trace binding ticket -> NumberedUpTo store.nextTicket ticket.ticketId
  held : ∀ ticketId issued, store.tickets.get? ticketId = some issued -> ∃ binding ticket,
    TicketIssuedFor trace binding ticket ∧ ticket.ticketId = ticketId ∧ ticket.state = .issued ∧
      issued = ⟨{ ticket with state := issued.ticket.state }, binding.boundary⟩
  spent : ∀ ticketId, ticketId ∈ spentIds trace -> NumberedUpTo store.nextTicket ticketId ∧
    ∀ issued, store.tickets.get? ticketId = some issued -> issued.ticket.state = .consumed

theorem TicketIssuedFor.cons (known : TicketIssuedFor trace binding ticket) : TicketIssuedFor (moment :: trace) binding ticket := by
  obtain ⟨first, inside, made⟩ := known
  exact ⟨first, List.mem_cons_of_mem _ inside, made⟩

theorem ticketIssuedFor_cons : TicketIssuedFor (moment :: trace) binding ticket <->
    issuedIn moment = some (binding, ticket) ∨ TicketIssuedFor trace binding ticket := by
  simp [TicketIssuedFor]

theorem spentIds_none (nothing : spentIn moment = none) : spentIds (moment :: trace) = spentIds trace := by
  simp [spentIds, nothing]

theorem spentIds_some (crossed : spentIn moment = some (binding, ticket)) :
    spentIds (moment :: trace) = ticket.ticketId :: spentIds trace := by
  simp [spentIds, crossed]

theorem recorded_nil : InRegistry [] .fresh where
  numbered := by rintro _ _ ⟨_, ⟨⟩, _⟩
  held := by rintro _ _ ⟨⟩
  spent := by rintro _ ⟨⟩

theorem InRegistry.shrink (recorded : InRegistry trace store) (no_issue : issuedIn moment = none)
    (no_spend : spentIn moment = none) (number : after.nextTicket = store.nextTicket)
    (fewer : ∀ ticketId issued, after.tickets.get? ticketId = some issued ->
      store.tickets.get? ticketId = some issued) : InRegistry (moment :: trace) after where
  numbered binding ticket known := by
    rw [number]
    obtain made | known := ticketIssuedFor_cons.mp known
    · rw [no_issue] at made
      cases made
    · exact recorded.numbered binding ticket known
  held ticketId issued found := by
    obtain ⟨binding, ticket, known, record⟩ := recorded.held ticketId issued (fewer _ _ found)
    exact ⟨binding, ticket, known.cons, record⟩
  spent ticketId inside := by
    rw [spentIds_none no_spend] at inside
    rw [number]
    obtain ⟨numbered, marked⟩ := recorded.spent ticketId inside
    exact ⟨numbered, fun issued found => marked issued (fewer _ _ found)⟩

theorem InRegistry.issue (recorded : InRegistry trace store)
    (made : issuedIn moment = some (binding, IntentTicketStore.boundTicket binding ticketId expiresAt))
    (no_spend : spentIn moment = none) (named : ticketId.suffix = "intent-" ++ toString (store.nextTicket + 1))
    (number : after.nextTicket = store.nextTicket + 1)
    (tickets : ∀ other issued, after.tickets.get? other = some issued ->
      other = ticketId ∧ issued = ⟨IntentTicketStore.boundTicket binding ticketId expiresAt, binding.boundary⟩ ∨
      other ≠ ticketId ∧ store.tickets.get? other = some issued) : InRegistry (moment :: trace) after where
  numbered other known_ticket known := by
    rw [number]
    obtain same | known := ticketIssuedFor_cons.mp known
    · rw [made] at same
      cases same
      exact ⟨store.nextTicket + 1, Nat.le_refl _, named⟩
    · exact (recorded.numbered other known_ticket known).next
  held other issued found := by
    obtain ⟨rfl, rfl⟩ | ⟨_, earlier⟩ := tickets other issued found
    · exact ⟨binding, _, ticketIssuedFor_cons.mpr (.inl made), rfl, rfl, rfl⟩
    · obtain ⟨bound, ticket, known, record⟩ := recorded.held other issued earlier
      exact ⟨bound, ticket, known.cons, record⟩
  spent other inside := by
    rw [spentIds_none no_spend] at inside
    rw [number]
    obtain ⟨numbered, marked⟩ := recorded.spent other inside
    refine ⟨numbered.next, ?_⟩
    intro issued found
    obtain ⟨rfl, _⟩ | ⟨_, earlier⟩ := tickets other issued found
    · exact absurd rfl (numbered.fresh named)
    · exact marked issued earlier

theorem InRegistry.mark {state : IntentTicketState} (recorded : InRegistry trace store)
    (no_issue : issuedIn moment = none) (found : store.tickets.get? ticketId = some issued)
    (unspent : issued.ticket.state = .issued)
    (spending : spentIn moment = none ∨ state = .consumed ∧ ∃ binding ticket,
      spentIn moment = some (binding, ticket) ∧ ticket.ticketId = ticketId) :
    InRegistry (moment :: trace) (store.setState ticketId issued state) := by
  have numbered : NumberedUpTo store.nextTicket ticketId := by
    obtain ⟨_, _, known, rfl, _⟩ := recorded.held ticketId issued found
    exact recorded.numbered _ _ known
  constructor
  case numbered =>
    intro binding ticket known
    obtain made | known := ticketIssuedFor_cons.mp known
    · rw [no_issue] at made
      cases made
    · exact recorded.numbered binding ticket known
  case held =>
    intro other changed there
    rw [IntentTicketStore.setState, Table.get?_insert] at there
    split_ifs at there with same
    · subst same
      cases there
      obtain ⟨binding, ticket, known, named, fresh, record⟩ := recorded.held other issued found
      refine ⟨binding, ticket, known.cons, named, fresh, ?_⟩
      rw [record]
    · obtain ⟨binding, ticket, known, record⟩ := recorded.held other changed there
      exact ⟨binding, ticket, known.cons, record⟩
  case spent =>
    intro other inside
    have earlier : other ∈ spentIds trace -> NumberedUpTo store.nextTicket other ∧
        ∀ changed, (store.setState ticketId issued state).tickets.get? other = some changed ->
          changed.ticket.state = .consumed := by
      intro inside
      obtain ⟨numbered, marked⟩ := recorded.spent other inside
      refine ⟨numbered, ?_⟩
      intro changed there
      rw [IntentTicketStore.setState, Table.get?_insert] at there
      split_ifs at there with same
      · -- a spent ticket is not unspent
        subst same
        have spent := marked issued found
        rw [unspent] at spent
        cases spent
      · exact marked changed there
    obtain nothing | ⟨rfl, binding, ticket, crossed, rfl⟩ := spending
    · rw [spentIds_none nothing] at inside
      exact earlier inside
    · rw [spentIds_some crossed] at inside
      obtain rfl | inside := List.mem_cons.mp inside
      · refine ⟨numbered, ?_⟩
        intro changed there
        rw [IntentTicketStore.setState, Table.get?_insert_self] at there
        cases there
        rfl
      · exact earlier inside

theorem retainBounded_found (store : IntentTicketStore)
    (found : store.retainBounded.tickets.get? ticketId = some issued) : store.tickets.get? ticketId = some issued := by
  unfold IntentTicketStore.retainBounded at found
  split_ifs at found
  · exact found
  · rw [Table.get?_filter, Option.filter_eq_some_iff] at found
    exact found.1

theorem InRegistry.move (recorded : InRegistry trace store) (move : RegistryMove store now after made crossed)
    (issues : issuedIn moment = made) (spends : spentIn moment = crossed) :
    InRegistry (moment :: trace) after := by
  cases move with
  | kept tickets number => exact recorded.shrink issues spends number fun _ _ found => tickets ▸ found
  | pruned =>
    exact recorded.shrink issues spends (retainBounded_number store) fun _ _ found => retainBounded_found store found
  | issued named =>
    refine recorded.issue issues spends named rfl ?_
    intro other issued found
    rw [Table.get?_insert] at found
    split_ifs at found with same
    · cases found
      exact .inl ⟨same, rfl⟩
    · exact .inr ⟨same, retainBounded_found store found⟩
  | revoked held unspent => exact recorded.mark issues held unspent (.inl spends)
  | spent spendable =>
    exact recorded.mark issues spendable.held spendable.unspent (.inr ⟨rfl, _, _, spends, rfl⟩)

theorem PolicyRun.recorded (run : PolicyRun ⟨.fresh, now⟩ trace last) : InRegistry trace last.store := by
  induction run with
  | nil => exact recorded_nil
  | step _ taken ih =>
    rw [taken]
    exact ih.move (policy_move _ _) rfl rfl

theorem RegistryMove.spendable (move : RegistryMove store now after made (some (binding, ticket))) :
    Spendable store binding ticket now := by
  cases move with
  | spent spendable => exact spendable

theorem RegistryMove.bound (move : RegistryMove store now after (some (binding, ticket)) crossed) :
    ∃ ticketId expiresAt, ticket = IntentTicketStore.boundTicket binding ticketId expiresAt := by
  cases move with
  | issued => exact ⟨_, _, rfl⟩

theorem binding_unique {bound : IntentBinding} (boundary : bound.boundary = binding.boundary)
    (matched : (IntentTicketStore.boundTicket bound ticketId expiresAt).matchesBinding binding = true) :
    bound = binding := by
  simp only [IntentTicket.matchesBinding, IntentTicketStore.boundTicket, Bool.and_eq_true, beq_iff_eq] at matched
  obtain ⟨⟨⟨⟨⟨⟨⟨⟨_, profile⟩, space⟩, page⟩, document⟩, action⟩, lease⟩, connection⟩, nonce⟩ := matched
  obtain ⟨_, ⟨_, _⟩, _, _, _, _, _, _⟩ := bound
  obtain ⟨_, ⟨_, _⟩, _, _, _, _, _, _⟩ := binding
  dsimp only at *
  subst boundary profile space page document action lease connection nonce
  rfl

theorem InRegistry.spends (recorded : InRegistry trace before.store) (crossed : before.spends call = some (binding, ticket)) :
    before.now < ticket.expiresAt ∧ TicketIssuedFor trace binding ticket ∧ ticket.ticketId ∉ spentIds trace := by
  have move := policy_move before call
  rw [crossed] at move
  have spendable := move.spendable
  obtain ⟨bound, issued, known, _, unspent, record⟩ := recorded.held _ _ spendable.held
  simp only [IssuedIntent.mk.injEq, spendable.unspent, ← unspent] at record
  obtain ⟨rfl, boundary⟩ := record
  refine ⟨spendable.unexpired, ?_, ?_⟩
  · obtain ⟨moment, inside, made⟩ := known
    have issuing := policy_move moment.before moment.label
    rw [show moment.before.issues moment.label = some (bound, issued) from made] at issuing
    obtain ⟨ticketId, expiresAt, rfl⟩ := issuing.bound
    obtain rfl := binding_unique boundary.symm spendable.bound
    exact ⟨moment, inside, made⟩
  · intro spent
    have marked := (recorded.spent _ spent).2 _ spendable.held
    rw [spendable.unspent] at marked
    cases marked

/-- A ticket is spent at most once, before its expiry, and for the binding that it was issued for. -/
structure TicketsSound (trace : List (Moment PolicyState PolicyCall)) : Prop where
  once : (spentIds trace).Nodup
  bound : ∀ later moment earlier binding ticket, trace = later ++ moment :: earlier ->
    spentIn moment = some (binding, ticket) ->
    moment.before.now < ticket.expiresAt ∧ TicketIssuedFor earlier binding ticket

theorem PolicyRun.sound (run : PolicyRun ⟨.fresh, now⟩ trace last) : TicketsSound trace where
  once := by
    induction run with
    | nil => exact List.nodup_nil
    | @step trace before after call earlier _ ih =>
      cases crossed : spentIn ⟨before, call, after⟩ with
      | none => rwa [spentIds_none crossed]
      | some crossing =>
        obtain ⟨binding, ticket⟩ := crossing
        obtain ⟨_, _, fresh⟩ := (PolicyRun.recorded earlier).spends crossed
        rw [spentIds_some crossed]
        exact List.nodup_cons.mpr ⟨fresh, ih⟩
  bound later moment earlier binding ticket split crossed := by
    subst split
    obtain ⟨early, _⟩ := run.before_moment
    obtain ⟨unexpired, known, _⟩ := (PolicyRun.recorded early).spends crossed
    exact ⟨unexpired, known⟩

end Histories

section Availability

/-- Nothing but a full registry can refuse the ticket. -/
structure Issuable (state : PolicyState) (binding : IntentBinding) (ttlMs : Nat) : Prop where
  checked : IntentTicketStore.checkIssue binding state.now ttlMs = .ok ()
  expires : state.now + ttlMs ≤ u64Max
  numbered : state.store.nextTicket < u64Max

theorem ticket_identifier {number : Nat} (counted : number ≤ u64Max) :
    validateIdentifier "ticket_" ("intent-" ++ toString number) = true := by
  have lead : bytes "intent-" = [105, 110, 116, 101, 110, 116, 45] := by decide
  exact counted_identifier lead (by decide) (by decide) (by decide) counted

theorem Issuable.mints (issuable : Issuable state binding ttlMs) (number : after.nextTicket = state.store.nextTicket) :
    ∃ minted, after.mint binding state.now ttlMs = .ok minted := by
  have checked := issuable.checked
  simp only [IntentTicketStore.checkIssue, IntentBinding.validate, bind_ok, require_ok, bne_iff_ne, ne_eq] at checked
  obtain ⟨_, ⟨_, _, _, paired, _⟩, _, started, _⟩ := checked
  have valid : validateIdentifier "ticket_" ("intent-" ++ toString (state.store.nextTicket + 1)) = true :=
    ticket_identifier issuable.numbered
  have positive : state.now + ttlMs ≠ 0 := Nat.ne_of_gt (Nat.add_pos_left (Nat.pos_of_ne_zero started) ttlMs)
  have later : (state.now + ttlMs != 0) = true := bne_iff_ne.mpr positive
  simp only [IntentTicketStore.mint, checkedAdd, if_pos issuable.expires, checkedNext, number, if_pos issuable.numbered,
    Identifier.fromSuffix, dif_pos valid, orElse, bind, Except.bind, IntentTicket.validateShape,
    IntentTicketStore.boundTicket, paired, later, require, if_true, Except.mapError]
  exact ⟨_, rfl⟩

theorem retainBounded_room (store : IntentTicketStore) :
    store.retainBounded.tickets.size < maxIntentTickets <-> store.waiting < maxIntentTickets := by
  unfold IntentTicketStore.retainBounded
  split_ifs with room
  · have fewer : store.waiting ≤ store.tickets.size := List.countP_le_length
    exact ⟨fun _ => Nat.lt_of_le_of_lt fewer room, fun _ => room⟩
  · rw [IntentTicketStore.waiting, Table.count, List.countP_eq_length_filter]
    rfl

theorem Issuable.succeeds (issuable : Issuable state binding ttlMs) :
    (∃ ticket, (state.store.issue binding state.now ttlMs).2 = .ok ticket) <-> state.store.waiting < maxIntentTickets := by
  rw [← retainBounded_room, IntentTicketStore.issue, issuable.checked]
  dsimp only
  split
  next full =>
    constructor
    · rintro ⟨_, ⟨⟩⟩
    · intro room
      omega
  next room =>
    obtain ⟨minted, made⟩ := issuable.mints (retainBounded_number state.store)
    rw [made]
    exact ⟨fun _ => Nat.lt_of_not_le room, fun _ => ⟨_, rfl⟩⟩

/-- Fewer tickets than the maximum can still be spent, and the request for one more is in order. -/
structure Asks (moment : Moment PolicyState PolicyCall) (binding : IntentBinding) (ttlMs : Nat) : Prop where
  label : moment.label = .issue binding ttlMs
  issuable : Issuable moment.before binding ttlMs
  live : moment.before.store.live moment.before.now < maxIntentTickets

def AlwaysIssues (trace : List (Moment PolicyState PolicyCall)) : Prop :=
  ∀ moment binding ttlMs, moment ∈ trace -> Asks moment binding ttlMs ->
    ∃ ticket, issuedIn moment = some (binding, ticket)

/-- Expired tickets are what fills the registry. -/
def Clogged (moment : Moment PolicyState PolicyCall) : Prop :=
  (∃ binding ttlMs, Asks moment binding ttlMs) ∧ maxIntentTickets ≤ moment.before.store.waiting

theorem asks_issues {moment : Moment PolicyState PolicyCall} (asks : Asks moment binding ttlMs) :
    (∃ ticket, issuedIn moment = some (binding, ticket)) <-> moment.before.store.waiting < maxIntentTickets := by
  rw [← asks.issuable.succeeds, issuedIn, asks.label]
  unfold PolicyState.issues
  dsimp only
  constructor
  · rintro ⟨ticket, made⟩
    split at made
    next given result => exact ⟨given, result⟩
    next => cases made
  · rintro ⟨ticket, result⟩
    rw [result]
    exact ⟨ticket, rfl⟩

/-- Tickets are spent soundly, and one more is refused exactly when expired tickets fill the registry. -/
theorem tickets_available_iff (run : PolicyRun ⟨.fresh, now⟩ trace last) :
    TicketsSound trace ∧ (AlwaysIssues trace <-> ∀ moment, moment ∈ trace -> ¬ Clogged moment) := by
  refine ⟨run.sound, ?_, ?_⟩
  · rintro always moment inside ⟨⟨binding, ttlMs, asks⟩, full⟩
    have room := (asks_issues asks).mp (always moment binding ttlMs inside asks)
    omega
  · intro free moment binding ttlMs inside asks
    by_contra refused
    rw [asks_issues asks] at refused
    exact free moment inside ⟨⟨binding, ttlMs, asks⟩, by omega⟩

end Availability

section Samples

theorem sample_policy_space : validateIdentifier "space_" "one" = true := by decide

theorem sample_policy_page : validateIdentifier "page_" "main" = true := by decide

theorem sample_policy_profile : validateIdentifier "profile_" "profile" = true := by decide

theorem sample_policy_nonce : validateIdentifier "nonce_" "nonce" = true := by decide

def policyBinding (boundary : SensitiveBoundary) : IntentBinding where
  boundary := boundary
  scope := ⟨⟨"one", sample_policy_space⟩, some ⟨"main", sample_policy_page⟩⟩
  profileBindingId := ⟨"profile", sample_policy_profile⟩
  documentGeneration := some 7
  leaseEpoch := 3
  actionHash := ⟨17⟩
  connectionEpoch := 2
  connectionNonce := ⟨"nonce", sample_policy_nonce⟩

theorem first_ticket : validateIdentifier "ticket_" "intent-1" = true := by decide

def firstIntent : IntentTicket := IntentTicketStore.boundTicket (policyBinding .evaluate) ⟨"intent-1", first_ticket⟩ 15

def policyNext (call : PolicyCall) (state : PolicyState) : Option PolicyState := some (state.next call)

theorem policy_reaches {start last : PolicyState} {trace : List (Moment PolicyState PolicyCall)}
    (run : Run (fun call before after => policyNext call before = some after) start trace last) :
    PolicyRun start trace last := run.imp fun _ _ _ taken => (Option.some.inj taken).symm

/-- A ticket is issued and spent. -/
theorem first_intent_spent : ∃ trace last, PolicyRun ⟨.fresh, 10⟩ trace last ∧
    (trace.any fun moment => spentIn moment == some (policyBinding .evaluate, firstIntent)) = true ∧ TicketsSound trace := by
  obtain ⟨last, run, _⟩ := advance_reaches policyNext ⟨.fresh, 10⟩
    [.issue (policyBinding .evaluate) 5, .tick 1, .authorize (policyBinding .evaluate) (some firstIntent)]
    (fun _ => true) (by decide)
  have run := policy_reaches run
  exact ⟨_, last, run, by decide, (tickets_available_iff run).1⟩

structure Filled (count : Nat) (trace : List (Moment PolicyState PolicyCall)) (state : PolicyState) : Prop where
  run : PolicyRun ⟨.fresh, 1⟩ trace state
  now : state.now = 1
  number : state.store.nextTicket = count
  size : state.store.tickets.size = count
  every : ∀ ticketId issued, state.store.tickets.get? ticketId = some issued ->
    issued.ticket.state = .issued ∧ issued.ticket.expiresAt = 2

theorem Filled.issuable (filled : Filled count trace state) (fewer : count ≤ maxIntentTickets) :
    Issuable state (policyBinding .evaluate) 1 where
  checked := by
    rw [filled.now]
    rfl
  expires := by
    rw [filled.now]
    decide
  numbered := by
    rw [filled.number]
    exact Nat.lt_of_le_of_lt fewer (by decide)

theorem Filled.waiting (filled : Filled count trace state) : state.store.waiting = count := by
  have all : state.store.waiting = state.store.tickets.entries.length := by
    refine List.countP_eq_length.mpr ?_
    rintro ⟨ticketId, issued⟩ inside
    have fresh := filled.every ticketId issued ((Table.mem_entries _ _ _).mp inside)
    simp [fresh.1]
  exact all.trans filled.size

theorem InRegistry.unused {trace : List (Moment PolicyState PolicyCall)} (recorded : InRegistry trace store)
    (named : ticketId.suffix = "intent-" ++ toString (store.nextTicket + 1)) : store.tickets.get? ticketId = none := by
  by_contra present
  obtain ⟨issued, found⟩ := Option.ne_none_iff_exists'.mp present
  obtain ⟨_, _, known, same, _⟩ := recorded.held ticketId issued found
  have numbered := recorded.numbered _ _ known
  rw [same] at numbered
  exact numbered.fresh named rfl

theorem size_insert_unused {K V : Type} [DecidableEq K] {table : Table K V} {key : K} (absent : table.get? key = none) (value : V) :
    (table.insert key value).size = table.size + 1 := by
  have parts := table.count_insert (fun _ _ => true) key value
  simp only [Table.counted, absent, Option.any_none, Bool.toNat_false, Bool.toNat_true, Nat.add_zero] at parts
  rw [Table.size_eq_count, Table.size_eq_count, parts]

theorem Filled.next (filled : Filled count trace state) (fewer : count < maxIntentTickets) :
    ∃ trace state, Filled (count + 1) trace state := by
  have issuable := filled.issuable (Nat.le_of_lt fewer)
  obtain ⟨given, made⟩ := issuable.succeeds.mpr (filled.waiting ▸ fewer)
  have run : PolicyRun ⟨.fresh, 1⟩ (⟨state, .issue (policyBinding .evaluate) 1, _⟩ :: trace)
      (state.next (.issue (policyBinding .evaluate) 1)) := .step filled.run rfl
  suffices more : ∀ store, store = (state.store.issue (policyBinding .evaluate) state.now 1).1 ->
      store.nextTicket = count + 1 ∧ store.tickets.size = count + 1 ∧
        ∀ ticketId issued, store.tickets.get? ticketId = some issued ->
          issued.ticket.state = .issued ∧ issued.ticket.expiresAt = 2 by
    obtain ⟨number, size, every⟩ := more _ rfl
    exact ⟨_, _, run, filled.now, number, size, every⟩
  rintro _ rfl
  obtain ⟨error, same | dropped⟩ | ⟨after, ticket, issued, expires, move⟩ :=
    issueTicket_move state.store (policyBinding .evaluate) state.now 1
  · rw [same] at made
    cases made
  · rw [dropped] at made
    cases made
  · rw [issued]
    have whole : state.store.retainBounded = state.store := if_pos (filled.size ▸ fewer)
    cases move with
    | issued named =>
      have absent := filled.run.recorded.unused named
      rw [whole]
      refine ⟨by rw [filled.number], ?_, ?_⟩
      · rw [size_insert_unused absent, filled.size]
      · intro other held found
        rw [Table.get?_insert] at found
        split_ifs at found
        · cases found
          rw [filled.now] at expires
          exact ⟨rfl, expires⟩
        · exact filled.every other held found

theorem filled_up {count : Nat} (within : count ≤ maxIntentTickets) : ∃ trace state, Filled count trace state := by
  induction count with
  | zero => exact ⟨[], _, .nil, rfl, rfl, rfl, by rintro _ _ ⟨⟩⟩
  | succ count ih =>
    obtain ⟨trace, state, filled⟩ := ih (by omega)
    exact filled.next (by omega)

theorem Filled.expired (filled : Filled count trace state) : state.store.live 2 = 0 := by
  refine List.countP_eq_zero.mpr ?_
  rintro ⟨ticketId, issued⟩ inside
  have late := filled.every ticketId issued ((Table.mem_entries _ _ _).mp inside)
  simp [late.2]

/-- When the whole registry has expired, no ticket is issued any more. -/
theorem expired_tickets_clog : ∃ trace last, PolicyRun ⟨.fresh, 1⟩ trace last ∧ ¬ AlwaysIssues trace := by
  obtain ⟨trace, state, filled⟩ := filled_up (Nat.le_refl maxIntentTickets)
  have ticked : PolicyRun ⟨.fresh, 1⟩ (⟨state, .tick 1, _⟩ :: trace) (state.next (.tick 1)) := .step filled.run rfl
  have asked : PolicyRun ⟨.fresh, 1⟩ (⟨state.next (.tick 1), .issue (policyBinding .evaluate) 1, _⟩ :: _ :: trace)
      ((state.next (.tick 1)).next (.issue (policyBinding .evaluate) 1)) := .step ticked rfl
  refine ⟨_, _, asked, ?_⟩
  intro always
  have later : (state.next (.tick 1)).now = 2 := by rw [PolicyState.next, filled.now]
  have asks : Asks ⟨state.next (.tick 1), .issue (policyBinding .evaluate) 1,
      (state.next (.tick 1)).next (.issue (policyBinding .evaluate) 1)⟩ (policyBinding .evaluate) 1 := by
    constructor
    case label => rfl
    case issuable =>
      constructor
      case checked =>
        rw [later]
        rfl
      case expires =>
        rw [later]
        decide
      case numbered => exact (filled.issuable (Nat.le_refl _)).numbered
    case live =>
      dsimp only
      rw [later]
      exact Nat.lt_of_le_of_lt (Nat.le_of_eq filled.expired) (by decide)
  have room := (asks_issues asks).mp (always _ _ _ List.mem_cons_self asks)
  exact absurd filled.waiting (Nat.ne_of_lt room)

end Samples

end AgentycHost
