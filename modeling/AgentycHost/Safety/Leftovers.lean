import AgentycHost.Cdp.Fences

set_option autoImplicit false

/-! # Tabs of a failed creation -/

namespace AgentycHost

open Shared

variable {config : CdpConfig} {outside : CdpOutside} {bridge : CdpBridgeState} {talk later : Talk} {url : String}
  {error : CoreError}

/-- A page target at the URL. -/
def TargetAt (url targetId : String) (target : Json) : Prop :=
  target.strAt "type" = some "page" ∧ target.strAt "url" = some url ∧ target.strAt "targetId" = some targetId

/-- Chrome listed a page target at the URL. -/
def Listed (url targetId : String) (sent : List SentCommand) : Prop :=
  ∃ result targets target, { command := .getTargets, fate := .answered result } ∈ sent ∧
    (result.get "targetInfos").bind Json.asArray = some targets ∧ target ∈ targets ∧ TargetAt url targetId target

/-- Chrome said that it closed the target, or that there is none to close. -/
def Gone (targetId : String) (sent : List SentCommand) : Prop :=
  ∃ result, { command := .closeTarget targetId, fate := .answered result } ∈ sent ∧
    (result.boolAt "success").isSome = true

/-- The tabs that a creation made, as targets, where the creator and Chrome tell the truth about them. The bootstrap
URL has the page's identity and epoch in it, and the broker mints a new identity for every creation. -/
structure TabsMade (tab : TabCreation) (url : String) (served : Served) (made : String -> Prop) : Prop where
  -- a creator that nobody asked makes none, and neither does one that refused
  asked : ∀ targetId, made targetId -> served.tabs ≠ []
  agreed : ∀ targetId error, made targetId -> tab.answer = .error error -> error.code = .unknownOutcome
  -- the bootstrap URL is the tab's
  listed : ∀ targetId found, made targetId -> Listed url found served.sent -> targetId = found

section Finding

variable {target : Json} {found : Option String} {targetId : String} {targets : List Json} {polls : Nat}

theorem sendCommand_remembers {sent : SentCommand} (command : CdpCommand) :
    Attempt.Keeps (fun talk : Talk => sent ∈ talk.sent) (sendCommand command) := by
  intro talk inside
  generalize ran : sendCommand command talk = reply
  obtain ⟨outcome, later⟩ := reply
  cases sendCommand_end ran with
  | disconnected => exact inside
  | exhausted => exact inside
  | lost => exact List.mem_append_left _ inside
  | rejected => exact List.mem_append_left _ inside
  | answered => exact List.mem_append_left _ inside

theorem matchTarget_error (failed : matchTarget url found target = .error error) :
    error = unknownTabCreation := by
  unfold matchTarget at failed
  split at failed
  next =>
    split at failed
    next => exact (Except.error.inj failed).symm
    next =>
      split at failed
      next => exact (Except.error.inj failed).symm
      next => cases failed
  next => cases failed

theorem matchTarget_ok (passed : matchTarget url found target = .ok (some targetId)) :
    found = some targetId ∨ TargetAt url targetId target := by
  unfold matchTarget at passed
  split at passed
  next page =>
    split at passed
    next => cases passed
    next named =>
      split at passed
      next => cases passed
      next =>
        cases passed
        exact .inr ⟨page.1, page.2, (Option.filter_eq_some_iff.mp named).1⟩
  next =>
    cases passed
    exact .inl rfl

theorem matchTargets_error (failed : targets.foldlM (matchTarget url) found = .error error) :
    error = unknownTabCreation := by
  induction targets generalizing found with
  | nil => cases failed
  | cons target rest ih =>
    rw [List.foldlM_cons] at failed
    cases matched : matchTarget url found target with
    | error failure =>
      rw [matched] at failed
      cases failed
      exact matchTarget_error matched
    | ok next =>
      rw [matched] at failed
      exact ih failed

theorem matchTargets_ok (passed : targets.foldlM (matchTarget url) found = .ok (some targetId)) :
    found = some targetId ∨ ∃ target, target ∈ targets ∧ TargetAt url targetId target := by
  induction targets generalizing found with
  | nil =>
    cases passed
    exact .inl rfl
  | cons target rest ih =>
    rw [List.foldlM_cons] at passed
    cases matched : matchTarget url found target with
    | error failure =>
      rw [matched] at passed
      cases passed
    | ok next =>
      rw [matched] at passed
      obtain rfl | ⟨other, inside, page⟩ := ih passed
      · obtain early | page := matchTarget_ok matched
        · exact .inl early
        · exact .inr ⟨target, List.mem_cons_self, page⟩
      · exact .inr ⟨other, List.mem_cons_of_mem _ inside, page⟩

theorem pollTargets_error (failed : pollTargets url talk = (.error error, later)) : error = unknownTabCreation := by
  obtain ⟨failure, unread, same⟩ | ⟨result, middle, _, rest⟩ := Attempt.bind_cases failed
  · obtain ⟨_, _, rfl⟩ := Attempt.mapError_error unread
    exact Except.error.inj same
  · obtain ⟨failure, missing, same, _⟩ | ⟨targets, _, matching⟩ := Attempt.lift_bind_cases rest
    · obtain ⟨_, rfl⟩ := orElse_error.mp missing
      exact Except.error.inj same
    · exact matchTargets_error (Prod.mk.inj matching).1

theorem pollTargets_ok (passed : pollTargets url talk = (.ok (some targetId), later)) :
    Listed url targetId later.sent := by
  obtain ⟨result, middle, read, rest⟩ := Attempt.bind_passed passed
  obtain ⟨targets, listed, matching⟩ := Attempt.lift_passed rest
  obtain ⟨matched, rfl⟩ := Prod.mk.inj matching
  obtain none_ | ⟨target, inside, page⟩ := matchTargets_ok matched
  · cases none_
  · exact ⟨result, targets, target, sendCommand_logs (Attempt.mapError_ok read), orElse_ok.mp listed, inside, page⟩

theorem findTarget_error (failed : findTarget url polls talk = (.error error, later)) :
    error = unknownTabCreation := by
  induction polls generalizing talk with
  | zero =>
    obtain ⟨failure, polled, same⟩ | ⟨found, middle, _, rest⟩ := Attempt.bind_cases failed
    · exact (Except.error.inj same).trans (pollTargets_error polled)
    · cases found with
      | none => exact (Except.error.inj (Prod.mk.inj rest).1).symm
      | some _ => cases rest
  | succ polls ih =>
    obtain ⟨failure, polled, same⟩ | ⟨found, middle, _, rest⟩ := Attempt.bind_cases failed
    · exact (Except.error.inj same).trans (pollTargets_error polled)
    · cases found with
      | none => exact ih rest
      | some _ => cases rest

theorem findTarget_ok (passed : findTarget url polls talk = (.ok targetId, later)) :
    Listed url targetId later.sent := by
  induction polls generalizing talk with
  | zero =>
    obtain ⟨found, middle, polled, rest⟩ := Attempt.bind_passed passed
    cases found with
    | none => cases rest
    | some _ =>
      cases rest
      exact pollTargets_ok polled
  | succ polls ih =>
    obtain ⟨found, middle, polled, rest⟩ := Attempt.bind_passed passed
    cases found with
    | none => exact ih rest
    | some _ =>
      cases rest
      exact pollTargets_ok polled

end Finding

section Closing

variable {targetId : String}

theorem closeTarget_missing (failed : closeTarget targetId talk = (.error error, later))
    (missing : error.code = .pageNotFound) : Gone targetId later.sent := by
  obtain ⟨failure, unanswered, same⟩ | ⟨result, middle, answered, rest⟩ := Attempt.bind_cases failed
  · -- no end of a command has the code of a missing page
    cases same
    cases sendCommand_end unanswered <;> cases missing
  · cases said : result.boolAt "success" with
    | none =>
      simp only [said] at rest
      cases rest
      cases missing
    | some done =>
      have same : middle = later := by
        cases done with
        | true =>
          simp only [said] at rest
          cases rest
        | false =>
          simp only [said] at rest
          cases rest
          rfl
      exact ⟨result, same ▸ sendCommand_logs answered, by simp [said]⟩

theorem closeTarget_gone (closed : closeTarget targetId talk = (.ok (), later)) :
    Gone targetId later.sent := by
  obtain ⟨result, logged, success⟩ := closeTarget_ok closed
  exact ⟨result, logged, by simp [success]⟩

theorem cleanupFailedCreation_gone {A : Type} {creationError : CoreError}
    (failed : (cleanupFailedCreation targetId creationError : Cdp A) talk = (.error error, later))
    (known : error.code ≠ .unknownOutcome) : Gone targetId later.sent := by
  obtain ⟨failure, unclosed, same⟩ | ⟨_, middle, closed, rest⟩ := Attempt.bind_cases failed
  · cases same
    obtain ⟨_, _, passed⟩ | ⟨closing, between, _, handled⟩ := Attempt.recover_cases unclosed
    · cases passed
    · split at handled
      · cases handled
      · cases handled
        exact absurd rfl known
  · cases rest
    obtain ⟨_, closed, _⟩ | ⟨closing, between, failed, handled⟩ := Attempt.recover_cases closed
    · exact closeTarget_gone closed
    · split at handled
      next missing =>
        cases handled
        exact closeTarget_missing failed missing
      next => cases handled

end Closing

section Creation

variable {tab : TabCreation} {request : CreateRequest}

inductive CreationFailed (tab : TabCreation) (url : String) (error : CoreError) (later : Talk) : Prop where
  | unasked (tabs : later.tabs = [])
  | refused (answer : tab.answer = .error error)
  | cleaned (targetId : String) (listed : Listed url targetId later.sent) (gone : Gone targetId later.sent)

theorem createManaged_failed (fresh : talk.tabs = []) (failed : createManaged tab request talk = (.error error, later))
    (known : error.code ≠ .unknownOutcome) :
    CreationFailed tab (bootstrapUrl request.pageId request.leaseEpoch) error later := by
  obtain ⟨_, got, _⟩ | ⟨_, _, got, checked⟩ := Attempt.bind_cases failed
  · cases got
  cases got
  obtain ⟨_, _, _, rfl⟩ | ⟨_, _, admitted⟩ := Attempt.lift_bind_cases checked
  · exact .unasked fresh
  obtain ⟨failure, unfound, same⟩ | ⟨targetId, found, finding, setting⟩ := Attempt.bind_cases admitted
  · cases same
    obtain ⟨_, _, _, rfl⟩ | ⟨_, _, asking⟩ := Attempt.lift_bind_cases unfound
    · exact .unasked fresh
    obtain ⟨_, refused, same⟩ | ⟨_, middle, _, searching⟩ := Attempt.bind_cases asking
    · cases same
      exact .refused (Prod.mk.inj refused).1
    · exact absurd (congrArg CoreError.code (findTarget_error searching)) known
  · obtain ⟨_, _, asking⟩ := Attempt.lift_passed finding
    obtain ⟨_, middle, _, searching⟩ := Attempt.bind_passed asking
    obtain ⟨failure, unready, same⟩ | ⟨_, _, _, done⟩ := Attempt.bind_cases setting
    · cases same
      obtain ⟨_, _, passed⟩ | ⟨creationError, between, unset, cleaning⟩ := Attempt.recover_cases unready
      · cases passed
      obtain ⟨result, targets, target, logged, rest⟩ := findTarget_ok searching
      -- what Chrome listed is still in the log after the cleanup
      have set := (setUpTarget_keeps sendCommand_remembers targetId request.url).ran unset logged
      have kept := (cleanupFailedCreation_keeps sendCommand_remembers targetId creationError).ran cleaning set
      exact .cleaned targetId ⟨result, targets, target, kept, rest⟩ (cleanupFailedCreation_gone cleaning known)
    · cases done

/-- A failed creation leaves the records, and no tab unless it says that it does not know. -/
theorem failed_creation_leaves_nothing
    (failed : (serve config outside (.createPage request) bridge).reply = .created (.error error)) :
    (serve config outside (.createPage request) bridge).bridge.pages = bridge.pages ∧
      (error.code ≠ .unknownOutcome -> ∀ made,
        TabsMade outside.tab (bootstrapUrl request.pageId request.leaseEpoch)
          (serve config outside (.createPage request) bridge) made ->
        ∀ targetId, made targetId -> Gone targetId (serve config outside (.createPage request) bridge).sent) := by
  generalize ran : createManaged outside.tab request (bridge.talk outside.turns) = reply
  obtain ⟨outcome, later⟩ := reply
  have served : serve config outside (.createPage request) bridge =
      { bridge := later.toCdpBridgeState, sent := later.sent, tabs := later.tabs, reply := .created outcome } := by
    simp [serve, CdpBridgeState.perform, ran]
  rw [served] at failed ⊢
  obtain rfl : outcome = .error error := BridgeReply.created.inj failed
  constructor
  · obtain ⟨_, same⟩ | ⟨created, _⟩ := (createManaged_pages outside.tab request _).ran ran
    · exact same
    · cases created
  · intro known made truthful targetId tabMade
    cases createManaged_failed rfl ran known with
    | unasked tabs => exact absurd tabs (truthful.asked targetId tabMade)
    | refused answer => exact absurd (truthful.agreed targetId error tabMade answer) known
    | cleaned found listed gone =>
      obtain rfl := truthful.listed targetId found tabMade listed
      exact gone

def newTab : List (String × Json) :=
  [("targetInfos", .array [.object [("type", .string "page"), ("url", .string "about:blank#agentyc-tab=page_page-2-1"),
    ("targetId", .string "tab-2")]])]

def brokenTab : CdpOutside where
  turns :=
    [answeredWith 1 newTab,
     answeredWith 2 [("sessionId", .string "session-2")],
     rejectedWith 3 "Target crashed",
     answeredWith 4 [("success", .bool true)]]
  tab := { answer := .ok (), polls := 0 }

def brokenCreation : Served := serve sampleCdp brokenTab (.createPage lateCreation) .connected

theorem brokenCreation_log : brokenCreation.sent =
    [{ command := .getTargets, fate := .answered (.object newTab) },
     { command := .attachToTarget "tab-2", fate := .answered (.object [("sessionId", .string "session-2")]) },
     { command := .pageEnable "session-2", fate := .rejected },
     { command := .closeTarget "tab-2", fate := .answered (.object [("success", .bool true)]) }] := rfl

theorem brokenCreation_made :
    TabsMade brokenTab.tab (bootstrapUrl ⟨2⟩ 1) brokenCreation fun targetId => targetId = "tab-2" where
  asked := by
    intro _ _ silent
    cases silent
  agreed := by
    intro _ _ _ refused
    cases refused
  listed := by
    rintro _ found rfl ⟨result, targets, target, logged, read, inside, page⟩
    simp only [brokenCreation_log, List.mem_cons, SentCommand.mk.injEq, reduceCtorEq, false_and, or_false, true_and,
      Fate.answered.injEq, List.not_mem_nil] at logged
    subst logged
    cases read
    rw [List.mem_singleton.mp inside] at page
    exact Option.some.inj page.2.2

theorem broken_creation_closes_tab : Gone "tab-2" brokenCreation.sent := by
  have failed : (serve sampleCdp brokenTab (.createPage lateCreation) .connected).reply =
      .created (.error (.new .capabilityUnavailable "Chrome DevTools rejected the command")) := rfl
  exact (failed_creation_leaves_nothing failed).2 (by decide) _ brokenCreation_made "tab-2" rfl

end Creation

end AgentycHost
