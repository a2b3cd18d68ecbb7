import AgentycHost.Cdp.Effects

set_option autoImplicit false

/-!
# Documents behind the replies

A node of a document has a backend identity of its own, and an identity at the
client from the moment it is pushed there. Until then the client sees 0, the same
for every such node. Replies are consistent with a document when they say of its
nodes what is so.
-/

namespace AgentycHost

open Shared

variable {target node : Int} {described : Json} {talk later : Talk}

def isI64 (value : Int) : Prop := -(2 ^ 63) ≤ value ∧ value < 2 ^ 63

structure DomTree where
  parent : Int -> Option Int
  -- 0 until the node is pushed to the client
  nodeId : Int -> Int
  distinct : ∀ one other, nodeId one = nodeId other -> nodeId one ≠ 0 -> one = other
  box : Int -> Json
  nodeAt : Int -> Int -> Int
  nodeId_word : ∀ node, isI64 (nodeId node)
  nodeAt_word : ∀ x y, isI64 (nodeAt x y)

namespace DomTree

variable {dom : DomTree} {above : Int}

inductive Within (dom : DomTree) (target : Int) : Int -> Prop where
  | self : Within dom target target
  | child {node above : Int} (parent : dom.parent node = some above) (within : Within dom target above) :
      Within dom target node

inductive PushedWithin (dom : DomTree) (target : Int) : Nat -> Int -> Prop where
  | self : PushedWithin dom target 0 target
  | child {depth : Nat} {node above : Int} (parent : dom.parent node = some above) (pushed : dom.nodeId above ≠ 0)
      (within : PushedWithin dom target depth above) : PushedWithin dom target (depth + 1) node

def knownParent (dom : DomTree) (node : Int) : Option Int :=
  ((dom.parent node).map dom.nodeId).filter fun parentId => parentId != 0

theorem knownParent_some {parentId : Int} (known : dom.knownParent node = some parentId) :
    ∃ above, dom.parent node = some above ∧ dom.nodeId above = parentId ∧ parentId ≠ 0 := by
  obtain ⟨present, pushed⟩ := Option.filter_eq_some_iff.mp known
  obtain ⟨above, parent, same⟩ := Option.map_eq_some_iff.mp present
  exact ⟨above, parent, same, by simpa using pushed⟩

theorem knownParent_pushed (parent : dom.parent node = some above) (pushed : dom.nodeId above ≠ 0) :
    dom.knownParent node = some (dom.nodeId above) := by
  simp [knownParent, parent, pushed]

structure Describes (dom : DomTree) (node : Int) (described : Json) : Prop where
  backendNodeId : described.i64At "backendNodeId" = some node
  nodeId : described.i64At "nodeId" = some (dom.nodeId node)
  parentId : described.i64At "parentId" = dom.knownParent node

def Tells (dom : DomTree) (sent : SentCommand) : Prop :=
  match sent.command, sent.fate with
  | .describeBackendNode _ backendNodeId, .answered result =>
      ∀ described, result.get "node" = some described -> dom.Describes backendNodeId described
  | .describeNode _ nodeId, .answered result =>
      ∀ described, result.get "node" = some described ->
        ∃ node, dom.nodeId node = nodeId ∧ nodeId ≠ 0 ∧ dom.Describes node described
  | .getBoxModel _ backendNodeId, .answered result => result = dom.box backendNodeId
  | .getNodeForLocation _ x y, .answered result =>
      ∀ hit, result.i64At "backendNodeId" = some hit -> hit = dom.nodeAt x y
  | _, _ => True

def Truthful (dom : DomTree) (talk : Talk) : Prop := ∀ sent, sent ∈ talk.sent -> dom.Tells sent

end DomTree

section Log

variable {command : CdpCommand} {sent : SentCommand} {dom : DomTree} {result : Json}

theorem sendCommand_logged (command : CdpCommand) :
    Attempt.Keeps (fun talk => sent ∈ talk.sent) (sendCommand command) := by
  intro talk inside
  generalize ran : sendCommand command talk = reply
  obtain ⟨outcome, later⟩ := reply
  have kept : sent ∈ (talk.exchange command).sent := List.mem_append_left _ inside
  cases sendCommand_end ran with
  | disconnected => exact inside
  | exhausted => exact inside
  | lost => exact kept
  | rejected => exact kept
  | answered => exact kept

theorem sendCommand_answered (ran : sendCommand command talk = (.ok result, later)) :
    later = talk.exchange command ∧ talk.ready ∧ { command, fate := .answered result } ∈ later.sent := by
  cases sendCommand_end ran with
  | answered ready fate =>
    refine ⟨rfl, ready, List.mem_append_right _ ?_⟩
    rw [fate]
    exact List.mem_singleton_self _

theorem DomTree.Truthful.earlier {A : Type} {attempt : Cdp A} {outcome : Except CoreError A}
    (truthful : dom.Truthful later) (ran : attempt talk = (outcome, later))
    (logs : ∀ sent, Attempt.Keeps (fun talk => sent ∈ talk.sent) attempt) : dom.Truthful talk :=
  fun sent inside => truthful sent ((logs sent).ran ran inside)

theorem DomTree.Truthful.reply (truthful : dom.Truthful later) (ran : sendCommand command talk = (.ok result, later)) :
    dom.Tells { command, fate := .answered result } :=
  truthful _ (sendCommand_answered ran).2.2

end Log

section Climbing

variable {dom : DomTree} {sessionId : String} {rounds : Nat} {hit : Int} {outcome : Except CoreError Bool}
  {depth : Nat}

theorem climb_within (arrived : climbToNode sessionId target (dom.nodeId target) rounds described talk = (.ok true, later))
    (truthful : dom.Truthful later) (describes : dom.Describes node described)
    (known : dom.nodeId target ≠ 0 ∨ dom.nodeId node ≠ 0) : dom.Within target node := by
  induction rounds generalizing talk node described with
  | zero => cases arrived
  | succ rounds ih =>
    unfold climbToNode at arrived
    rw [describes.nodeId, describes.backendNodeId, describes.parentId] at arrived
    by_cases here : some (dom.nodeId node) = some (dom.nodeId target) ∨ some node = some target
    · obtain same | same := here
      · have pushed : dom.nodeId node ≠ 0 := by
          obtain pushed | pushed := known
          · rwa [Option.some.inj same]
          · exact pushed
        rw [dom.distinct node target (Option.some.inj same) pushed]
        exact .self
      · rw [Option.some.inj same]
        exact .self
    rw [if_neg here] at arrived
    cases parent : dom.knownParent node with
    | none =>
      rw [parent] at arrived
      cases arrived
    | some parentId =>
      rw [parent] at arrived
      obtain ⟨above, isParent, rfl, pushed⟩ := DomTree.knownParent_some parent
      dsimp only at arrived
      by_cases reached : dom.nodeId above = dom.nodeId target
      · rw [dom.distinct above target reached pushed] at isParent
        exact .child isParent .self
      rw [if_neg reached] at arrived
      obtain ⟨result, middle, told, rest⟩ := Attempt.bind_passed arrived
      obtain ⟨next, read, rest⟩ := Attempt.lift_passed rest
      have tells : dom.Tells { command := .describeNode sessionId (dom.nodeId above), fate := .answered result } := by
        apply DomTree.Truthful.reply (truthful.earlier rest _) told
        exact fun sent => climbToNode_keeps (fun _ => sendCommand_logged _) _ _ _ _ _
      obtain ⟨shown, same, _, describes⟩ := tells next (orElse_ok.mp read)
      have isAbove : shown = above := dom.distinct shown above same (same ▸ pushed)
      subst isAbove
      exact .child isParent (ih rest describes (.inr pushed))

theorem isNodeWithin_sound (arrived : isNodeWithin sessionId hit target (dom.nodeId target) talk = (.ok true, later))
    (truthful : dom.Truthful later) (known : dom.nodeId target ≠ 0 ∨ dom.nodeId hit ≠ 0) : dom.Within target hit := by
  unfold isNodeWithin at arrived
  split_ifs at arrived with same
  · rw [same]
    exact .self
  obtain ⟨result, middle, told, rest⟩ := Attempt.bind_passed arrived
  obtain ⟨node, read, rest⟩ := Attempt.lift_passed rest
  have tells : dom.Tells { command := .describeBackendNode sessionId hit, fate := .answered result } := by
    apply DomTree.Truthful.reply (truthful.earlier rest _) told
    exact fun sent => climbToNode_keeps (fun _ => sendCommand_logged _) _ _ _ _ _
  exact climb_within rest truthful (tells node (orElse_ok.mp read)) known

def OfConnection (error : CoreError) : Prop := error.code ≠ .permissionDenied ∧ error.code ≠ .staleRef

theorem sendCommand_ofConnection {command : CdpCommand} {error : CoreError}
    (failed : sendCommand command talk = (.error error, later)) : OfConnection error := by
  cases sendCommand_end failed with
  | disconnected => exact ⟨by decide, by decide⟩
  | exhausted => exact ⟨by decide, by decide⟩
  | lost => exact ⟨by decide, by decide⟩
  | rejected => exact ⟨by decide, by decide⟩

def Verified (outcome : Except CoreError Bool) : Prop :=
  outcome = .ok true ∨ ∃ error, outcome = .error error ∧ OfConnection error

theorem climb_arrives
    (ran : climbToNode sessionId target (dom.nodeId target) rounds described talk = (outcome, later))
    (truthful : dom.Truthful later) (describes : dom.Describes node described)
    (below : dom.PushedWithin target depth node) (room : depth ≤ rounds) (some_ : rounds ≠ 0) : Verified outcome := by
  induction rounds generalizing talk node described depth with
  | zero => exact absurd rfl some_
  | succ rounds ih =>
    unfold climbToNode at ran
    rw [describes.nodeId, describes.backendNodeId, describes.parentId] at ran
    by_cases here : some (dom.nodeId node) = some (dom.nodeId target) ∨ some node = some target
    · rw [if_pos here] at ran
      cases ran
      exact .inl rfl
    rw [if_neg here] at ran
    cases below with
    | self => exact absurd (.inr rfl) here
    | @child depth _ above parent pushed below =>
      rw [DomTree.knownParent_pushed parent pushed] at ran
      dsimp only at ran
      by_cases reached : dom.nodeId above = dom.nodeId target
      · rw [if_pos reached] at ran
        cases ran
        exact .inl rfl
      rw [if_neg reached] at ran
      obtain ⟨error, failed, rfl⟩ | ⟨result, middle, told, rest⟩ := Attempt.bind_cases ran
      · exact .inr ⟨error, rfl, sendCommand_ofConnection failed⟩
      obtain ⟨error, missing, rfl, _⟩ | ⟨next, read, rest⟩ := Attempt.lift_bind_cases rest
      · obtain ⟨_, rfl⟩ := orElse_error.mp missing
        exact .inr ⟨_, rfl, by decide, by decide⟩
      have tells : dom.Tells { command := .describeNode sessionId (dom.nodeId above), fate := .answered result } := by
        apply DomTree.Truthful.reply (truthful.earlier rest _) told
        exact fun sent => climbToNode_keeps (fun _ => sendCommand_logged _) _ _ _ _ _
      obtain ⟨shown, same, _, describes⟩ := tells next (orElse_ok.mp read)
      have isAbove : shown = above := dom.distinct shown above same (same ▸ pushed)
      subst isAbove
      have more : rounds ≠ 0 := by
        -- with one round left, the parent is the target, and it was reached
        rintro rfl
        cases below with
        | self => exact reached rfl
        | child => omega
      exact ih rest describes below (Nat.le_of_succ_le_succ room) more

theorem isNodeWithin_verified (ran : isNodeWithin sessionId hit target (dom.nodeId target) talk = (outcome, later))
    (truthful : dom.Truthful later) (below : dom.PushedWithin target depth hit)
    (room : depth ≤ cdpMaxSnapshotElements) : Verified outcome := by
  unfold isNodeWithin at ran
  split_ifs at ran with same
  · cases ran
    exact .inl rfl
  obtain ⟨error, failed, rfl⟩ | ⟨result, middle, told, rest⟩ := Attempt.bind_cases ran
  · exact .inr ⟨error, rfl, sendCommand_ofConnection failed⟩
  obtain ⟨error, missing, rfl, _⟩ | ⟨node, read, rest⟩ := Attempt.lift_bind_cases rest
  · obtain ⟨_, rfl⟩ := orElse_error.mp missing
    exact .inr ⟨_, rfl, by decide, by decide⟩
  have tells : dom.Tells { command := .describeBackendNode sessionId hit, fate := .answered result } := by
    apply DomTree.Truthful.reply (truthful.earlier rest _) told
    exact fun sent => climbToNode_keeps (fun _ => sendCommand_logged _) _ _ _ _ _
  exact climb_arrives rest truthful (tells node (orElse_ok.mp read)) below room (by decide)

end Climbing

end AgentycHost
