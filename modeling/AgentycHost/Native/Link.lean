import AgentycHost.Native.Requests

set_option autoImplicit false

/-!
# A host, its extension and their connections

Each connection has a host process of its own, whose request ids start anew.
The extension's handlers are asynchronous, and answer on whatever connection
is live when they finish.
-/

namespace AgentycHost

open Shared

structure LinkFrame where
  kind : NativeCallKind
  -- the call that posted it
  index : Nat
  number : Nat
  deriving DecidableEq

structure RequestHandler where
  -- where the request came from
  connection : Nat
  index : Nat
  -- the request id that the response will carry
  number : Nat
  deriving DecidableEq

structure HandlerReply where
  value : Json
  handler : RequestHandler

structure LinkConnection where
  host : NativeRequests
  toExtension : List LinkFrame
  toHost : List HandlerReply

structure NativeLink where
  connections : List LinkConnection
  -- the connection whose handshake the extension has completed
  current : Option Nat
  handlers : List RequestHandler

inductive LinkLabel where
  | opened
  | dropped
  -- a step of the host of a connection that reads no response
  | host (connection : Nat) (label : NativeLabel)
  -- the reader of the host takes up the next response
  | hears (connection : Nat)
  -- the extension takes up the next frame
  | received
  | completed (position : Nat) (value : Json)

def NativeRequests.posted (host : NativeRequests) (index : Nat) : List LinkFrame :=
  match host.calls[index]? with
  | some call => [{ kind := call.kind, index, number := call.number }]
  | none => []

def NativeRequests.posts (host : NativeRequests) (label : NativeLabel) : List LinkFrame :=
  match label with
  | .post index .written | .post index .unflushed => host.posted index
  | _ => []

def NativeLabel.reads : NativeLabel -> Bool
  | .answer .. => true
  | _ => false

namespace LinkConnection

variable (connection : LinkConnection)

def fresh : LinkConnection where
  host := .connected
  toExtension := []
  toHost := []

def hostStep (label : NativeLabel) : Option LinkConnection :=
  if label.reads then none
  else
    (connection.host.next label).map fun after =>
      { connection with host := after, toExtension := connection.toExtension ++ connection.host.posts label }

def hear : Option LinkConnection :=
  match connection.toHost with
  | [] => none
  | reply :: rest =>
      (connection.host.next (.answer (some reply.handler.number) reply.value)).map fun after =>
        { connection with host := after, toHost := rest }

end LinkConnection

namespace NativeLink

variable (link : NativeLink)

def started : NativeLink where
  connections := []
  current := none
  handlers := []

def setConnection (place : Nat) (connection : LinkConnection) : NativeLink :=
  { link with connections := link.connections.set place connection }

def receive (place : Nat) (frame : LinkFrame) : NativeLink :=
  match frame.kind with
  | .request =>
      { link with
        handlers := link.handlers ++ [{ connection := place, index := frame.index, number := frame.number }] }
  | .fence => link

/-- `sendResponse` posts on the connection that is live, and throws when none is. -/
def respond (reply : HandlerReply) : NativeLink :=
  match link.current with
  | none => link
  | some place =>
      match link.connections[place]? with
      | some connection => link.setConnection place { connection with toHost := connection.toHost ++ [reply] }
      | none => link

def next (label : LinkLabel) : Option NativeLink :=
  match label with
  | .opened =>
      match link.current with
      | some _ => none
      | none =>
          some { link with
            connections := link.connections ++ [.fresh]
            current := some link.connections.length }
  | .dropped => some { link with current := none }
  | .host place label =>
      (link.connections[place]?).bind fun connection =>
        (connection.hostStep label).map fun after => link.setConnection place after
  | .hears place =>
      (link.connections[place]?).bind fun connection => connection.hear.map fun after => link.setConnection place after
  | .received =>
      link.current.bind fun place =>
        (link.connections[place]?).bind fun connection =>
          match connection.toExtension with
          | [] => none
          | frame :: rest => some ((link.setConnection place { connection with toExtension := rest }).receive place frame)
  | .completed position value =>
      (link.handlers[position]?).map fun handler =>
        { link with handlers := link.handlers.eraseIdx position }.respond { value, handler }

end NativeLink

abbrev LinkTrace : Type := List (Moment NativeLink LinkLabel)

abbrev LinkRun (start : NativeLink) : LinkTrace -> NativeLink -> Prop :=
  Run (fun label before after => before.next label = some after) start

end AgentycHost
