import AgentycHost.Shared.Runs

set_option autoImplicit false

/-!
# The extension's end of a Native Messaging connection

The steps below are the tasks and microtasks of the service worker that change
the connection. Each runs to its end before the next one starts.
-/

namespace AgentycHost

open Shared

inductive ClientState where
  | disconnected
  | handshaking
  | connected
  | rejected
  deriving DecidableEq

inductive ConnectPromise where
  | none
  -- the microtask that opens the port has not run
  | opening
  -- it has run, and the one that clears the promise has not
  | settling
  deriving DecidableEq

structure ClientConfig where
  autoReconnect : Bool
  connectNative : Bool
  setTimeoutFn : Bool
  clearTimeoutFn : Bool

structure NativeClient where
  state : ClientState
  port : Option Nat
  connectionGeneration : Nat
  connectPromise : ConnectPromise
  stopped : Bool
  reconnectTimer : Bool
  deriving DecidableEq

structure PortListener where
  connectionGeneration : Nat
  port : Nat
  deriving DecidableEq

structure NativeExtension where
  client : NativeClient
  -- one for every port ever opened
  listeners : List PortListener
  -- the ports that neither side has disconnected
  live : List Nat
  -- pending timers that the client has lost its handle of
  strayTimers : Nat
  deriving DecidableEq

inductive ExtensionLabel where
  | connect
  | stop (reconnect : Bool)
  | reconnect
  -- the microtask of `connect`, and whether `connectNative` returned a port
  | openPort (returned : Bool)
  | settle
  -- a message, and whether every check accepts it
  | message (listener : Nat) (accepted : Bool)
  | portDisconnected (listener : Nat)
  -- the other side closes the port, and its event is yet to come
  | portCloses (port : Nat)
  -- `postEnvelope` throws in `send`
  | postFails
  | timer
  | strayTimer
  deriving DecidableEq

namespace NativeExtension

variable (config : ClientConfig) (extension : NativeExtension)

def started : NativeExtension where
  client :=
    { state := .disconnected, port := none, connectionGeneration := 0, connectPromise := .none, stopped := false,
      reconnectTimer := false }
  listeners := []
  live := []
  strayTimers := 0

def clearReconnectTimer : NativeExtension :=
  { extension with
    client := { extension.client with reconnectTimer := false }
    strayTimers :=
      if extension.client.reconnectTimer && !config.clearTimeoutFn then extension.strayTimers + 1
      else extension.strayTimers }

def scheduleReconnect : NativeExtension :=
  if !config.autoReconnect || extension.client.stopped || extension.client.reconnectTimer || !config.setTimeoutFn then
    extension
  else { extension with client := { extension.client with reconnectTimer := true } }

def isLive : Bool :=
  match extension.client.state with
  | .connected | .handshaking => true
  | _ => false

def connect : NativeExtension :=
  if extension.isLive then extension
  else if extension.client.connectPromise ≠ .none then extension
  else if !config.connectNative then { extension with client := { extension.client with state := .disconnected } }
  else
    let cleared := extension.clearReconnectTimer config
    { cleared with client := { cleared.client with stopped := false, connectPromise := .opening } }

/-- What `handleDisconnect` does past its guards, before it schedules. -/
def dropPort : NativeExtension :=
  { extension with client := { extension.client with port := none, state := .disconnected } }

def disconnectPort : NativeExtension :=
  match extension.client.port with
  | none => extension
  | some port =>
      { extension with
        client := { extension.client with port := none }
        live := extension.live.filter fun other => other != port }

def failProtocol : NativeExtension :=
  scheduleReconnect config
    (disconnectPort { extension with client := { extension.client with state := .rejected } })

def stop (reconnect : Bool) : NativeExtension :=
  let stopped := clearReconnectTimer config
    { extension with client := { extension.client with stopped := !reconnect } }
  let closed := stopped.disconnectPort
  { closed with client := { closed.client with state := .disconnected } }

def openPort (returned : Bool) : NativeExtension :=
  let generation := extension.client.connectionGeneration + 1
  let opening := { extension.client with
    state := .handshaking, connectionGeneration := generation, connectPromise := .settling }
  if returned then
    let port := extension.listeners.length
    { extension with
      client := { opening with port := some port }
      listeners := extension.listeners ++ [{ connectionGeneration := generation, port }]
      live := port :: extension.live }
  else scheduleReconnect config (dropPort { extension with client := opening })

def isCurrent (listener : PortListener) : Bool :=
  listener.connectionGeneration == extension.client.connectionGeneration &&
    extension.client.port == some listener.port

def handleIncoming (listener : PortListener) (accepted : Bool) : NativeExtension :=
  if !extension.isCurrent listener then extension
  else
    match extension.client.state, accepted with
    | .handshaking, true => { extension with client := { extension.client with state := .connected } }
    | .connected, true => extension
    | _, _ => extension.failProtocol config

/-- `handleDisconnect` with the generation and the port of a listener. -/
def handleDisconnect (listener : PortListener) (schedule : Bool) : NativeExtension :=
  if !extension.isCurrent listener then extension
  else if schedule then scheduleReconnect config extension.dropPort
  else extension.dropPort

def handlePortDisconnect (listener : PortListener) : NativeExtension :=
  let wasConnected := extension.client.state == .connected
  let dropped := extension.handleDisconnect config listener (!wasConnected)
  if wasConnected && config.autoReconnect && !dropped.client.stopped then dropped.connect config else dropped

def next (label : ExtensionLabel) : Option NativeExtension :=
  match label with
  | .connect => some (extension.connect config)
  | .stop reconnect => some (extension.stop config reconnect)
  | .reconnect =>
      let stopped := extension.stop config false
      some (connect config { stopped with client := { stopped.client with stopped := false } })
  | .openPort returned =>
      if extension.client.connectPromise = .opening then some (extension.openPort config returned) else none
  | .settle =>
      if extension.client.connectPromise = .settling then
        some { extension with client := { extension.client with connectPromise := .none } }
      else none
  | .message index accepted =>
      (extension.listeners[index]?).map fun listener => extension.handleIncoming config listener accepted
  | .portDisconnected index =>
      (extension.listeners[index]?).map fun listener =>
        handlePortDisconnect config
          { extension with live := extension.live.filter fun other => other != listener.port } listener
  | .portCloses port => some { extension with live := extension.live.filter fun other => other != port }
  | .postFails =>
      if extension.client.state = .connected then some (scheduleReconnect config extension.dropPort) else none
  | .timer =>
      if extension.client.reconnectTimer then
        some (connect config { extension with client := { extension.client with reconnectTimer := false } })
      else none
  | .strayTimer =>
      match extension.strayTimers with
      | 0 => none
      | others + 1 =>
          some (connect config { extension with
            client := { extension.client with reconnectTimer := false }
            strayTimers := if extension.client.reconnectTimer then others + 1 else others })

end NativeExtension

abbrev ExtensionTrace : Type := List (Moment NativeExtension ExtensionLabel)

abbrev ExtensionRun (config : ClientConfig) (start : NativeExtension) : ExtensionTrace -> NativeExtension -> Prop :=
  Run (fun label before after => before.next config label = some after) start

end AgentycHost
