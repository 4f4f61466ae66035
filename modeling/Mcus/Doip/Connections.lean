import Mathlib.Logic.Function.Basic
import Mcus.Foundations.Ownership

/-! # Connections of the DoIP server

The sockets and threads of `doip_server.cpp`: `start`, `stop`, the accept loop and the handler thread of
each connection, taken apart where another thread may come in between. A session object is shared by the
accept loop, the session table and its handler thread, and its destructor closes the socket when the last
of them lets go. What is received and sent on a connection is left out, and so is the thread of the UDP
socket, which opens and closes nothing.
-/

namespace Mcus.Doip.Connections
open Handles HandleEvent Runs
set_option autoImplicit false

universe u

/-- A `DoIPClientSession` object: its socket, and which of all accepted connections it is. -/
structure Session (H : Type u) where
  socket : H
  serial : ℕ
  deriving DecidableEq

/-- Where `clientHandlerThread` is. -/
inductive HandlerPhase
  | serving
  | leaving
  | ending
  | ended
  deriving DecidableEq

/-- Where `tcpAcceptThread` is, with the session its pass has made. -/
inductive Acceptor (H : Type u)
  | exited
  | waiting
  | accepted (session : Session H)
  | stored (session : Session H)
  | spawned (session : Session H)
  deriving DecidableEq

/-- What becomes of a listening socket: `socket` fails, `bind` or `listen` does, or none. -/
inductive Creation (H : Type u)
  | failed
  | refused (h : H)
  | created (h : H)

structure DoIPServer (H : Type u) where
  running : Bool
  stopping : Bool
  udpSocket : Option H
  tcpSocket : Option H
  acceptor : Acceptor H
  sessions : List (H × Session H)
  clientThreads : List (Session H)
  phase : Session H → HandlerPhase
  accepts : ℕ

/-- `stop` is one event up to its joins and one behind them. -/
inductive ServerEvent (H : Type u)
  | start (udp tcp : Creation H)
  | accept (h : H)
  | acceptFails (interrupted : Bool)
  | store
  | spawn
  | nextPass
  | leave (session : Session H)
  | erase (session : Session H)
  | finish (session : Session H)
  | stop
  | joined

def Creation.result {H : Type u} : Creation H → Option H
  | .created h => some h
  | _ => none

def Creation.events {H : Type u} : Creation H → List (HandleEvent H)
  | .failed => []
  | .refused h => [opened h, closed h]
  | .created h => [opened h]

/-- The accept loop has a reference to the session. -/
def Acceptor.session {H : Type u} : Acceptor H → Option (Session H)
  | .exited => none
  | .waiting => none
  | .accepted x => some x
  | .stored x => some x
  | .spawned x => some x

section Server
variable {H : Type u} [DecidableEq H]

/-! ## `std::map` -/

abbrev Table (H : Type u) := List (H × Session H)

def eraseKey (h : H) (table : Table H) : Table H := table.filter fun e => e.1 ≠ h

def assignKey (h : H) (x : Session H) (table : Table H) : Table H := (h, x) :: eraseKey h table

/-- The sessions whose entries go when the key is erased or assigned. -/
def sessionsUnder (h : H) (table : Table H) : List (Session H) :=
  (table.filter fun e => e.1 = h).map Prod.snd

/-! ## Steps -/

/-- Somebody has a reference to the session. -/
def Holds (s : DoIPServer H) (x : Session H) : Prop :=
  s.acceptor.session = some x ∨ x ∈ s.sessions.map Prod.snd ∨ s.phase x ≠ .ended

instance (s : DoIPServer H) (x : Session H) : Decidable (Holds s x) := inferInstanceAs (Decidable (_ ∨ _ ∨ _))

/-- The destructors that run when references were dropped. -/
def release (s : DoIPServer H) (dropped : List (Session H)) : List (HandleEvent H) :=
  (dropped.filter fun x => ¬ Holds s x).map fun x => closed x.socket

def start (s : DoIPServer H) (udp tcp : Creation H) : DoIPServer H :=
  let s := { s with udpSocket := udp.result, tcpSocket := tcp.result }
  if s.udpSocket.isNone || s.tcpSocket.isNone then s else { s with running := true, acceptor := .waiting }

def acceptSession (s : DoIPServer H) (h : H) : DoIPServer H :=
  { s with acceptor := .accepted ⟨h, s.accepts⟩, accepts := s.accepts + 1 }

def storeSession (s : DoIPServer H) (x : Session H) : DoIPServer H :=
  { s with acceptor := .stored x, sessions := assignKey x.socket x s.sessions }

def spawnThread (s : DoIPServer H) (x : Session H) : DoIPServer H :=
  { s with
    acceptor := .spawned x
    clientThreads := s.clientThreads ++ [x]
    phase := Function.update s.phase x .serving }

/-- The session of the pass goes out of scope, and `running_` is looked at. -/
def endPass (s : DoIPServer H) : DoIPServer H :=
  { s with acceptor := if s.running then .waiting else .exited }

def leaveLoop (s : DoIPServer H) (x : Session H) : DoIPServer H :=
  { s with phase := Function.update s.phase x .leaving }

def eraseSession (s : DoIPServer H) (x : Session H) : DoIPServer H :=
  { s with phase := Function.update s.phase x .ending, sessions := eraseKey x.socket s.sessions }

def endThread (s : DoIPServer H) (x : Session H) : DoIPServer H :=
  { s with phase := Function.update s.phase x .ended }

def closeSockets (s : DoIPServer H) : DoIPServer H :=
  { s with running := false, stopping := true, udpSocket := none, tcpSocket := none }

def clearAll (s : DoIPServer H) : DoIPServer H :=
  { s with stopping := false, clientThreads := [], sessions := [] }

/-- One thread starts and stops the server, so that a start comes before a stop or behind the whole of it. -/
def step (s : DoIPServer H) : ServerEvent H → DoIPServer H × List (HandleEvent H)
  | .start udp tcp =>
    if s.running || s.stopping then (s, []) else (start s udp tcp, udp.events ++ tcp.events)
  | .accept h => if s.acceptor = .waiting then (acceptSession s h, [opened h]) else (s, [])
  | .acceptFails interrupted =>
    if s.acceptor = .waiting ∧ (interrupted || !s.running) then ({ s with acceptor := .exited }, [])
    else (s, [])
  | .store =>
    match s.acceptor with
    | .accepted x => (storeSession s x, release (storeSession s x) (sessionsUnder x.socket s.sessions))
    | _ => (s, [])
  | .spawn =>
    match s.acceptor with
    | .stored x => (spawnThread s x, [])
    | _ => (s, [])
  | .nextPass =>
    match s.acceptor with
    | .spawned x => (endPass s, release (endPass s) [x])
    | _ => (s, [])
  | .leave x => if s.phase x = .serving then (leaveLoop s x, []) else (s, [])
  | .erase x =>
    if s.phase x = .leaving then
      (eraseSession s x, release (eraseSession s x) (sessionsUnder x.socket s.sessions))
    else (s, [])
  | .finish x => if s.phase x = .ending then (endThread s x, release (endThread s x) [x]) else (s, [])
  | .stop =>
    if s.running then
      (closeSockets s, s.udpSocket.toList.map closed ++ s.tcpSocket.toList.map closed)
    else (s, [])
  | .joined =>
    -- `stop` waits for the accept loop and for every handler thread
    if s.stopping ∧ s.acceptor = .exited ∧ ∀ x ∈ s.clientThreads, s.phase x = .ended then
      (clearAll s, release (clearAll s) (s.sessions.map Prod.snd))
    else (s, [])

def machine : Machine (DoIPServer H) (ServerEvent H) (List (HandleEvent H)) := ⟨step⟩

def init : DoIPServer H := ⟨false, false, none, none, .exited, [], [], fun _ => .ended, 0⟩

def handleLog (past : List (Step (DoIPServer H) (ServerEvent H) (List (HandleEvent H)))) :
    List (HandleEvent H) := past.flatMap (·.output)

def getActiveConnections (s : DoIPServer H) : ℕ := s.sessions.length

end Server
end Mcus.Doip.Connections
