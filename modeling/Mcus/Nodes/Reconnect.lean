import Mcus.Foundations.Runs

/-! # The reconnecting client

`doip_client_reconnect.c` of the zonal gateway. Each connection attempt and each reading of the clock is an
input of the call that makes it, and a text is its bytes up to the terminator. The flag of the connection
repeats what the state says: every path that closes the connection moves the state on as well, but
`doip_client_reconnect_cleanup` clears the flag only. A null client, the context of the client library and
the lines printed are left out.
-/

namespace Mcus.Nodes
open Runs
set_option autoImplicit false

abbrev doipInitialBackoffMs : UInt32 := 1000
abbrev doipMaxBackoffMs : UInt32 := 30000
abbrev doipKeepaliveIntervalMs : UInt32 := 30000

/-- `DoIPConnectionState_t`. -/
inductive DoIPConnectionState
  | disconnected
  | connecting
  | connected
  | reconnecting
  deriving DecidableEq, Repr

/-- `DoIPClientReconnect_t`. -/
structure DoIPClientReconnect where
  state : DoIPConnectionState
  isConnected : Bool
  serverHost : List UInt8
  serverPort : UInt16
  certFile : List UInt8
  keyFile : List UInt8
  caFile : List UInt8
  reconnectCount : UInt32
  backoffMs : UInt32
  lastAttemptTimeMs : UInt32
  lastKeepaliveTimeMs : UInt32
  totalReconnects : UInt32
  totalKeepaliveFailures : UInt32
  deriving DecidableEq, Repr

/-- `none` where the source returns -1. -/
def doipClientReconnectInit (serverHost : Option (List UInt8)) (serverPort : UInt16)
    (certFile keyFile caFile : Option (List UInt8)) : Option DoIPClientReconnect :=
  serverHost.map fun serverHost =>
    { state := .disconnected
      isConnected := false
      serverHost := serverHost.take 63
      serverPort := serverPort
      certFile := (certFile.getD []).take 127
      keyFile := (keyFile.getD []).take 127
      caFile := (caFile.getD []).take 127
      reconnectCount := 0
      backoffMs := doipInitialBackoffMs
      lastAttemptTimeMs := 0
      lastKeepaliveTimeMs := 0
      totalReconnects := 0
      totalKeepaliveFailures := 0 }

section Operations
variable (client : DoIPClientReconnect)

def closeConnection : DoIPClientReconnect := { client with isConnected := false }

def doipClientReconnectStart (now : UInt32) : DoIPClientReconnect × Int :=
  if client.state = .connected then (client, 0)
  else
    ({ client with
        state := .connecting
        lastAttemptTimeMs := now }, 0)

/-- What a failed attempt doubles, up to the maximum. -/
def nextBackoff (backoffMs : UInt32) : UInt32 :=
  let backoffMs := backoffMs * 2
  if backoffMs > doipMaxBackoffMs then doipMaxBackoffMs else backoffMs

/-- `attempt` is what `attempt_connection` returns. -/
def doipClientReconnectProcess (currentTime : UInt32) (attempt : Int) : DoIPClientReconnect × Int :=
  match client.state with
  | .disconnected => (client, -1)
  | .connecting | .reconnecting =>
    if currentTime - client.lastAttemptTimeMs < client.backoffMs then (client, -2)
    else
      let client := { client with lastAttemptTimeMs := currentTime }
      if attempt = 0 then
        ({ client with
            state := .connected
            isConnected := true
            reconnectCount := 0
            backoffMs := doipInitialBackoffMs
            lastKeepaliveTimeMs := currentTime }, 0)
      else
        ({ client with
            reconnectCount := client.reconnectCount + 1
            totalReconnects := client.totalReconnects + 1
            backoffMs := nextBackoff client.backoffMs
            state := .reconnecting }, -2)
  | .connected =>
    if currentTime - client.lastKeepaliveTimeMs > doipKeepaliveIntervalMs then
      ({ client with lastKeepaliveTimeMs := currentTime }, 0)
    else (client, 0)

def doipClientReconnectIsConnected : Bool := client.isConnected && client.state == .connected

/-- Sending is a placeholder behind the checks. -/
def doipClientReconnectSend (data : Option (List UInt8)) : Int :=
  if data.isNone || !client.isConnected then -1 else -1

/-- Receiving is a placeholder too, with the answer of a timeout; `buf` is whether there is a buffer. -/
def doipClientReconnectRecv (buf : Bool) (_cap : ℕ) (_timeoutMs : UInt32) : Int :=
  if !buf || !client.isConnected then -1 else 0

def doipClientReconnectReset : DoIPClientReconnect × Int :=
  ({ closeConnection client with
      state := .reconnecting
      backoffMs := doipInitialBackoffMs
      lastAttemptTimeMs := 0 }, 0)

def doipClientReconnectCleanup : DoIPClientReconnect := closeConnection client

end Operations

inductive ReconnectCall
  | start (now : UInt32)
  | process (now : UInt32) (attempt : Int)
  | reset
  | send (data : Option (List UInt8))
  | recv (buf : Bool) (cap : ℕ) (timeoutMs : UInt32)
  | cleanup
  deriving DecidableEq, Repr

/-- The output is the return value, 0 where there is none. -/
def reconnectMachine : Machine DoIPClientReconnect ReconnectCall Int where
  step client
    | .start now => doipClientReconnectStart client now
    | .process now attempt => doipClientReconnectProcess client now attempt
    | .reset => doipClientReconnectReset client
    | .send data => (client, doipClientReconnectSend client data)
    | .recv buf cap timeoutMs => (client, doipClientReconnectRecv client buf cap timeoutMs)
    | .cleanup => (doipClientReconnectCleanup client, 0)

abbrev ReconnectStep := Step DoIPClientReconnect ReconnectCall Int

/-- The flag and the state say the same. -/
def Agrees (client : DoIPClientReconnect) : Prop := client.isConnected = true ↔ client.state = .connected

/-- Flag and state agree, and where `process` returned 0 the client was connected. -/
structure StaysConsistent (past : List ReconnectStep) (client : DoIPClientReconnect) : Prop where
  agrees : Agrees client
  reported : ∀ e ∈ past, ∀ now attempt, e.input = .process now attempt → e.output = 0 →
    doipClientReconnectIsConnected e.post = true

/-- The connection is not cleaned up while it is open. -/
def SparesConnection (client : DoIPClientReconnect) (call : ReconnectCall) : Prop :=
  call = .cleanup → client.state ≠ .connected

/-! ## The operations -/

section Operations
variable {client : DoIPClientReconnect}

theorem agrees_init {serverHost : Option (List UInt8)} {serverPort : UInt16}
    {certFile keyFile caFile : Option (List UInt8)}
    (hinit : doipClientReconnectInit serverHost serverPort certFile keyFile caFile = some client) :
    Agrees client := by
  obtain ⟨host, -, rfl⟩ := Option.map_eq_some_iff.mp hinit
  exact iff_of_false Bool.false_ne_true nofun

/-- The flag of a client that agrees is off outside the connected state. -/
theorem Agrees.off (h : Agrees client) (hstate : client.state ≠ .connected) : client.isConnected = false :=
  eq_false_of_ne_true (mt h.mp hstate)

theorem agrees_start (h : Agrees client) (now : UInt32) : Agrees (doipClientReconnectStart client now).1 := by
  unfold doipClientReconnectStart
  split
  case isTrue => exact h
  case isFalse hstate => exact iff_of_false (ne_true_of_eq_false (h.off hstate)) nofun

/-- A client that waits for its next attempt, or makes it. -/
theorem process_waiting (hstate : client.state = .connecting ∨ client.state = .reconnecting) (now : UInt32)
    (attempt : Int) : doipClientReconnectProcess client now attempt =
      if now - client.lastAttemptTimeMs < client.backoffMs then (client, -2)
      else if attempt = 0 then
        ({ client with
            lastAttemptTimeMs := now
            state := .connected
            isConnected := true
            reconnectCount := 0
            backoffMs := doipInitialBackoffMs
            lastKeepaliveTimeMs := now }, 0)
      else
        ({ client with
            lastAttemptTimeMs := now
            reconnectCount := client.reconnectCount + 1
            totalReconnects := client.totalReconnects + 1
            backoffMs := nextBackoff client.backoffMs
            state := .reconnecting }, -2) := by
  unfold doipClientReconnectProcess
  rcases hstate with hstate | hstate <;> rw [hstate]

theorem process_connected (hstate : client.state = .connected) (now : UInt32) (attempt : Int) :
    doipClientReconnectProcess client now attempt =
      if now - client.lastKeepaliveTimeMs > doipKeepaliveIntervalMs then
        ({ client with lastKeepaliveTimeMs := now }, 0)
      else (client, 0) := by
  unfold doipClientReconnectProcess
  rw [hstate]

theorem process_disconnected (hstate : client.state = .disconnected) (now : UInt32) (attempt : Int) :
    doipClientReconnectProcess client now attempt = (client, -1) := by
  unfold doipClientReconnectProcess
  rw [hstate]

/-- What `process` leaves and returns: flag and state agree, and 0 means connected. -/
def Truthful (r : DoIPClientReconnect × Int) : Prop :=
  Agrees r.1 ∧ (r.2 = 0 → doipClientReconnectIsConnected r.1 = true)

theorem Agrees.truthful_of_pending (h : Agrees client) {code : Int} (hcode : code ≠ 0) :
    Truthful (client, code) :=
  ⟨h, fun hzero => absurd hzero hcode⟩

theorem Agrees.truthful_of_connected (h : Agrees client) (hstate : client.state = .connected) (code : Int) :
    Truthful (client, code) := by
  refine ⟨h, fun _ => ?_⟩
  rw [doipClientReconnectIsConnected, h.mpr hstate, hstate]
  rfl

theorem process_truthful (h : Agrees client) (now : UInt32) (attempt : Int) :
    Truthful (doipClientReconnectProcess client now attempt) := by
  have hwaiting (hstate : client.state = .connecting ∨ client.state = .reconnecting) :
      Truthful (doipClientReconnectProcess client now attempt) := by
    have hoff : client.isConnected = false := h.off (by rcases hstate with h | h <;> rw [h] <;> exact nofun)
    rw [process_waiting hstate]
    split
    case isTrue => exact h.truthful_of_pending (by decide)
    case isFalse =>
      split
      case isTrue => exact ⟨iff_of_true rfl rfl, fun _ => rfl⟩
      case isFalse =>
        refine Agrees.truthful_of_pending ?_ (by decide)
        exact iff_of_false (ne_true_of_eq_false hoff) nofun
  cases hstate : client.state with
  | disconnected =>
    rw [process_disconnected hstate]
    exact h.truthful_of_pending (by decide)
  | connecting => exact hwaiting (Or.inl hstate)
  | reconnecting => exact hwaiting (Or.inr hstate)
  | connected =>
    rw [process_connected hstate]
    split
    case isTrue => exact Agrees.truthful_of_connected h hstate 0
    case isFalse => exact h.truthful_of_connected hstate 0

theorem agrees_reset (client : DoIPClientReconnect) : Agrees (doipClientReconnectReset client).1 :=
  iff_of_false Bool.false_ne_true nofun

/-- Cleaning up leaves the state as it is, so that flag and state agree only if it was not connected. -/
theorem agrees_cleanup_iff : Agrees (doipClientReconnectCleanup client) ↔ client.state ≠ .connected :=
  ⟨fun h hstate => Bool.false_ne_true (h.mpr hstate), iff_of_false Bool.false_ne_true⟩

end Operations

/-! ## Runs -/

section Runs
variable {past : List ReconnectStep} {client : DoIPClientReconnect}

/-- A call that is not `process`. -/
theorem StaysConsistent.concat_iff (h : StaysConsistent past client) (call : ReconnectCall)
    (hcall : ∀ now attempt, call ≠ .process now attempt) :
    StaysConsistent (past ++ [reconnectMachine.stepAt client call]) (reconnectMachine.step client call).1 ↔
      Agrees (reconnectMachine.step client call).1 := by
  refine ⟨fun hnext => hnext.agrees, fun hagrees => ⟨hagrees, fun e he now attempt hinput => ?_⟩⟩
  rcases List.mem_append.mp he with he | he
  · exact h.reported e he now attempt hinput
  · rw [List.mem_singleton.mp he] at hinput
    exact absurd hinput (hcall now attempt)

theorem StaysConsistent.process (h : StaysConsistent past client) (now : UInt32) (attempt : Int) :
    StaysConsistent (past ++ [reconnectMachine.stepAt client (.process now attempt)])
      (doipClientReconnectProcess client now attempt).1 := by
  obtain ⟨hagrees, hreports⟩ := process_truthful h.agrees now attempt
  refine ⟨hagrees, fun e he now' attempt' hinput hcode => ?_⟩
  rcases List.mem_append.mp he with he | he
  · exact h.reported e he now' attempt' hinput hcode
  · obtain rfl := List.mem_singleton.mp he
    exact hreports hcode

theorem staysConsistent_step (h : StaysConsistent past client) (call : ReconnectCall) :
    StaysConsistent (past ++ [reconnectMachine.stepAt client call]) (reconnectMachine.step client call).1 ↔
      SparesConnection client call := by
  cases call with
  | start now => exact iff_of_true ((h.concat_iff (.start now) nofun).mpr (agrees_start h.agrees now)) nofun
  | process now attempt => exact iff_of_true (h.process now attempt) nofun
  | reset => exact iff_of_true ((h.concat_iff .reset nofun).mpr (agrees_reset client)) nofun
  | send data => exact iff_of_true ((h.concat_iff (.send data) nofun).mpr h.agrees) nofun
  | recv buf cap timeoutMs =>
    exact iff_of_true ((h.concat_iff (.recv buf cap timeoutMs) nofun).mpr h.agrees) nofun
  | cleanup =>
    refine (h.concat_iff .cleanup nofun).trans (agrees_cleanup_iff.trans ?_)
    exact ⟨fun hstate _ => hstate, fun hspares => hspares rfl⟩

end Runs

/-- **Reconnecting.** At every point of a run the flag says the same as the state, and `process` has
returned 0 only where the client was connected, exactly if no connection that is open is cleaned up. -/
theorem reconnect_consistent_iff {serverHost : Option (List UInt8)} {serverPort : UInt16}
    {certFile keyFile caFile : Option (List UInt8)} {client : DoIPClientReconnect}
    (hinit : doipClientReconnectInit serverHost serverPort certFile keyFile caFile = some client)
    (calls : List ReconnectCall) :
    (∀ past, past <+: calls →
      StaysConsistent (reconnectMachine.trace client past) (reconnectMachine.run client past)) ↔
    reconnectMachine.Admits (fun _ client call => SparesConnection client call) client calls := by
  have hstart : StaysConsistent [] client := ⟨agrees_init hinit, fun _ he => absurd he List.not_mem_nil⟩
  refine Machine.admits_iff_forall_prefix hstart fun past call _ _ _ hpast => ?_
  rw [Machine.trace_concat, Machine.run_concat]
  exact staysConsistent_step hpast call

/-- `doip_client_reconnect_init` with the host "g" and no certificates. -/
def initialClient : DoIPClientReconnect :=
  ⟨.disconnected, false, [0x67], 13400, [], [], [], 0, doipInitialBackoffMs, 0, 0, 0, 0⟩

def resetCalls : List ReconnectCall := [.start 0, .process 1000 0, .send (some [0x3E, 0x00]), .reset]

/-- A connection that is reset before it is cleaned up. -/
theorem reconnect_consistent_reset :
    StaysConsistent (reconnectMachine.trace initialClient (resetCalls ++ [.cleanup]))
      (reconnectMachine.run initialClient (resetCalls ++ [.cleanup])) := by
  have hinit : doipClientReconnectInit (some [0x67]) 13400 none none none = some initialClient := rfl
  refine (reconnect_consistent_iff hinit _).mpr (Machine.admits_concat.mpr ⟨?_, fun _ => by decide⟩) _
    (List.prefix_refl _)
  intro past call rest hsplit hcleanup
  have hmem : call ∈ resetCalls := by simp [hsplit]
  exact absurd (hcleanup ▸ hmem) (by decide)

/-- Cleaned up while it is open, the connection is closed and `process` goes on to return 0. -/
theorem cleanup_keeps_state : ¬ ∀ serverHost serverPort certFile keyFile caFile client calls past,
    doipClientReconnectInit serverHost serverPort certFile keyFile caFile = some client → past <+: calls →
      StaysConsistent (reconnectMachine.trace client past) (reconnectMachine.run client past) := by
  intro hall
  have hrun := hall (some [0x67]) 13400 none none none initialClient
    [.start 0, .process 1000 0, .cleanup, .process 1100 0] _ rfl (List.prefix_refl _)
  have hreported := hrun.reported _ (.tail _ (.tail _ (.tail _ (.head _)))) 1100 0 rfl rfl
  exact absurd hreported (by decide)

end Mcus.Nodes
