import Mcus.Doip.Server

/-! # The DoIP server over mbedTLS

`DoIPHandler` of `doip_server_mbedtls.cpp`. Its 4096-byte buffer lives on the stack and starts with
whatever was there; every `mbedtls_ssl_read` overwrites it from the front. A step handles one read.
It also says how far into the buffer it looked and how much it put into the response, since neither
is bounded by what was read. Log messages are left out.
-/

namespace Mcus.Doip
open ByteOrder Runs
set_option autoImplicit false

structure DoIPHandler where
  buffer : List UInt8
  sourceAddress : UInt16
  activated : Bool
  status : ThreadStatus

/-- A handler on a stack that holds `memory`. -/
def DoIPHandler.init (memory : List UInt8) : DoIPHandler := ⟨memory, 0, false, .running⟩

/-- The offset behind the last buffer byte used, the final `pos` of the response, and what was written
to the connection. -/
structure Reply where
  used : ℕ
  pos : ℕ
  written : Option (List UInt8)
  deriving DecidableEq

def Reply.none : Reply := ⟨0, 0, Option.none⟩

namespace DoIPHandler

def handleRoutingActivation (h : DoIPHandler) (payload : List UInt8) (len : UInt32) :
    DoIPHandler × Reply :=
  if len < 7 then (h, .none)
  else
    let sourceAddress := word16 (payload.getD 0 0) (payload.getD 1 0)
    let response := frame routingActivationRes 9
      (beBytes16 sourceAddress ++ [0x00, 0x01, 0x10, 0x00, 0x00, 0x00, 0x00])
    ({ h with sourceAddress := sourceAddress, activated := true },
      ⟨10, response.length, some response⟩)

/-- The echo, with the two addresses swapped. -/
def echo (payload : List UInt8) (len : UInt32) : List UInt8 :=
  let diagLen := len - 4
  frame diagnosticMessage (4 + diagLen)
    ([payload.getD 2 0, payload.getD 3 0, payload.getD 0 0, payload.getD 1 0] ++
      (payload.drop 4).take diagLen.toNat)

def handleDiagnosticMessage (h : DoIPHandler) (payload : List UInt8) (len : UInt32) :
    DoIPHandler × Reply :=
  if !h.activated then (h, .none)
  else if len < 5 then (h, .none)
  -- `memcpy` runs over the end of both arrays
  else if 4096 < 8 + len.toNat then
    ({ h with status := .overrun }, ⟨8 + len.toNat, 8 + len.toNat, Option.none⟩)
  else (h, ⟨8 + len.toNat, (echo payload len).length, some (echo payload len)⟩)

/-- The body of the loop of `handle`; an empty read stands for `n <= 0`. -/
def handle (h : DoIPHandler) (data : List UInt8) : DoIPHandler × Reply :=
  if h.status ≠ .running then (h, .none)
  else
    let received := data.take 4096
    let h := { h with buffer := receiveInto h.buffer 0 received }
    if received.length = 0 then ({ h with status := .closed }, .none)
    else if received.length < 8 then (h, .none)
    else if h.buffer.getD 0 0 ≠ protocolVersion then (h, .none)
    else
      let payload := h.buffer.drop 8
      let payloadLength := lengthField h.buffer
      if typeField h.buffer = routingActivationReq then h.handleRoutingActivation payload payloadLength
      else if typeField h.buffer = diagnosticMessage then h.handleDiagnosticMessage payload payloadLength
      else (h, .none)

end DoIPHandler

def mbedtlsMachine : Machine DoIPHandler (List UInt8) Reply := ⟨DoIPHandler.handle⟩

/-! ## What a read can do -/

section Handle
variable {h : DoIPHandler} {data : List UInt8}

/-- The read hands a header to the dispatch. -/
structure Dispatched (h : DoIPHandler) (data : List UInt8) : Prop where
  running : h.status = .running
  length : 8 ≤ (data.take 4096).length
  version : (data.take 4096).getD 0 0 = protocolVersion

/-- Fields and payload come from the read as far as it goes, and then from the buffer. -/
theorem received_fields (buffer : List UInt8) {received : List UInt8} (hlen : 8 ≤ received.length) :
    (receiveInto buffer 0 received).getD 0 0 = received.getD 0 0 ∧
    typeField (receiveInto buffer 0 received) = typeField received ∧
    lengthField (receiveInto buffer 0 received) = lengthField received ∧
    (receiveInto buffer 0 received).drop 8 = received.drop 8 ++ buffer.drop received.length := by
  rw [receiveInto_zero, typeField_append _ hlen, lengthField_append _ hlen, getD_append _ hlen (by omega),
    List.drop_append_of_le_length hlen]
  exact ⟨rfl, rfl, rfl, rfl⟩

theorem handle_of_dispatched (hd : Dispatched h data) :
    h.handle data =
      let received := data.take 4096
      let h' := { h with buffer := receiveInto h.buffer 0 received }
      let payload := received.drop 8 ++ h.buffer.drop received.length
      if typeField received = routingActivationReq then
        h'.handleRoutingActivation payload (lengthField received)
      else if typeField received = diagnosticMessage then
        h'.handleDiagnosticMessage payload (lengthField received)
      else (h', .none) := by
  obtain ⟨hrunning, hlen, hversion⟩ := hd
  obtain ⟨h0, htype, hlength, hpayload⟩ := received_fields h.buffer hlen
  unfold DoIPHandler.handle
  simp only [hrunning, ne_eq, not_true_eq_false, if_false, htype, hlength, hpayload, h0, hversion]
  rw [if_neg (by omega), if_neg (by omega)]

theorem handle_of_not_dispatched (hd : ¬ Dispatched h data) :
    (h.handle data).2 = .none ∧ (h.handle data).1.activated = h.activated := by
  unfold DoIPHandler.handle
  dsimp only
  split
  case isTrue => exact ⟨rfl, rfl⟩
  case isFalse hrunning =>
    split
    case isTrue => exact ⟨rfl, rfl⟩
    case isFalse =>
      split
      case isTrue => exact ⟨rfl, rfl⟩
      case isFalse hshort =>
        have hlen : 8 ≤ (data.take 4096).length := Nat.le_of_not_lt hshort
        split
        case isTrue => exact ⟨rfl, rfl⟩
        case isFalse hversion =>
          rw [(received_fields h.buffer hlen).1] at hversion
          exact absurd ⟨not_not.mp hrunning, hlen, not_not.mp hversion⟩ hd

end Handle
end Mcus.Doip
