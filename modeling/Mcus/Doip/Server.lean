import Mcus.Doip.Wire
import Mcus.Foundations.Runs

/-! # The DoIP server of the vehicle gateway

`doip_server.cpp`, on a little-endian host: the message class with its codec, and the two receive
loops. A loop body is a step whose input is what the operating system delivers to its `recv` calls,
which may be less than asked for. Reading behind a buffer is an outcome of its own. Sockets, threads
and log messages are left out.
-/

namespace Mcus.Doip
open ByteOrder Runs
set_option autoImplicit false

/-! ## Messages -/

def htons (x : UInt16) : UInt16 := swap16 x

def htonl (x : UInt32) : UInt32 := swap32 x

structure DoIPMessage where
  header : DoIPHeader
  payloadData : List UInt8
  deriving DecidableEq, Repr

/-- `DoIPMessage::DoIPMessage`. -/
def doIPMessage (type : UInt16) (payload : List UInt8) : DoIPMessage :=
  ⟨⟨0x02, 0xFD, type, UInt32.ofNat payload.length⟩, payload⟩

def toBytes (msg : DoIPMessage) : List UInt8 :=
  [msg.header.protocolVersion, msg.header.inverseProtocolVersion] ++
    beBytes16 (htons msg.header.payloadType) ++ beBytes32 (htonl msg.header.payloadLength) ++
    msg.payloadData

inductive FromBytes
  | throws (what : String)
  | returns (msg : DoIPMessage)
  | overread
  deriving DecidableEq, Repr

/-- `DoIPMessage::fromBytes(data, len)`, where `data` points to a buffer with these contents. -/
def fromBytes (data : List UInt8) (len : ℕ) : FromBytes :=
  if len < 8 then .throws "Invalid DoIP message: too short"
  else if data.getD 0 0 ≠ 0x02 ∨ data.getD 1 0 ≠ 0xFD then .throws "Invalid DoIP protocol version"
  else
    let payloadType := typeField data
    let payloadLength := lengthField data
    -- the sum is one of 32-bit words
    if len < (8 + payloadLength).toNat then .throws "Invalid DoIP message: payload truncated"
    else if 8 + payloadLength.toNat ≤ data.length then
      .returns (doIPMessage payloadType ((data.drop 8).take payloadLength.toNat))
    else .overread

/-! ## Receive loops -/

/-- The buffer after `bytes` were received into it at `offset`. -/
def receiveInto (buffer : List UInt8) (offset : ℕ) (bytes : List UInt8) : List UInt8 :=
  buffer.take offset ++ bytes ++ buffer.drop (offset + bytes.length)

def resize (buffer : List UInt8) (n : ℕ) : List UInt8 :=
  buffer.take n ++ List.replicate (n - buffer.length) 0

/-- One pass of `udpListenerThread` over a datagram, up to the parsed message. -/
def udpListenerThread (buffer datagram : List UInt8) : List UInt8 × FromBytes :=
  let received := datagram.take buffer.length
  let buffer := receiveInto buffer 0 received
  (buffer, fromBytes buffer received.length)

def udpMachine : Machine (List UInt8) (List UInt8) FromBytes := ⟨udpListenerThread⟩

def udpBufferInit : List UInt8 := List.replicate 4096 0

inductive ThreadStatus
  | running
  | closed
  | overrun
  deriving DecidableEq, Repr

structure ClientHandler where
  buffer : List UInt8
  status : ThreadStatus

/-- What is there to receive for the two `recv` calls of one pass. -/
structure Received where
  header : List UInt8
  payload : List UInt8

/-- The payload `recv` of a pass, with the length asked for and the size of the buffer, and the
message handed to `handleTCPMessage`. -/
structure HandlerOutput where
  payloadRecv : Option (UInt32 × ℕ)
  handled : Option DoIPMessage

/-- The end of a pass: parse what lies in the buffer. -/
def parseReceived (buffer : List UInt8) (payloadLength : UInt32) (payloadRecv : Option (UInt32 × ℕ)) :
    ClientHandler × HandlerOutput :=
  match fromBytes buffer (8 + payloadLength).toNat with
  | .returns msg => (⟨buffer, .running⟩, ⟨payloadRecv, some msg⟩)
  | .throws _ => (⟨buffer, .running⟩, ⟨payloadRecv, none⟩)
  | .overread => (⟨buffer, .overrun⟩, ⟨payloadRecv, none⟩)

/-- One pass of `clientHandlerThread`. -/
def clientHandlerThread (t : ClientHandler) (r : Received) : ClientHandler × HandlerOutput :=
  if t.status ≠ .running then (t, ⟨none, none⟩)
  else
    let header := r.header.take 8
    let buffer := receiveInto t.buffer 0 header
    if header.length < 8 then (⟨buffer, .closed⟩, ⟨none, none⟩)
    else
      let payloadLength := lengthField buffer
      let buffer := if payloadLength.toNat > buffer.length - 8 then
        resize buffer (8 + payloadLength).toNat else buffer
      if payloadLength > 0 then
        let asked := some (payloadLength, buffer.length)
        if buffer.length < 8 + payloadLength.toNat then (⟨buffer, .overrun⟩, ⟨asked, none⟩)
        else
          let payload := r.payload.take payloadLength.toNat
          let buffer := receiveInto buffer 8 payload
          if payload.length < payloadLength.toNat then (⟨buffer, .closed⟩, ⟨asked, none⟩)
          else parseReceived buffer payloadLength asked
      else parseReceived buffer payloadLength none

def tcpMachine : Machine ClientHandler Received HandlerOutput := ⟨clientHandlerThread⟩

def clientHandlerInit : ClientHandler := ⟨List.replicate 8192 0, .running⟩

/-! ## Buffers -/

section Buffers
variable (buffer bytes : List UInt8)

theorem receiveInto_zero : receiveInto buffer 0 bytes = bytes ++ buffer.drop bytes.length := by
  rw [receiveInto, List.take_zero, List.nil_append, Nat.zero_add]

theorem receiveInto_length (offset : ℕ) (hroom : offset + bytes.length ≤ buffer.length) :
    (receiveInto buffer offset bytes).length = buffer.length := by
  simp only [receiveInto, List.length_append, List.length_take, List.length_drop]
  omega

theorem resize_length (n : ℕ) : (resize buffer n).length = n := by
  simp only [resize, List.length_append, List.length_take, List.length_replicate]
  omega

end Buffers

theorem resize_take {buffer : List UInt8} {n k : ℕ} (hk : k ≤ buffer.length) (hn : buffer.length ≤ n) :
    (resize buffer n).take k = buffer.take k := by
  rw [resize, List.take_of_length_le hn, List.take_append_of_le_length hk]

/-! ## The parser -/

section FromBytes
variable {data : List UInt8} {len : ℕ}

/-- The header is long enough and of the right version. -/
structure HeaderOk (data : List UInt8) (len : ℕ) : Prop where
  length : 8 ≤ len
  version : VersionOk data

theorem fromBytes_throws (h : ¬ HeaderOk data len) : ∃ what, fromBytes data len = .throws what := by
  unfold fromBytes
  split
  case isTrue => exact ⟨_, rfl⟩
  case isFalse hlen =>
    split
    case isTrue => exact ⟨_, rfl⟩
    case isFalse hversion =>
      rw [not_or, not_not, not_not] at hversion
      exact absurd ⟨Nat.le_of_not_lt hlen, hversion⟩ h

theorem fromBytes_of_header (h : HeaderOk data len) : fromBytes data len =
    if len < (8 + lengthField data).toNat then .throws "Invalid DoIP message: payload truncated"
    else if 8 + (lengthField data).toNat ≤ data.length then
      .returns (doIPMessage (typeField data) ((data.drop 8).take (lengthField data).toNat))
    else .overread := by
  obtain ⟨hlen, h0, h1⟩ := h
  unfold fromBytes
  simp only [if_neg (Nat.not_lt.mpr hlen), h0, h1, ne_eq, not_true_eq_false, or_self, if_false]

theorem fromBytes_of_small (h : HeaderOk data len) (hdata : len ≤ data.length)
    (hsmall : (lengthField data).toNat < 2 ^ 32 - 8) : fromBytes data len =
      if len < 8 + (lengthField data).toNat then .throws "Invalid DoIP message: payload truncated"
      else .returns (doIPMessage (typeField data) ((data.drop 8).take (lengthField data).toNat)) := by
  rw [fromBytes_of_header h, header_add_toNat hsmall]
  split
  case isTrue => rfl
  case isFalse hfits => rw [if_pos (by omega)]

theorem fromBytes_wire (type : UInt16) {payload : List UInt8} (hlen : payload.length < 2 ^ 32 - 8) :
    fromBytes (wire type payload) (wire type payload).length =
      .returns (doIPMessage type payload) := by
  have hn := lengthOf_toNat hlen
  have hfield : lengthField (wire type payload) = UInt32.ofNat payload.length := lengthField_frame _ _ _
  have hsize : (wire type payload).length = 8 + payload.length := frame_length _ _ _
  have hheader : HeaderOk (wire type payload) (wire type payload).length :=
    ⟨by omega, versionOk_frame _ _ _⟩
  rw [fromBytes_of_small hheader (le_refl _) (by rw [hfield, hn]; exact hlen), hfield, hn, hsize,
    if_neg (lt_irrefl _), wire, typeField_frame, frame_drop, List.take_length]

end FromBytes
end Mcus.Doip
