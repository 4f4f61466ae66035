import Mcus.Doip.Encoders
import Mcus.Foundations.RecordLayer

/-! # How the simulator's client receives

`PQC_DoIP_Client::recv_doip_packet` makes one `SSL_read` for the header and one for the payload, and
gives up on either if it is not served in full; a payload that does not fit the caller's buffer is not
read at all. So a call answers its frame only if no record ends inside the header or inside the
payload, and behind a frame that is too large the next call takes its payload for a header.
-/

namespace Mcus.Doip
open ByteOrder RecordLayer
set_option autoImplicit false

universe v

/-- What a call returns, `*payload_type` if it is written, and the bytes stored in `payload`. -/
structure ReceivedPacket where
  result : Int
  payloadType : Option UInt16
  payload : List UInt8
  deriving DecidableEq

section Calls
variable {σ : Type v} (ssl : RecordStack σ UInt8) (s : σ)

def recvDoipPacket (maxLen : UInt32) : σ × ReceivedPacket :=
  let (s, header) := ssl.read s 8
  if header.ret ≠ 8 then (s, ⟨-1, none, []⟩)
  else
    let payloadType := typeField header.data
    let payloadLen := lengthField header.data
    if payloadLen > maxLen then (s, ⟨-1, some payloadType, []⟩)
    else if payloadLen > 0 then
      let (s, payload) := ssl.read s (asInt payloadLen)
      if payload.ret ≠ asInt payloadLen then (s, ⟨-1, some payloadType, payload.data⟩)
      else (s, ⟨asInt payloadLen, some payloadType, payload.data⟩)
    else (s, ⟨asInt payloadLen, some payloadType, []⟩)

end Calls

/-! ## Frames and calls -/

/-- A well-formed frame: its header declares its payload. -/
structure DoipFrame where
  type : UInt16
  payload : List UInt8
  small : payload.length < 2 ^ 32

def DoipFrame.bytes (f : DoipFrame) : List UInt8 := wire f.type f.payload

/-- A frame of the peer, and the `max_len` of the call that is made for it. -/
structure FrameCall where
  frame : DoipFrame
  maxLen : UInt32

namespace FrameCall

def Fits (c : FrameCall) : Prop := c.frame.payload.length ≤ c.maxLen.toNat

instance (c : FrameCall) : Decidable c.Fits := inferInstanceAs (Decidable (_ ≤ _))

/-- The packet is the frame of the call, or the call failed because the frame does not fit. -/
structure Answers (c : FrameCall) (packet : ReceivedPacket) : Prop where
  fits : c.Fits → packet = ⟨c.frame.payload.length, some c.frame.type, c.frame.payload⟩
  tooLarge : ¬ c.Fits → packet.result = -1

end FrameCall

/-- The bytes that the peer sends for these calls. -/
def stream (calls : List FrameCall) : List UInt8 := (calls.map (·.frame.bytes)).flatten

section Runs
variable {σ : Type v} (ssl : RecordStack σ UInt8) (tail : List UInt8)

/-- Every call begins at its own frame of the stream and answers it. -/
def InStep : σ → List FrameCall → Prop
  | _, [] => True
  | s, c :: calls =>
    ssl.unread s = stream (c :: calls) ++ tail ∧ c.Answers (recvDoipPacket ssl s c.maxLen).2 ∧
      InStep (recvDoipPacket ssl s c.maxLen).1 calls

/-- The header and the payload of every frame are read whole, and only the last frame may be too large
for its call. -/
def ServedWhole : σ → List FrameCall → Prop
  | _, [] => True
  | s, c :: calls =>
    if c.Fits then
      c.frame.payload.length < 2 ^ 31 ∧ ssl.ReadsWhole s 8 ∧
        ssl.ReadsWhole (ssl.after s 8) c.frame.payload.length ∧
        ServedWhole (ssl.after (ssl.after s 8) c.frame.payload.length) calls
    else calls = []

end Runs

/-! ## One call -/

theorem asInt_eq_iff {x : UInt32} {n : ℕ} : asInt x = n ↔ x.toNat = n ∧ n < 2 ^ 31 := by
  have hx := x.toNat_lt
  have hcond : asInt x = if 2 * x.toNat < 2 ^ 32 then (x.toNat : Int) else (x.toNat : Int) - (2 ^ 32 : ℕ) :=
    BitVec.toInt_eq_toNat_cond x.toBitVec
  rw [hcond]
  split <;> omega

/-- The header of a frame. -/
def DoipFrame.header (f : DoipFrame) : List UInt8 := frame f.type (UInt32.ofNat f.payload.length) []

namespace DoipFrame
variable (f : DoipFrame)

theorem bytes_eq : f.bytes = f.header ++ f.payload := rfl

theorem header_length : f.header.length = 8 := rfl

theorem header_ne_nil : f.header ≠ [] := List.cons_ne_nil _ _

theorem payloadLen_toNat : (UInt32.ofNat f.payload.length).toNat = f.payload.length :=
  UInt32.toNat_ofNat_of_lt' f.small

theorem asInt_payloadLen (hsmall : f.payload.length < 2 ^ 31) :
    asInt (UInt32.ofNat f.payload.length) = f.payload.length :=
  asInt_eq_iff.mpr ⟨f.payloadLen_toNat, hsmall⟩

end DoipFrame

section Call
variable {σ : Type v} {ssl : RecordStack σ UInt8} {s : σ} {c : FrameCall} {rest : List UInt8}

theorem payloadLen_gt_iff : UInt32.ofNat c.frame.payload.length > c.maxLen ↔ ¬ c.Fits := by
  rw [gt_iff_lt, UInt32.lt_iff_toNat_lt, c.frame.payloadLen_toNat, FrameCall.Fits, Nat.not_le]

/-- A header that is cut fails the call. -/
theorem recv_cut (hcut : ¬ ssl.ReadsWhole s 8) (maxLen : UInt32) :
    recvDoipPacket ssl s maxLen = (ssl.after s 8, ⟨-1, none, []⟩) := by
  have hshort : (ssl.read s 8).2.ret ≠ 8 := by
    intro hret
    exact hcut (Or.inr ((ReadResult.ret_eq_iff (by decide)).mp hret))
  unfold recvDoipPacket
  dsimp only
  rw [if_pos hshort]
  rfl

/-- Behind the header of its frame, a call knows type and length. -/
theorem recv_header (hwhole : ssl.ReadsWhole s 8) (hunread : ssl.unread s = c.frame.bytes ++ rest) :
    ssl.unread (ssl.after s 8) = c.frame.payload ++ rest ∧
    recvDoipPacket ssl s c.maxLen =
      if ¬ c.Fits then (ssl.after s 8, ⟨-1, some c.frame.type, []⟩)
      else if UInt32.ofNat c.frame.payload.length > 0 then
        let (s', payload) := ssl.read (ssl.after s 8) (asInt (UInt32.ofNat c.frame.payload.length))
        if payload.ret ≠ asInt (UInt32.ofNat c.frame.payload.length) then
          (s', ⟨-1, some c.frame.type, payload.data⟩)
        else (s', ⟨asInt (UInt32.ofNat c.frame.payload.length), some c.frame.type, payload.data⟩)
      else (ssl.after s 8, ⟨asInt (UInt32.ofNat c.frame.payload.length), some c.frame.type, []⟩) := by
  rw [c.frame.bytes_eq, List.append_assoc] at hunread
  have hheader : ssl.ReadsWhole s c.frame.header.length := hwhole
  refine ⟨hheader.unread_after hunread, ?_⟩
  have hread : (ssl.read s 8).2.data = c.frame.header :=
    (hheader.read_eq c.frame.header_ne_nil hunread).1
  have hret : ¬ (ssl.read s 8).2.ret ≠ 8 := by
    rw [not_not]
    exact (ReadResult.ret_eq_iff (by decide)).mpr (congrArg List.length hread)
  have htype : typeField c.frame.header = c.frame.type := typeField_frame _ _ _
  have hlength : lengthField c.frame.header = UInt32.ofNat c.frame.payload.length := lengthField_frame _ _ _
  unfold recvDoipPacket
  dsimp only
  rw [if_neg hret, hread, htype, hlength]
  simp only [payloadLen_gt_iff]
  rfl

theorem recv_tooLarge (hlarge : ¬ c.Fits) (hunread : ssl.unread s = c.frame.bytes ++ rest) :
    (recvDoipPacket ssl s c.maxLen).1 = ssl.after s 8 ∧ (recvDoipPacket ssl s c.maxLen).2.result = -1 := by
  by_cases hwhole : ssl.ReadsWhole s 8
  · rw [(recv_header hwhole hunread).2, if_pos hlarge]
    exact ⟨rfl, rfl⟩
  · rw [recv_cut hwhole]
    exact ⟨rfl, rfl⟩

/-- At least the payload of a frame that is too large stays in the stream. -/
theorem unread_of_tooLarge (hlarge : ¬ c.Fits) (hunread : ssl.unread s = c.frame.bytes ++ rest) :
    ssl.unread (recvDoipPacket ssl s c.maxLen).1 ≠ rest := by
  rw [(recv_tooLarge hlarge hunread).1]
  intro hrest
  have hafter : ssl.after s 8 = (ssl.read s 8).1 := RecordStack.after_of_ne (by decide)
  have hsplit := congrArg List.length (ssl.unread_read s 8)
  have hread : (ssl.read s 8).2.data.length ≤ 8 := (ssl.served s (8 : ℕ)).length_le
  rw [hunread, ← hafter, hrest, c.frame.bytes_eq] at hsplit
  simp only [List.length_append, c.frame.header_length] at hsplit
  have hpositive := Nat.lt_of_not_le hlarge
  omega

theorem recv_whole (hfits : c.Fits) (hsmall : c.frame.payload.length < 2 ^ 31)
    (hunread : ssl.unread s = c.frame.bytes ++ rest) (hheader : ssl.ReadsWhole s 8)
    (hpayload : ssl.ReadsWhole (ssl.after s 8) c.frame.payload.length) :
    ssl.unread (ssl.after (ssl.after s 8) c.frame.payload.length) = rest ∧
    recvDoipPacket ssl s c.maxLen = (ssl.after (ssl.after s 8) c.frame.payload.length,
      ⟨c.frame.payload.length, some c.frame.type, c.frame.payload⟩) := by
  obtain ⟨hbehind, hrecv⟩ := recv_header hheader hunread
  refine ⟨hpayload.unread_after hbehind, ?_⟩
  rw [hrecv, if_neg (not_not.mpr hfits), c.frame.asInt_payloadLen hsmall]
  by_cases hempty : c.frame.payload = []
  · have hzero : ¬ UInt32.ofNat c.frame.payload.length > 0 := by rw [hempty]; decide
    rw [if_neg hzero, hempty]
    rfl
  · have hlength : c.frame.payload.length ≠ 0 := mt List.length_eq_zero_iff.mp hempty
    have hpositive : UInt32.ofNat c.frame.payload.length > 0 := by
      rw [gt_iff_lt, UInt32.lt_iff_toNat_lt, c.frame.payloadLen_toNat]
      exact Nat.pos_of_ne_zero hlength
    obtain ⟨hdata, -⟩ := hpayload.read_eq hempty hbehind
    have hret : ¬ (ssl.read (ssl.after s 8) c.frame.payload.length).2.ret ≠ c.frame.payload.length := by
      rw [not_not, ReadResult.ret_eq_iff (Nat.pos_of_ne_zero hlength), hdata]
    rw [if_pos hpositive]
    dsimp only
    rw [if_neg hret, hdata, RecordStack.after_of_ne hlength]

theorem whole_of_recv (hfits : c.Fits) (hunread : ssl.unread s = c.frame.bytes ++ rest)
    (hanswer : (recvDoipPacket ssl s c.maxLen).2 =
      ⟨c.frame.payload.length, some c.frame.type, c.frame.payload⟩) :
    c.frame.payload.length < 2 ^ 31 ∧ ssl.ReadsWhole s 8 ∧
      ssl.ReadsWhole (ssl.after s 8) c.frame.payload.length := by
  have hresult := congrArg ReceivedPacket.result hanswer
  have hheader : ssl.ReadsWhole s 8 := by
    by_contra hcut
    rw [recv_cut hcut] at hresult
    dsimp only at hresult
    omega
  rw [(recv_header hheader hunread).2, if_neg (not_not.mpr hfits)] at hresult
  by_cases hempty : c.frame.payload = []
  · rw [hempty]
    exact ⟨by decide, hheader, Or.inl rfl⟩
  · have hlength : 0 < c.frame.payload.length := List.length_pos_iff.mpr hempty
    have hpositive : UInt32.ofNat c.frame.payload.length > 0 := by
      rw [gt_iff_lt, UInt32.lt_iff_toNat_lt, c.frame.payloadLen_toNat]
      exact hlength
    rw [if_pos hpositive] at hresult
    dsimp only at hresult
    split at hresult
    case isTrue =>
      dsimp only at hresult
      omega
    case isFalse hret =>
      have hsmall := (asInt_eq_iff.mp hresult).2
      rw [c.frame.asInt_payloadLen hsmall, not_not, ReadResult.ret_eq_iff hlength] at hret
      exact ⟨hsmall, hheader, Or.inr hret⟩

end Call

/-! ## All calls -/

section Run
variable {σ : Type v} {ssl : RecordStack σ UInt8} {tail : List UInt8}

theorem stream_cons (c : FrameCall) (calls : List FrameCall) :
    stream (c :: calls) ++ tail = c.frame.bytes ++ (stream calls ++ tail) := List.append_assoc _ _ _

/-- What the calls hand back, one behind the other. -/
def packets (ssl : RecordStack σ UInt8) : σ → List FrameCall → List ReceivedPacket
  | _, [] => []
  | s, c :: calls =>
    (recvDoipPacket ssl s c.maxLen).2 :: packets ssl (recvDoipPacket ssl s c.maxLen).1 calls

theorem InStep.answers {s : σ} {calls : List FrameCall} (h : InStep ssl tail s calls) :
    List.Forall₂ FrameCall.Answers calls (packets ssl s calls) := by
  induction calls generalizing s with
  | nil => exact .nil
  | cons c calls ih => exact .cons h.2.1 (ih h.2.2)

theorem InStep.unread {s : σ} {c : FrameCall} {calls : List FrameCall} (h : InStep ssl tail s (c :: calls)) :
    ssl.unread s = stream (c :: calls) ++ tail := h.1

/-- **Receiving.** On every stream of frames, however it is cut, the calls answer their frames one by
one exactly when every header and every payload is read whole, and only the last frame is too large. -/
theorem inStep_iff (ssl : RecordStack σ UInt8) (tail : List UInt8) {s : σ} {calls : List FrameCall}
    (hunread : ssl.unread s = stream calls ++ tail) : InStep ssl tail s calls ↔ ServedWhole ssl s calls := by
  induction calls generalizing s with
  | nil => exact Iff.rfl
  | cons c calls ih =>
    have hfirst := hunread
    rw [stream_cons] at hfirst
    rw [InStep, ServedWhole]
    by_cases hfits : c.Fits
    · rw [if_pos hfits]
      constructor
      · rintro ⟨-, hanswers, hstep⟩
        obtain ⟨hsmall, hheader, hpayload⟩ := whole_of_recv hfits hfirst (hanswers.fits hfits)
        obtain ⟨hrest, hrecv⟩ := recv_whole hfits hsmall hfirst hheader hpayload
        rw [hrecv] at hstep
        exact ⟨hsmall, hheader, hpayload, (ih hrest).mp hstep⟩
      · rintro ⟨hsmall, hheader, hpayload, hserved⟩
        obtain ⟨hrest, hrecv⟩ := recv_whole hfits hsmall hfirst hheader hpayload
        rw [hrecv]
        exact ⟨hunread, ⟨fun _ => rfl, fun hlarge => absurd hfits hlarge⟩, (ih hrest).mpr hserved⟩
    · rw [if_neg hfits]
      constructor
      · rintro ⟨-, -, hstep⟩
        cases calls with
        | nil => rfl
        | cons c' calls => exact absurd hstep.unread (unread_of_tooLarge hfits hfirst)
      · rintro rfl
        exact ⟨hunread, ⟨fun h => absurd h hfits, fun _ => (recv_tooLarge hfits hfirst).2⟩, trivial⟩

end Run

/-! ## Two frames -/

/-- An alive check response with a payload of one byte, and one of two bytes. -/
def twoCalls (maxLen : UInt32) : List FrameCall :=
  [⟨⟨aliveCheckRes, [0x0E, 0x00], by decide⟩, maxLen⟩, ⟨⟨aliveCheckRes, [0x01], by decide⟩, maxLen⟩]

/-- The second record begins with the first payload and ends behind the second header. -/
def twoRecords : Cut UInt8 :=
  ⟨[[0x02, 0xFD, 0x00, 0x08, 0, 0, 0, 2], [0x0E, 0x00, 0x02, 0xFD, 0x00, 0x08, 0, 0, 0, 1], [0x01]],
    by decide⟩

theorem inStep_twoRecords :
    InStep (wholeReads UInt8) [] twoRecords (twoCalls 2) ↔
      ServedWhole (wholeReads UInt8) twoRecords (twoCalls 2) :=
  inStep_iff (wholeReads UInt8) [] (by decide)

/-- A first payload that does not fit is taken for the header of the second frame. And if all frames
fit, a record that ends inside a header still fails the call. -/
theorem receive_loses_step :
    (¬ ∀ (s : Cut UInt8) (calls : List FrameCall), (wholeReads UInt8).unread s = stream calls →
      List.Forall₂ FrameCall.Answers calls (packets (wholeReads UInt8) s calls)) ∧
    ¬ ∀ (s : Cut UInt8) (calls : List FrameCall), (∀ c ∈ calls, c.Fits) →
      (wholeReads UInt8).unread s = stream calls →
        List.Forall₂ FrameCall.Answers calls (packets (wholeReads UInt8) s calls) := by
  constructor
  · intro hanswers
    have hall := hanswers twoRecords (twoCalls 1) (by decide)
    have hsecond := (List.forall₂_cons.mp (List.forall₂_cons.mp hall).2).1.fits (by decide)
    exact absurd hsecond (by decide)
  · intro hanswers
    let cut : Cut UInt8 :=
      ⟨[[0x02, 0xFD, 0x00], [0x08, 0, 0, 0, 2, 0x0E, 0x00, 0x02, 0xFD, 0x00, 0x08, 0, 0, 0, 1, 0x01]],
        by decide⟩
    have hall := hanswers cut (twoCalls 2) (by decide) (by decide)
    have hfirst := (List.forall₂_cons.mp hall).1.fits (by decide)
    exact absurd hfirst (by decide)

end Mcus.Doip
