import Mcus.Doip.Server

/-! # Declared lengths and the server's buffers

Both guards of the server add the header length to a declared length in 32 bits. For a length of
`2 ^ 32 - 8` or more the sum wraps to less than a header: the parser then takes a truncated message
for a complete one, and the client thread shrinks its buffer before it receives the payload into it.
Below that bound no length leads outside a buffer, whatever earlier messages did to it.
-/

namespace Mcus.Doip
open ByteOrder Runs
set_option autoImplicit false

/-- The parser refused, or returned exactly the declared bytes, which lie among the `len` given. -/
def StaysInside (data : List UInt8) (len : ℕ) : FromBytes → Prop
  | .throws _ => True
  | .returns msg => 8 + (lengthField data).toNat ≤ len ∧
      msg.payloadData = (data.drop 8).take (lengthField data).toNat
  | .overread => False

/-- A complete header of the right version declares less than `2 ^ 32 - 8` bytes. -/
def DeclaresSmall (data : List UInt8) (len : ℕ) : Prop :=
  HeaderOk data len → (lengthField data).toNat < 2 ^ 32 - 8

/-- A pass of the UDP thread stays inside its datagram. -/
structure DatagramInside (buffer datagram : List UInt8) : Prop where
  parsed : StaysInside (udpListenerThread buffer datagram).1 (min buffer.length datagram.length)
    (udpListenerThread buffer datagram).2

/-- A pass of the client thread asks for no more payload than its buffer holds behind the header, and
its parser stays inside that buffer. -/
structure PassInside (t : ClientHandler) (r : Received) : Prop where
  recv : ∀ length size, (clientHandlerThread t r).2.payloadRecv = some (length, size) →
    8 + length.toNat ≤ size
  contained : t.status ≠ .overrun → (clientHandlerThread t r).1.status ≠ .overrun

/-- A header that the thread receives completely declares less than `2 ^ 32 - 8` bytes. -/
def ReceivesSmall (t : ClientHandler) (r : Received) : Prop :=
  t.status = .running → 8 ≤ r.header.length → (lengthField r.header).toNat < 2 ^ 32 - 8

/-! ## The parser -/

/-- The parser stays inside what it was given exactly when the header declares less than
`2 ^ 32 - 8` bytes, or the bytes it declares are really there. -/
theorem fromBytes_inside_iff {data : List UInt8} {len : ℕ} (hdata : len ≤ data.length) :
    StaysInside data len (fromBytes data len) ↔
      (HeaderOk data len →
        (lengthField data).toNat < 2 ^ 32 - 8 ∨ 8 + (lengthField data).toNat ≤ len) := by
  by_cases hheader : HeaderOk data len
  · by_cases hsmall : (lengthField data).toNat < 2 ^ 32 - 8
    · refine iff_of_true ?_ fun _ => Or.inl hsmall
      rw [fromBytes_of_small hheader hdata hsmall]
      split
      case isTrue => exact trivial
      case isFalse hfits => exact ⟨Nat.le_of_not_lt hfits, rfl⟩
    · -- the sum wraps, so nothing is refused
      have hwraps : ¬ len < (8 + lengthField data).toNat :=
        Nat.not_lt.mpr ((header_add_wraps hsmall).le.trans hheader.length)
      rw [fromBytes_of_header hheader, if_neg hwraps]
      constructor
      · intro hinside _
        split at hinside
        case isTrue => exact Or.inr hinside.1
        case isFalse => exact absurd hinside id
      · intro hfits
        have hroom := (hfits hheader).resolve_left hsmall
        rw [if_pos (hroom.trans hdata)]
        exact ⟨hroom, rfl⟩
  · obtain ⟨what, hthrows⟩ := fromBytes_throws hheader
    rw [hthrows]
    exact iff_of_true trivial fun h => absurd h hheader

/-! ## Datagrams -/

theorem fields_take {data : List UInt8} {n : ℕ} (hn : 8 ≤ n) (hlen : 8 ≤ data.length) :
    lengthField (data.take n) = lengthField data ∧ (VersionOk (data.take n) ↔ VersionOk data) := by
  have htaken : 8 ≤ (data.take n).length := by rw [List.length_take]; omega
  have hlength := lengthField_append (data.drop n) htaken
  have hversion := versionOk_append (data.drop n) htaken
  rw [List.take_append_drop] at hlength hversion
  exact ⟨hlength.symm, hversion.symm⟩

theorem lengthField_congr {data data' : List UInt8} (hlen : 8 ≤ data.length) (hlen' : 8 ≤ data'.length)
    (h : data.take 8 = data'.take 8) : lengthField data = lengthField data' := by
  rw [← (fields_take (le_refl 8) hlen).1, h, (fields_take (le_refl 8) hlen').1]

theorem headerOk_received {buffer datagram : List UInt8} (hbuffer : 8 ≤ buffer.length) :
    HeaderOk (receiveInto buffer 0 (datagram.take buffer.length)) (datagram.take buffer.length).length ↔
      HeaderOk datagram datagram.length := by
  have hlen : (datagram.take buffer.length).length = min buffer.length datagram.length :=
    List.length_take
  rw [receiveInto_zero]
  by_cases hshort : 8 ≤ datagram.length
  · have htaken : 8 ≤ (datagram.take buffer.length).length := by omega
    have happend := versionOk_append (buffer.drop (datagram.take buffer.length).length) htaken
    have htake := (fields_take hbuffer hshort).2
    exact ⟨fun h => ⟨hshort, htake.mp (happend.mp h.version)⟩,
      fun h => ⟨htaken, happend.mpr (htake.mpr h.version)⟩⟩
  · exact iff_of_false (fun h => hshort (by have := h.length; omega)) fun h => hshort h.length

theorem lengthField_received (buffer : List UInt8) {data : List UInt8} {n : ℕ} (hn : 8 ≤ n)
    (hlen : 8 ≤ data.length) :
    lengthField (receiveInto buffer 0 (data.take n)) = lengthField data := by
  have htaken : 8 ≤ (data.take n).length := by rw [List.length_take]; omega
  rw [receiveInto_zero, lengthField_append _ htaken, (fields_take hn hlen).1]

theorem datagramInside_iff {buffer datagram : List UInt8} (hbuffer : buffer.length = 4096) :
    DatagramInside buffer datagram ↔ DeclaresSmall datagram datagram.length := by
  have hroom : 8 ≤ buffer.length := by omega
  have htaken : (datagram.take buffer.length).length = min buffer.length datagram.length :=
    List.length_take
  have hsize := receiveInto_length buffer (datagram.take buffer.length) 0 (by omega)
  have hfits : (datagram.take buffer.length).length ≤
      (receiveInto buffer 0 (datagram.take buffer.length)).length := by omega
  have hinside := fromBytes_inside_iff hfits
  rw [headerOk_received hroom] at hinside
  have hthread : DatagramInside buffer datagram ↔
      StaysInside (udpListenerThread buffer datagram).1 (datagram.take buffer.length).length
        (udpListenerThread buffer datagram).2 :=
    htaken ▸ ⟨fun h => h.parsed, fun h => ⟨h⟩⟩
  rw [hthread]
  constructor
  · intro h hheader
    have hsmall := hinside.mp h hheader
    rw [lengthField_received buffer hroom hheader.length] at hsmall
    -- a datagram never has as many bytes as a wrapping header declares
    omega
  · intro hsmall
    refine hinside.mpr fun hheader => Or.inl ?_
    rw [lengthField_received buffer hroom hheader.length]
    exact hsmall hheader

theorem udpBufferInit_length : udpBufferInit.length = 4096 := List.length_replicate

/-! ## Streams -/

section Thread
variable {t : ClientHandler} {r : Received}

/-- The buffer of a running thread: never smaller than at the start, and never of `2 ^ 32` bytes. -/
structure BufferSized (buffer : List UInt8) : Prop where
  least : 8192 ≤ buffer.length
  most : buffer.length < 2 ^ 32

def HandlerSized (t : ClientHandler) : Prop := t.status = .running → BufferSized t.buffer

theorem handlerSized_init : HandlerSized clientHandlerInit :=
  fun _ => ⟨by rw [clientHandlerInit, List.length_replicate],
    by rw [clientHandlerInit, List.length_replicate]; norm_num⟩

theorem clientHandler_stopped (ht : t.status ≠ .running) :
    clientHandlerThread t r = (t, ⟨none, none⟩) := by
  rw [clientHandlerThread, if_pos ht]

theorem clientHandler_incomplete (ht : t.status = .running) (hr : r.header.length < 8) :
    clientHandlerThread t r =
      (⟨receiveInto t.buffer 0 (r.header.take 8), .closed⟩, ⟨none, none⟩) := by
  have hshort : (r.header.take 8).length < 8 := by rw [List.length_take]; omega
  rw [clientHandlerThread, if_neg (not_not.mpr ht)]
  dsimp only
  rw [if_pos hshort]

theorem header_received (hsized : BufferSized t.buffer) (hr : 8 ≤ r.header.length) :
    lengthField (receiveInto t.buffer 0 (r.header.take 8)) = lengthField r.header ∧
      BufferSized (receiveInto t.buffer 0 (r.header.take 8)) := by
  have hleast := hsized.least
  have htaken : (r.header.take 8).length = 8 := by rw [List.length_take]; omega
  have hsize := receiveInto_length t.buffer (r.header.take 8) 0 (by omega)
  have hmost := hsized.most
  exact ⟨lengthField_received t.buffer (le_refl 8) hr, by omega, by omega⟩

/-- A buffer with a header in front that declares `length`, and room for as many bytes behind it. -/
structure Holds (buffer : List UInt8) (length : UInt32) : Prop where
  sized : BufferSized buffer
  room : 8 + length.toNat ≤ buffer.length
  field : lengthField buffer = length

theorem holds_grown {buffer : List UInt8} (hsized : BufferSized buffer)
    (hsmall : (lengthField buffer).toNat < 2 ^ 32 - 8) :
    Holds (if (lengthField buffer).toNat > buffer.length - 8 then
      resize buffer (8 + lengthField buffer).toNat else buffer) (lengthField buffer) := by
  have hleast := hsized.least
  split
  case isTrue hgrows =>
    have hsum := header_add_toNat hsmall
    have hsize := resize_length buffer (8 + lengthField buffer).toNat
    refine ⟨⟨by omega, by omega⟩, by omega, lengthField_congr (by omega) (by omega) ?_⟩
    exact resize_take (by omega) (by omega)
  case isFalse hfits => exact ⟨hsized, by omega, rfl⟩

section Holds
variable {buffer : List UInt8} {length : UInt32} (h : Holds buffer length)
include h

theorem Holds.receive {payload : List UInt8} (hpayload : payload.length ≤ length.toNat) :
    Holds (receiveInto buffer 8 payload) length := by
  have hroom := h.room
  have hsize := receiveInto_length buffer payload 8 (by omega)
  refine ⟨⟨hsize ▸ h.sized.least, hsize ▸ h.sized.most⟩, hsize ▸ hroom, ?_⟩
  rw [← h.field]
  refine lengthField_congr (by omega) (by omega) ?_
  have hfront : (buffer.take 8).length = 8 := by rw [List.length_take]; omega
  rw [receiveInto, List.append_assoc, List.take_append_of_le_length (by omega), List.take_take,
    Nat.min_self]

theorem Holds.parse (hsmall : length.toNat < 2 ^ 32 - 8) (asked : Option (UInt32 × ℕ)) :
    (parseReceived buffer length asked).1 = ⟨buffer, .running⟩ ∧
      (parseReceived buffer length asked).2.payloadRecv = asked := by
  have hfits : (8 + length).toNat ≤ buffer.length := header_add_toNat hsmall ▸ h.room
  have hinside := (fromBytes_inside_iff hfits).mpr fun _ => Or.inl (h.field ▸ hsmall)
  unfold parseReceived
  cases hresult : fromBytes buffer (8 + length).toNat with
  | throws what => exact ⟨rfl, rfl⟩
  | returns msg => exact ⟨rfl, rfl⟩
  | overread =>
    rw [hresult] at hinside
    exact absurd hinside id

end Holds

/-- Behind a complete header the pass holds a buffer with that header in front and room for what it
declares. -/
theorem clientHandler_header (ht : t.status = .running) (hsized : BufferSized t.buffer)
    (hr : 8 ≤ r.header.length) (hsmall : (lengthField r.header).toNat < 2 ^ 32 - 8) :
    ∃ buffer, Holds buffer (lengthField r.header) ∧ buffer.take 8 = r.header.take 8 ∧
      clientHandlerThread t r =
        let length := lengthField r.header
        let payload := r.payload.take length.toNat
        let asked := some (length, buffer.length)
        if length > 0 then
          if payload.length < length.toNat then (⟨receiveInto buffer 8 payload, .closed⟩, ⟨asked, none⟩)
          else parseReceived (receiveInto buffer 8 payload) length asked
        else parseReceived buffer length none := by
  have hcomplete : ¬ (r.header.take 8).length < 8 := by rw [List.length_take]; omega
  obtain ⟨hfield, hsized'⟩ := header_received hsized hr
  have hgrown := holds_grown hsized' (by rw [hfield]; exact hsmall)
  rw [hfield] at hgrown
  have hleast := hsized'.least
  have hfront : (receiveInto t.buffer 0 (r.header.take 8)).take 8 = r.header.take 8 := by
    rw [receiveInto_zero, List.take_append_of_le_length (by omega), List.take_take, Nat.min_self]
  refine ⟨_, hgrown, ?_, ?_⟩
  · split
    case isTrue hgrows =>
      have hsum := header_add_toNat hsmall
      rw [resize_take (by omega) (by omega), hfront]
    case isFalse => exact hfront
  · rw [clientHandlerThread, if_neg (not_not.mpr ht)]
    dsimp only
    rw [if_neg hcomplete, hfield, if_neg (Nat.not_lt.mpr hgrown.room)]

theorem clientHandler_small (ht : t.status = .running) (hsized : BufferSized t.buffer)
    (hr : 8 ≤ r.header.length) (hsmall : (lengthField r.header).toNat < 2 ^ 32 - 8) :
    PassInside t r ∧ HandlerSized (clientHandlerThread t r).1 := by
  obtain ⟨buffer, hholds, -, hpass⟩ := clientHandler_header ht hsized hr hsmall
  suffices hparts : (∀ length size, (clientHandlerThread t r).2.payloadRecv = some (length, size) →
      8 + length.toNat ≤ size) ∧ (clientHandlerThread t r).1.status ≠ .overrun ∧
      HandlerSized (clientHandlerThread t r).1 by
    exact ⟨⟨hparts.1, fun _ => hparts.2.1⟩, hparts.2.2⟩
  have hasked : ∀ length size, some (lengthField r.header, buffer.length) = some (length, size) →
      8 + length.toNat ≤ size := by
    intro length size hsome
    obtain ⟨rfl, rfl⟩ := Prod.mk.inj (Option.some.inj hsome)
    exact hholds.room
  rw [hpass]
  dsimp only
  -- an empty payload is not received; a short one ends the thread before the parser sees it
  split
  case isFalse =>
    obtain ⟨hthread, hrecv⟩ := hholds.parse hsmall none
    rw [hthread, hrecv]
    exact ⟨fun _ _ hsome => (nomatch hsome), by simp, fun _ => hholds.sized⟩
  case isTrue =>
    split
    case isTrue => exact ⟨hasked, by simp, fun hrunning => nomatch hrunning⟩
    case isFalse =>
      have hreceived := hholds.receive (List.length_take_le (lengthField r.header).toNat r.payload)
      obtain ⟨hthread, hrecv⟩ := hreceived.parse hsmall (some (lengthField r.header, buffer.length))
      rw [hthread, hrecv]
      exact ⟨hasked, by simp, fun _ => hreceived.sized⟩

/-- From the bound on, the buffer shrinks below a header and the payload is asked for all the same. -/
theorem clientHandler_large (ht : t.status = .running) (hsized : BufferSized t.buffer)
    (hr : 8 ≤ r.header.length) (hlarge : ¬ (lengthField r.header).toNat < 2 ^ 32 - 8) :
    ∃ size < 8, (clientHandlerThread t r).2.payloadRecv = some (lengthField r.header, size) := by
  have hcomplete : ¬ (r.header.take 8).length < 8 := by rw [List.length_take]; omega
  obtain ⟨hfield, hsized'⟩ := header_received hsized hr
  have hmost := hsized'.most
  have hgrows : (lengthField r.header).toNat > (receiveInto t.buffer 0 (r.header.take 8)).length - 8 := by
    omega
  have hpos : lengthField r.header > 0 := by
    have hzero : (0 : UInt32).toNat = 0 := rfl
    rw [gt_iff_lt, UInt32.lt_iff_toNat_lt, hzero]
    omega
  have hshrunk : (resize (receiveInto t.buffer 0 (r.header.take 8)) (8 + lengthField r.header).toNat).length
      < 8 := by
    rw [resize_length]
    exact header_add_wraps hlarge
  rw [clientHandlerThread, if_neg (not_not.mpr ht)]
  dsimp only
  rw [if_neg hcomplete, hfield, if_pos hgrows, if_pos hpos, if_pos (by omega)]
  exact ⟨_, hshrunk, rfl⟩

theorem passInside_of_stops {t' : ClientHandler} (hpass : clientHandlerThread t r = (t', ⟨none, none⟩))
    (hstops : t.status ≠ .overrun → t'.status ≠ .overrun) : PassInside t r := by
  constructor
  · intro length size hsome
    rw [hpass] at hsome
    cases hsome
  · rw [hpass]
    exact hstops

theorem passInside_iff (hsized : HandlerSized t) : PassInside t r ↔ ReceivesSmall t r := by
  by_cases ht : t.status = .running
  · by_cases hr : 8 ≤ r.header.length
    · constructor
      · intro hinside _ _
        by_contra hlarge
        obtain ⟨size, hshort, hrecv⟩ := clientHandler_large ht (hsized ht) hr hlarge
        have hroom := hinside.recv _ _ hrecv
        omega
      · intro hsmall
        exact (clientHandler_small ht (hsized ht) hr (hsmall ht hr)).1
    · have hpass := clientHandler_incomplete ht (Nat.lt_of_not_le hr)
      exact iff_of_true (passInside_of_stops hpass (by simp)) fun _ h => absurd h hr
  · exact iff_of_true (passInside_of_stops (clientHandler_stopped ht) id) fun h => absurd h ht

theorem handlerSized_step (hsized : HandlerSized t) (hsmall : ReceivesSmall t r) :
    HandlerSized (clientHandlerThread t r).1 := by
  by_cases ht : t.status = .running
  · by_cases hr : 8 ≤ r.header.length
    · exact (clientHandler_small ht (hsized ht) hr (hsmall ht hr)).2
    · rw [clientHandler_incomplete ht (Nat.lt_of_not_le hr)]
      exact fun h => nomatch h
  · rw [clientHandler_stopped ht]
    exact hsized

end Thread

/-! ## Whole connections -/

/-- **Buffers.** The parser, the UDP thread over any sequence of datagrams, and a client thread over
any sequence of receives stay inside their buffers exactly when no header declares `2 ^ 32 - 8` bytes
or more. -/
theorem staysInBuffers_iff (data : List UInt8) (len : ℕ) (hdata : len ≤ data.length)
    (datagrams : List (List UInt8)) (receives : List Received) :
    (StaysInside data len (fromBytes data len) ↔ (HeaderOk data len →
      (lengthField data).toNat < 2 ^ 32 - 8 ∨ 8 + (lengthField data).toNat ≤ len)) ∧
    (udpMachine.Admits (fun _ => DatagramInside) udpBufferInit datagrams ↔
      ∀ datagram ∈ datagrams, DeclaresSmall datagram datagram.length) ∧
    (tcpMachine.Admits (fun _ => PassInside) clientHandlerInit receives ↔
      tcpMachine.Admits (fun _ => ReceivesSmall) clientHandlerInit receives) := by
  refine ⟨fromBytes_inside_iff hdata, ?_, ?_⟩
  · rw [← Machine.admits_iff_forall]
    refine Machine.admits_iff_of_invariant (P := fun _ buffer => buffer.length = 4096)
      udpBufferInit_length (fun _ _ _ => datagramInside_iff) ?_ datagrams
    intro _ buffer datagram hbuffer _
    exact (receiveInto_length buffer (datagram.take buffer.length) 0
      (by rw [List.length_take]; omega)).trans hbuffer
  · exact Machine.admits_iff_of_invariant (P := fun _ t => HandlerSized t) handlerSized_init
      (fun _ _ _ hsized => passInside_iff hsized) (fun _ _ _ => handlerSized_step) receives

theorem staysInBuffers_aliveCheck :
    StaysInside [0x02, 0xFD, 0x00, 0x07, 0, 0, 0, 0] 8 (fromBytes [0x02, 0xFD, 0x00, 0x07, 0, 0, 0, 0] 8) ∧
    udpMachine.Admits (fun _ => DatagramInside) udpBufferInit [[0x02, 0xFD, 0x00, 0x07, 0, 0, 0, 0]] := by
  have hiff := staysInBuffers_iff [0x02, 0xFD, 0x00, 0x07, 0, 0, 0, 0] 8 (by decide)
    [[0x02, 0xFD, 0x00, 0x07, 0, 0, 0, 0]] []
  refine ⟨hiff.1.mpr fun _ => Or.inl (by decide), hiff.2.1.mpr ?_⟩
  intro datagram hmem _
  obtain rfl := List.mem_singleton.mp hmem
  decide

/-- Eight bytes that declare `2 ^ 32 - 8` more, as a datagram and as the start of a stream. -/
theorem wrappedLength_leaves :
    ¬ DatagramInside udpBufferInit [0x02, 0xFD, 0x00, 0x01, 0xFF, 0xFF, 0xFF, 0xF8] ∧
    ¬ PassInside clientHandlerInit ⟨[0x02, 0xFD, 0x00, 0x01, 0xFF, 0xFF, 0xFF, 0xF8], []⟩ := by
  constructor
  · intro hinside
    have hsmall := (datagramInside_iff udpBufferInit_length).mp hinside ⟨by decide, by decide⟩
    exact absurd hsmall (by decide)
  · intro hinside
    have hsmall := (passInside_iff handlerSized_init).mp hinside rfl (by decide)
    exact absurd hsmall (by decide)

end Mcus.Doip
