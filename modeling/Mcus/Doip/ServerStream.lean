import Mcus.Doip.ServerFraming
import Mcus.Doip.Sessions
import Mcus.Foundations.Framing

/-! # The byte stream of a client connection

`clientHandlerThread` takes a header and then as many bytes as it declares, with `MSG_WAITALL`, so a
`recv` is short only at the end of the stream. The loop over its passes hands on the frames of the
stream one by one. A frame of another version leaves nothing behind but its bytes in the buffer, which
the next frame overwrites from the front and never reads.
-/

namespace Mcus.Doip
open ByteOrder Runs
set_option autoImplicit false

/-- The frames of a DoIP stream. -/
def doipFraming : Framing UInt8 where
  header := 8
  declared s := (lengthField s).toNat
  header_pos := by decide
  declared_append s rest hlen := by rw [lengthField_append rest hlen]

/-- How many bytes of the stream the `recv` calls of a pass ask for. -/
def HandlerOutput.asked (out : HandlerOutput) : ℕ :=
  match out.payloadRecv with
  | some (length, _) => 8 + length.toNat
  | none => 8

theorem HandlerOutput.asked_ge (out : HandlerOutput) : 8 ≤ out.asked := by
  unfold asked
  split <;> omega

theorem length_of_running {t : ClientHandler} {r : Received}
    (h : (clientHandlerThread t r).1.status = .running) : 8 ≤ r.header.length := by
  by_contra hshort
  by_cases ht : t.status = .running
  · rw [clientHandler_incomplete ht (Nat.lt_of_not_le hshort)] at h
    cases h
  · rw [clientHandler_stopped ht] at h
    exact ht h

/-- The loop of `clientHandlerThread` on a stream that ends: the messages given to
`handleTCPMessage`. That the process ends by SIGPIPE, where a peer that has gone is answered, is left out. -/
def clientHandlerLoop (t : ClientHandler) (stream : List UInt8) : List DoIPMessage :=
  let pass := clientHandlerThread t ⟨stream, stream.drop 8⟩
  if _h : pass.1.status = .running then
    pass.2.handled.toList ++ clientHandlerLoop pass.1 (stream.drop pass.2.asked)
  else pass.2.handled.toList
termination_by stream.length
decreasing_by
  have hlen : 8 ≤ stream.length := length_of_running _h
  have hasked := (clientHandlerThread t ⟨stream, stream.drop 8⟩).2.asked_ge
  rw [List.length_drop]
  omega

/-- No header of a frame of the stream, the last incomplete one included, declares `2 ^ 32 - 8` bytes
or more. -/
def HeadersSmall (stream : List UInt8) : Prop :=
  ∀ (frames : List (List UInt8)) (rest : List UInt8), stream = frames.flatten ++ rest →
    (∀ f ∈ frames, doipFraming.Complete f) → 8 ≤ rest.length → (lengthField rest).toNat < 2 ^ 32 - 8

/-- The message that a frame carries. -/
def frameMessage (frame : List UInt8) : DoIPMessage := doIPMessage (typeField frame) (frame.drop 8)

def dispatched (frame : List UInt8) : Option DoIPMessage :=
  if VersionOk frame then some (frameMessage frame) else none

/-! ## One pass -/

section Pass
variable {t : ClientHandler} {r : Received} {frame rest : List UInt8}

theorem complete_iff : doipFraming.Complete frame ↔ 8 + (lengthField frame).toNat = frame.length := Iff.rfl

theorem parseReceived_frame {length : UInt32} (hfield : lengthField frame = length)
    (hcomplete : 8 + length.toNat = frame.length) (hsmall : length.toNat < 2 ^ 32 - 8)
    (stale : List UInt8) (asked : Option (UInt32 × ℕ)) :
    parseReceived (frame ++ stale) length asked =
      (⟨frame ++ stale, .running⟩, ⟨asked, dispatched frame⟩) := by
  have h8 : 8 ≤ frame.length := by omega
  have hlen : (8 + length).toNat = 8 + length.toNat := header_add_toNat hsmall
  have hversion := versionOk_append stale h8
  have hlength : lengthField (frame ++ stale) = length := (lengthField_append stale h8).trans hfield
  unfold parseReceived dispatched
  by_cases hok : VersionOk frame
  · have hheader : HeaderOk (frame ++ stale) (8 + length).toNat := ⟨by omega, hversion.mpr hok⟩
    have hroom : (8 + length).toNat ≤ (frame ++ stale).length := by
      rw [List.length_append]
      omega
    have hpayload : ((frame ++ stale).drop 8).take length.toNat = frame.drop 8 := by
      rw [List.drop_append_of_le_length h8]
      exact List.take_left' (by rw [List.length_drop]; omega)
    rw [fromBytes_of_small hheader hroom (by rw [hlength]; exact hsmall), hlength, if_neg (by omega),
      hpayload, typeField_append stale h8, if_pos hok]
    rfl
  · have hbad : ¬ HeaderOk (frame ++ stale) (8 + length).toNat :=
      fun hheader => hok (hversion.mp hheader.version)
    obtain ⟨what, hthrows⟩ := fromBytes_throws hbad
    rw [hthrows, if_neg hok]

/-- A complete frame is taken from the stream, and handed on if its version is right. -/
theorem clientHandler_frame (ht : t.status = .running) (hsized : BufferSized t.buffer)
    (hcomplete : doipFraming.Complete frame) (hsmall : (lengthField frame).toNat < 2 ^ 32 - 8)
    (rest : List UInt8) :
    ∃ buffer recv, BufferSized buffer ∧
      clientHandlerThread t ⟨frame ++ rest, (frame ++ rest).drop 8⟩ =
        (⟨buffer, .running⟩, ⟨recv, dispatched frame⟩) ∧
      HandlerOutput.asked ⟨recv, dispatched frame⟩ = frame.length := by
  have hlen := complete_iff.mp hcomplete
  have h8 : 8 ≤ frame.length := by omega
  have hfield : lengthField (frame ++ rest) = lengthField frame := lengthField_append rest h8
  obtain ⟨buffer, hholds, hfront, hpass⟩ := clientHandler_header
    (r := ⟨frame ++ rest, (frame ++ rest).drop 8⟩) ht hsized (by rw [List.length_append]; omega)
    (by rw [hfield]; exact hsmall)
  rw [hfield] at hholds
  rw [hpass]
  simp only [hfield, List.take_append_of_le_length h8, List.drop_append_of_le_length h8] at hfront ⊢
  have hpayload : (frame.drop 8 ++ rest).take (lengthField frame).toNat = frame.drop 8 :=
    List.take_left' (by rw [List.length_drop]; omega)
  have hpayloadLen : (frame.drop 8).length = (lengthField frame).toNat := by
    rw [List.length_drop]
    omega
  rw [hpayload]
  split
  case isTrue hpos =>
    have hreceived : receiveInto buffer 8 (frame.drop 8) =
        frame ++ buffer.drop (8 + (frame.drop 8).length) := by
      rw [receiveInto, hfront, List.take_append_drop]
    have hsized' := (hholds.receive hpayloadLen.le).sized
    rw [if_neg (by omega), hreceived, parseReceived_frame rfl hlen hsmall]
    rw [hreceived] at hsized'
    exact ⟨_, _, hsized', rfl, hlen⟩
  case isFalse hzero =>
    have hnone : (lengthField frame).toNat = 0 := by
      have := (UInt32.lt_iff_toNat_lt (a := 0) (b := lengthField frame)).not.mp hzero
      exact Nat.eq_zero_of_not_pos this
    have hbuffer : buffer = frame ++ buffer.drop 8 := by
      have hall : frame.take 8 = frame := List.take_of_length_le (by omega)
      rw [hall] at hfront
      rw [← hfront, List.take_append_drop]
    have hsized' := hholds.sized
    rw [hbuffer] at hsized' ⊢
    rw [parseReceived_frame rfl hlen hsmall]
    exact ⟨_, _, hsized', rfl, by dsimp only [HandlerOutput.asked]; omega⟩

/-- An incomplete frame ends the thread, and nothing is handed on. -/
theorem clientHandler_rest (ht : t.status = .running) (hsized : BufferSized t.buffer)
    (hshort : ¬ doipFraming.size rest ≤ rest.length)
    (hsmall : 8 ≤ rest.length → (lengthField rest).toNat < 2 ^ 32 - 8) :
    (clientHandlerThread t ⟨rest, rest.drop 8⟩).1.status ≠ .running ∧
      (clientHandlerThread t ⟨rest, rest.drop 8⟩).2.handled = none := by
  by_cases h8 : 8 ≤ rest.length
  · have hsize : doipFraming.size rest = 8 + (lengthField rest).toNat := rfl
    obtain ⟨buffer, -, -, hpass⟩ := clientHandler_header (r := ⟨rest, rest.drop 8⟩) ht hsized h8 (hsmall h8)
    have hpos : lengthField rest > 0 := by
      have hzero : (0 : UInt32).toNat = 0 := rfl
      rw [gt_iff_lt, UInt32.lt_iff_toNat_lt, hzero]
      omega
    have htaken : ((rest.drop 8).take (lengthField rest).toNat).length < (lengthField rest).toNat := by
      rw [List.length_take, List.length_drop]
      omega
    rw [hpass]
    dsimp only
    rw [if_pos hpos, if_pos htaken]
    exact ⟨by simp, rfl⟩
  · rw [clientHandler_incomplete ht (Nat.lt_of_not_le h8)]
    exact ⟨by simp, rfl⟩

end Pass

/-! ## The whole stream -/

theorem HeadersSmall.tail {frame rest : List UInt8} (h : HeadersSmall (frame ++ rest))
    (hcomplete : doipFraming.Complete frame) : HeadersSmall rest := by
  intro frames rest' hrest hframes h8
  refine h (frame :: frames) rest' ?_ ?_ h8
  · rw [hrest, List.flatten_cons, List.append_assoc]
  · intro f hf
    rcases List.mem_cons.mp hf with rfl | hf
    · exact hcomplete
    · exact hframes f hf

theorem clientHandlerLoop_frames {frames : List (List UInt8)} {rest : List UInt8}
    (hframes : ∀ f ∈ frames, doipFraming.Complete f) (hrest : ¬ doipFraming.size rest ≤ rest.length)
    (hsmall : HeadersSmall (frames.flatten ++ rest)) {t : ClientHandler} (ht : t.status = .running)
    (hsized : BufferSized t.buffer) :
    clientHandlerLoop t (frames.flatten ++ rest) = frames.filterMap dispatched := by
  induction frames generalizing t with
  | nil =>
    have hlast : 8 ≤ rest.length → (lengthField rest).toNat < 2 ^ 32 - 8 := hsmall [] rest rfl (by simp)
    obtain ⟨hstops, hnone⟩ := clientHandler_rest ht hsized hrest hlast
    rw [List.flatten_nil, List.nil_append, clientHandlerLoop]
    rw [dif_neg hstops, hnone]
    rfl
  | cons frame frames ih =>
    have hcomplete : doipFraming.Complete frame := hframes frame (by simp)
    rw [List.flatten_cons, List.append_assoc] at hsmall ⊢
    have hfirst : (lengthField frame).toNat < 2 ^ 32 - 8 := by
      have h8 := hcomplete.header_le
      rw [← lengthField_append (frames.flatten ++ rest) h8]
      refine hsmall [] _ rfl (by simp) ?_
      rw [List.length_append]
      exact h8.trans (Nat.le_add_right _ _)
    obtain ⟨buffer, recv, hsized', hpass, hasked⟩ :=
      clientHandler_frame ht hsized hcomplete hfirst (frames.flatten ++ rest)
    have ih' := ih (fun f hf => hframes f (by simp [hf])) (hsmall.tail hcomplete)
      (t := ⟨buffer, .running⟩) rfl hsized'
    rw [clientHandlerLoop, hpass]
    dsimp only
    rw [dif_pos rfl, hasked, List.drop_left, ih']
    cases hd : dispatched frame <;> simp [hd]

/-- **Framing.** On every stream the messages given to `handleTCPMessage` are those of the complete
frames of the right version, in order; a message of another type than the three supported ones changes
nothing and is not answered. -/
theorem stream_dispatched (stream : List UInt8) (hsmall : HeadersSmall stream) :
    clientHandlerLoop clientHandlerInit stream =
      ((doipFraming.frames stream).filter fun frame => decide (VersionOk frame)).map frameMessage ∧
    ∀ {σ ρ : Type} (logicalAddress : UInt16) (udsHandler : Option (UDSHandler σ ρ)) (msg : DoIPMessage)
      (session : DoIPClientSession) (s : σ) (surroundings : ρ),
      msg.header.payloadType ∉ [routingActivationReq, diagnosticMessage, aliveCheckReq] →
      handleTCPMessage logicalAddress udsHandler msg session s surroundings = (session, s, ⟨[], []⟩) := by
  constructor
  · obtain ⟨hframes, rest, hstream, hrest⟩ := doipFraming.exists_rest stream
    have hsized : BufferSized clientHandlerInit.buffer := handlerSized_init rfl
    have hloop := clientHandlerLoop_frames hframes hrest (hstream ▸ hsmall) (t := clientHandlerInit) rfl hsized
    rw [← hstream] at hloop
    rw [hloop, ← List.filterMap_eq_map, List.filterMap_filter]
    refine List.filterMap_congr fun frame _ => ?_
    by_cases hok : VersionOk frame <;> simp [dispatched, hok]
  · intro σ ρ logicalAddress udsHandler msg session s surroundings hother
    simp only [List.mem_cons, List.not_mem_nil, or_false, not_or] at hother
    simp only [handleTCPMessage, hother.1, hother.2.1, hother.2.2, if_false]

/-- A frame of another version, an alive check, and three bytes of a header. -/
theorem stream_dispatched_aliveCheck :
    clientHandlerLoop clientHandlerInit
      [0x01, 0xFE, 0x00, 0x07, 0, 0, 0, 1, 0x0E, 0x02, 0xFD, 0x00, 0x07, 0, 0, 0, 0, 0x02, 0xFD, 0x00] =
      [doIPMessage 0x0007 []] := by
  have hsmall : HeadersSmall
      [0x01, 0xFE, 0x00, 0x07, 0, 0, 0, 1, 0x0E, 0x02, 0xFD, 0x00, 0x07, 0, 0, 0, 0, 0x02, 0xFD, 0x00] := by
    intro frames rest hstream _ h8
    have hdrop : (frames.flatten ++ rest).drop frames.flatten.length = rest := List.drop_left
    have hlen := congrArg List.length hstream
    rw [List.length_append] at hlen
    have hk : frames.flatten.length < 13 := by
      simp only [List.length_cons, List.length_nil] at hlen
      omega
    have hall : ∀ k < 13, (lengthField (([0x01, 0xFE, 0x00, 0x07, 0, 0, 0, 1, 0x0E, 0x02, 0xFD, 0x00, 0x07, 0, 0,
        0, 0, 0x02, 0xFD, 0x00] : List UInt8).drop k)).toNat < 2 ^ 32 - 8 := by decide
    rw [← hdrop, ← hstream]
    exact hall _ hk
  have hlast : doipFraming.frames [0x02, 0xFD, 0x00] = [] := Framing.frames_of_incomplete (by decide)
  have hcomplete : ∀ f ∈ ([[0x01, 0xFE, 0x00, 0x07, 0, 0, 0, 1, 0x0E],
      [0x02, 0xFD, 0x00, 0x07, 0, 0, 0, 0]] : List (List UInt8)), doipFraming.Complete f := by decide
  have hcut := Framing.frames_flatten_append hcomplete [0x02, 0xFD, 0x00]
  rw [hlast, List.append_nil] at hcut
  refine (stream_dispatched _ hsmall).1.trans ?_
  rw [show doipFraming.frames [0x01, 0xFE, 0x00, 0x07, 0, 0, 0, 1, 0x0E, 0x02, 0xFD, 0x00, 0x07, 0, 0, 0, 0,
    0x02, 0xFD, 0x00] = _ from hcut]
  decide

end Mcus.Doip
