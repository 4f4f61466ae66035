import Mcus.Doip.Encoders
import Mcus.Doip.TlsEcho
import Mcus.Foundations.Framing

/-! # How TLS cuts the stream

A TLS connection is a stream of bytes, and `mbedtls_ssl_read` may return any part of it. The mbedTLS
server takes every read for one frame: a frame that is cut is answered from what lies in the buffer, or
not at all, and of several frames in one read only the first is seen. The other server collects a frame
before it parses it. The simulator's client writes header and payload separately.
-/

namespace Mcus.Doip
open ByteOrder Runs
set_option autoImplicit false

/-- Everything written to the connection while the reads are handled. -/
def responses (h : DoIPHandler) (reads : List (List UInt8)) : List (List UInt8) :=
  (mbedtlsMachine.trace h reads).filterMap fun e => e.output.written

/-- An activation request or a diagnostic message that fits the server's buffer. -/
structure WellFormed (frame : List UInt8) : Prop where
  version : VersionOk frame
  type : typeField frame = routingActivationReq ∨ typeField frame = diagnosticMessage
  declared : 8 + (lengthField frame).toNat = frame.length
  fits : frame.length ≤ 4096

/-- The bytes begin like a message that is answered in this activation state. -/
def Calls (activated : Bool) (data : List UInt8) : Prop :=
  8 ≤ data.length ∧ data.getD 0 0 = protocolVersion ∧
    (typeField data = routingActivationReq ∧ 7 ≤ (lengthField data).toNat ∨
      typeField data = diagnosticMessage ∧ activated = true ∧ 5 ≤ (lengthField data).toNat)

instance (activated : Bool) (data : List UInt8) : Decidable (Calls activated data) :=
  inferInstanceAs (Decidable (_ ∧ _))

/-- The activation state behind a frame. -/
def activatedBy (activated : Bool) (frame : List UInt8) : Bool :=
  activated || decide (typeField frame = routingActivationReq ∧ 7 ≤ (lengthField frame).toNat)

/-- The frames that are answered, one behind the other. -/
def owed (activated : Bool) : List (List UInt8) → List (List UInt8)
  | [] => []
  | frame :: frames =>
    (if Calls activated frame then [frame] else []) ++ owed (activatedBy activated frame) frames

/-- What the handler looks at: the read, and behind it the buffer as it was. -/
def seen (h : DoIPHandler) (data : List UInt8) : List UInt8 := data ++ h.buffer.drop data.length

/-- The message says what the frame says, as far as an answer depends on it: the source address of an
activation request, or all of a diagnostic message. -/
def Conveys (message frame : List UInt8) : Prop :=
  typeField message = typeField frame ∧
    if typeField frame = routingActivationReq then
      (message.drop 8).getD 0 0 = (frame.drop 8).getD 0 0 ∧ (message.drop 8).getD 1 0 = (frame.drop 8).getD 1 0
    else lengthField message = lengthField frame ∧
      (message.drop 8).take (lengthField frame).toNat = frame.drop 8

/-- A read in which the frames `begun` begin: if none of them is answered, it does not begin like a
message that is, and otherwise one of them is, and what the handler looks at conveys it. -/
def ReadCarries (h : DoIPHandler) (data : List UInt8) (begun : List (List UInt8)) : Prop :=
  match owed h.activated begun with
  | [] => ¬ Calls h.activated data
  | [frame] => Calls h.activated data ∧ Conveys (seen h data) frame
  | _ :: _ :: _ => False

/-- The handler, and the frames of the stream that it has not read. -/
structure Reading where
  handler : DoIPHandler
  unread : Unread UInt8

/-- Every read, with the reply and the frames that begin in it. -/
def readingMachine : Machine Reading (List UInt8) (Reply × List (List UInt8)) where
  step s data :=
    (⟨(s.handler.handle data).1, (s.unread.take data.length).2⟩,
      (s.handler.handle data).2, (s.unread.take data.length).1)

/-- Before the first read of a stream of frames. -/
def Reading.init (memory : List UInt8) (frames : List (List UInt8)) : Reading := ⟨.init memory, ⟨0, frames⟩⟩

/-- Nothing overflowed, and the responses are those to the frames that have begun, as if each of them
had been a read of its own. -/
structure AnsweredSoFar (memory : List UInt8) (frames past : List (List UInt8)) : Prop where
  contained : (mbedtlsMachine.run (.init memory) past).status ≠ .overrun
  answered : responses (.init memory) past =
    responses (.init memory) ((Unread.mk 0 frames).take past.flatten.length).1

/-! ## Answers -/

/-- The answer to a message that is answered. -/
def answer (message : List UInt8) : List UInt8 :=
  let payload := message.drop 8
  if typeField message = routingActivationReq then
    frame routingActivationRes 9 (beBytes16 (word16 (payload.getD 0 0) (payload.getD 1 0)) ++
      [0x00, 0x01, 0x10, 0x00, 0x00, 0x00, 0x00])
  else DoIPHandler.echo payload (lengthField message)

section Answers
variable {message frame : List UInt8} {activated : Bool}

theorem diagnostic_ne_activation : diagnosticMessage ≠ routingActivationReq := by decide

theorem activation_answer_eq_iff {b0 b1 c0 c1 : UInt8} :
    Doip.frame routingActivationRes 9 (beBytes16 (word16 b0 b1) ++ [0x00, 0x01, 0x10, 0x00, 0x00, 0x00, 0x00]) =
      Doip.frame routingActivationRes 9 (beBytes16 (word16 c0 c1) ++ [0x00, 0x01, 0x10, 0x00, 0x00, 0x00, 0x00]) ↔
      b0 = c0 ∧ b1 = c1 := by
  constructor
  · intro h
    have hpayload := (frame_injective h).2.2
    rw [beBytes16_word16, beBytes16_word16] at hpayload
    obtain ⟨h0, htail⟩ := List.cons.inj hpayload
    exact ⟨h0, (List.cons.inj htail).1⟩
  · rintro ⟨rfl, rfl⟩
    rfl

theorem exists_four {l : List UInt8} (hl : 4 ≤ l.length) :
    ∃ b0 b1 b2 b3 rest, l = b0 :: b1 :: b2 :: b3 :: rest := by
  match l, hl with
  | b0 :: b1 :: b2 :: b3 :: rest, _ => exact ⟨b0, b1, b2, b3, rest, rfl⟩

/-- The echo shows the whole payload. -/
theorem echo_eq_iff {payload payload' : List UInt8} {len len' : UInt32} (hlen : 5 ≤ len'.toNat)
    (hpayload : payload'.length = len'.toNat) :
    DoIPHandler.echo payload len = DoIPHandler.echo payload' len' ↔
      len = len' ∧ payload.take len'.toNat = payload' := by
  constructor
  · intro h
    obtain ⟨-, hsum, hbytes⟩ := frame_injective h
    obtain rfl : len = len' := by
      have hsub := congrArg (fun x => x - 4 + 4) hsum
      simpa only [UInt32.add_comm 4, UInt32.add_sub_cancel, UInt32.sub_add_cancel] using hsub
    obtain ⟨hfront, htail⟩ := List.append_inj hbytes rfl
    rw [diagLen_toNat hlen] at htail
    have hlens := congrArg List.length htail
    simp only [List.length_take, List.length_drop] at hlens
    obtain ⟨b0, b1, b2, b3, rest, rfl⟩ := exists_four (l := payload) (by omega)
    obtain ⟨c0, c1, c2, c3, rest', rfl⟩ := exists_four (l := payload') (by omega)
    obtain ⟨n, hn⟩ : ∃ n, len.toNat = n + 4 := ⟨len.toNat - 4, by omega⟩
    have hall : rest'.take n = rest' := by
      simp only [List.length_cons] at hpayload
      exact List.take_of_length_le (by omega)
    have hrest : rest.take n = rest'.take n := by
      rw [hn, Nat.add_sub_cancel] at htail
      exact htail
    obtain ⟨h2, h3, h0, h1⟩ : b2 = c2 ∧ b3 = c3 ∧ b0 = c0 ∧ b1 = c1 := by
      simpa using hfront
    simp only [hn, List.take_succ_cons, hrest, hall, h0, h1, h2, h3, and_self]
  · rintro ⟨rfl, htake⟩
    have hsplit := List.take_append_drop len.toNat payload
    rw [htake] at hsplit
    rw [← hsplit, echo_append _ hlen hpayload.ge]

/-- An answer is the one to a frame exactly when the message conveys the frame. -/
theorem answer_eq_iff {activated activated' : Bool} (hmessage : Calls activated message)
    (hframe : Calls activated' frame) (hdeclared : 8 + (lengthField frame).toNat = frame.length) :
    answer message = answer frame ↔ Conveys message frame := by
  have hne := diagnostic_ne_activation
  have hpayload : (frame.drop 8).length = (lengthField frame).toNat := by
    rw [List.length_drop]
    omega
  unfold answer Conveys
  rcases hmessage.2.2 with ⟨hmtype, -⟩ | ⟨hmtype, -, -⟩ <;>
    rcases hframe.2.2 with ⟨hftype, -⟩ | ⟨hftype, -, hfive⟩
  · simp only [hmtype, hftype, if_true, true_and]
    exact activation_answer_eq_iff
  · simp only [hmtype, hftype, hne, if_true, if_false, hne.symm, false_and, iff_false]
    intro h
    exact absurd (frame_injective h).1 (by decide)
  · simp only [hmtype, hftype, hne, if_true, if_false, false_and, iff_false]
    intro h
    exact absurd (frame_injective h).1 (by decide)
  · simp only [hmtype, hftype, hne, if_false, true_and]
    exact echo_eq_iff hfive hpayload

end Answers

/-! ## One read -/

section Read
variable {h : DoIPHandler} {data : List UInt8}

theorem seen_fields (hlen : 8 ≤ data.length) : typeField (seen h data) = typeField data ∧
    lengthField (seen h data) = lengthField data ∧
    (seen h data).drop 8 = data.drop 8 ++ h.buffer.drop data.length ∧
    (seen h data).getD 0 0 = data.getD 0 0 :=
  ⟨typeField_append _ hlen, lengthField_append _ hlen, List.drop_append_of_le_length hlen,
    getD_append _ hlen (by omega)⟩

theorem calls_seen {activated : Bool} (hcalls : Calls activated data) : Calls activated (seen h data) := by
  obtain ⟨hlen, hversion, hkind⟩ := hcalls
  obtain ⟨htype, hlength, -, hfirst⟩ := seen_fields (h := h) hlen
  refine ⟨?_, hfirst.trans hversion, ?_⟩
  · rw [seen, List.length_append]
    omega
  · rw [htype, hlength]
    exact hkind

/-- What a read can do: it runs over both arrays, is answered, or changes nothing but the buffer. -/
inductive Outcome (h : DoIPHandler) (data : List UInt8) : Prop
  | overrun (calls : Calls h.activated data) (type : typeField data = diagnosticMessage)
      (long : 4096 < 8 + (lengthField data).toNat) (written : (h.handle data).2.written = none)
      (status : (h.handle data).1.status = .overrun)
  | answered (calls : Calls h.activated data) (written : (h.handle data).2.written = some (answer (seen h data)))
      (status : (h.handle data).1.status = .running)
      (activated : (h.handle data).1.activated = activatedBy h.activated data)
  | silent (calls : ¬ Calls h.activated data) (written : (h.handle data).2.written = none)
      (status : (h.handle data).1.status = .running) (activated : (h.handle data).1.activated = h.activated)

variable (hrunning : h.status = .running)
include hrunning

theorem handle_undispatched (hne : data ≠ []) (hd : ¬ Dispatched h data) :
    (h.handle data).1.status = .running := by
  have hpos : ¬ (data.take 4096).length = 0 := by
    have := List.length_pos_iff.mpr hne
    rw [List.length_take]
    omega
  unfold DoIPHandler.handle
  dsimp only
  rw [if_neg (not_not.mpr hrunning), if_neg hpos]
  split
  case isTrue => exact hrunning
  case isFalse hshort =>
    have hlen : 8 ≤ (data.take 4096).length := Nat.le_of_not_lt hshort
    split
    case isTrue => exact hrunning
    case isFalse hversion =>
      rw [(received_fields h.buffer hlen).1] at hversion
      exact absurd ⟨hrunning, hlen, not_not.mp hversion⟩ hd

omit hrunning in
/-- The handler with the read in its buffer. -/
theorem handle_seen (hd : Dispatched h data) (hfits : data.length ≤ 4096) :
    ∃ h' : DoIPHandler, h'.status = h.status ∧ h'.activated = h.activated ∧ h.handle data =
      if typeField data = routingActivationReq then
        h'.handleRoutingActivation ((seen h data).drop 8) (lengthField data)
      else if typeField data = diagnosticMessage then
        h'.handleDiagnosticMessage ((seen h data).drop 8) (lengthField data)
      else (h', .none) := by
  have hall : data.take 4096 = data := List.take_of_length_le hfits
  have hlen : 8 ≤ data.length := hall ▸ hd.length
  have heq := handle_of_dispatched hd
  rw [hall] at heq
  dsimp only at heq
  rw [← (seen_fields (h := h) hlen).2.2.1] at heq
  exact ⟨{ h with buffer := receiveInto h.buffer 0 data }, rfl, rfl, heq⟩

theorem outcome_activation (hd : Dispatched h data) (hfits : data.length ≤ 4096)
    (htype : typeField data = routingActivationReq) : Outcome h data := by
  have hall : data.take 4096 = data := List.take_of_length_le hfits
  have hlen : 8 ≤ data.length := hall ▸ hd.length
  have hversion : data.getD 0 0 = protocolVersion := hall ▸ hd.version
  obtain ⟨h', hstatus, hactivated, heq⟩ := handle_seen hd hfits
  rw [if_pos htype, DoIPHandler.handleRoutingActivation] at heq
  by_cases hseven : 7 ≤ (lengthField data).toNat
  · rw [if_neg ((not_lt_iff 7).mpr hseven)] at heq
    refine .answered ⟨hlen, hversion, Or.inl ⟨htype, hseven⟩⟩ ?_ (heq ▸ hstatus.trans hrunning) ?_
    · rw [heq, answer, (seen_fields hlen).1, if_pos htype]
    · rw [heq, activatedBy, decide_eq_true ⟨htype, hseven⟩, Bool.or_true]
  · have hshort : lengthField data < 7 := not_not.mp fun h => hseven ((not_lt_iff 7).mp h)
    rw [if_pos hshort] at heq
    refine .silent ?_ (heq ▸ rfl) (heq ▸ hstatus.trans hrunning) (heq ▸ hactivated)
    rintro ⟨-, -, ⟨-, h⟩ | ⟨h, -⟩⟩
    · exact hseven h
    · exact diagnostic_ne_activation (h.symm.trans htype)

theorem outcome_diagnostic (hd : Dispatched h data) (hfits : data.length ≤ 4096)
    (htype : typeField data = diagnosticMessage) : Outcome h data := by
  have hall : data.take 4096 = data := List.take_of_length_le hfits
  have hlen : 8 ≤ data.length := hall ▸ hd.length
  have hversion : data.getD 0 0 = protocolVersion := hall ▸ hd.version
  have hnot : typeField data ≠ routingActivationReq := htype.symm ▸ diagnostic_ne_activation
  obtain ⟨h', hstatus, hactivated, heq⟩ := handle_seen hd hfits
  rw [if_neg hnot, if_pos htype, DoIPHandler.handleDiagnosticMessage, hactivated] at heq
  by_cases hanswers : h.activated = true ∧ 5 ≤ (lengthField data).toNat
  · obtain ⟨hactive, hfive⟩ := hanswers
    have hcalls : Calls h.activated data := ⟨hlen, hversion, Or.inr ⟨htype, hactive, hfive⟩⟩
    rw [if_neg (by rw [hactive]; decide), if_neg ((not_lt_iff 5).mpr hfive)] at heq
    by_cases hlong : 4096 < 8 + (lengthField data).toNat
    · rw [if_pos hlong] at heq
      exact .overrun hcalls htype hlong (heq ▸ rfl) (heq ▸ rfl)
    · rw [if_neg hlong] at heq
      refine .answered hcalls ?_ (heq ▸ hstatus.trans hrunning) ?_
      · rw [heq, answer, (seen_fields hlen).1, if_neg hnot, (seen_fields hlen).2.1]
      · rw [heq, activatedBy, hactive, Bool.true_or, hactivated, hactive]
  · have hcalls : ¬ Calls h.activated data := by
      rintro ⟨-, -, ⟨h, -⟩ | ⟨-, hactive, hfive⟩⟩
      · exact hnot h
      · exact hanswers ⟨hactive, hfive⟩
    have hnone : h.handle data = (h', .none) := by
      rw [heq]
      cases hactive : h.activated with
      | false => rfl
      | true =>
        have hshort : lengthField data < 5 :=
          not_not.mp fun h => hanswers ⟨hactive, (not_lt_iff 5).mp h⟩
        rw [if_pos hshort]
        rfl
    exact .silent hcalls (hnone ▸ rfl) (hnone ▸ hstatus.trans hrunning) (hnone ▸ hactivated)

theorem outcome (hne : data ≠ []) (hfits : data.length ≤ 4096) : Outcome h data := by
  have hall : data.take 4096 = data := List.take_of_length_le hfits
  by_cases hd : Dispatched h data
  · by_cases hactivation : typeField data = routingActivationReq
    · exact outcome_activation hrunning hd hfits hactivation
    by_cases hdiagnostic : typeField data = diagnosticMessage
    · exact outcome_diagnostic hrunning hd hfits hdiagnostic
    obtain ⟨h', hstatus, hactivated, heq⟩ := handle_seen hd hfits
    rw [if_neg hactivation, if_neg hdiagnostic] at heq
    refine .silent ?_ (heq ▸ rfl) (heq ▸ hstatus.trans hrunning) (heq ▸ hactivated)
    rintro ⟨-, -, ⟨h, -⟩ | ⟨h, -⟩⟩
    · exact hactivation h
    · exact hdiagnostic h
  · obtain ⟨hnone, hactivated⟩ := handle_of_not_dispatched hd
    refine .silent ?_ (hnone ▸ rfl) (handle_undispatched hrunning hne hd) hactivated
    rintro ⟨hlen, hversion, -⟩
    exact hd ⟨hrunning, hall.symm ▸ hlen, hall.symm ▸ hversion⟩

end Read

/-! ## Frames -/

section Frames
variable {h : DoIPHandler} {frame : List UInt8} {frames : List (List UInt8)} {activated : Bool}

theorem responses_cons (h : DoIPHandler) (data : List UInt8) (reads : List (List UInt8)) :
    responses h (data :: reads) = (h.handle data).2.written.toList ++ responses (h.handle data).1 reads := by
  cases hw : (h.handle data).2.written <;>
    simp [responses, Machine.trace_cons, Machine.stepAt, mbedtlsMachine, hw]

theorem responses_append (h : DoIPHandler) (reads more : List (List UInt8)) :
    responses h (reads ++ more) = responses h reads ++ responses (mbedtlsMachine.run h reads) more := by
  simp only [responses, Machine.trace_append, List.filterMap_append]

theorem WellFormed.ne_nil (hf : WellFormed frame) : frame ≠ [] := by
  have := hf.declared
  exact List.ne_nil_of_length_pos (by omega)

theorem activatedBy_eq (hf : WellFormed frame) : activatedBy activated frame =
    (activated || (decide (Calls activated frame) && decide (typeField frame = routingActivationReq))) := by
  have hlen : 8 ≤ frame.length := by
    have := hf.declared
    omega
  have hiff : (typeField frame = routingActivationReq ∧ 7 ≤ (lengthField frame).toNat) ↔
      Calls activated frame ∧ typeField frame = routingActivationReq := by
    constructor
    · intro h
      exact ⟨⟨hlen, hf.version.1, Or.inl h⟩, h.1⟩
    · rintro ⟨⟨-, -, h | ⟨hdiagnostic, -⟩⟩, htype⟩
      · exact h
      · exact absurd (hdiagnostic.symm.trans htype) diagnostic_ne_activation
  rw [activatedBy, ← Bool.decide_and]
  simp only [hiff]

theorem activatedBy_of_not_calls (hf : WellFormed frame) (hcalls : ¬ Calls activated frame) :
    activatedBy activated frame = activated := by
  rw [activatedBy_eq hf, decide_eq_false hcalls, Bool.false_and, Bool.or_false]

/-- Behind a list of frames a session is active if it was before or one of the answered frames is an
activation request. -/
theorem foldl_activatedBy (hframes : ∀ f ∈ frames, WellFormed f) :
    frames.foldl activatedBy activated =
      (activated || (owed activated frames).any fun f => decide (typeField f = routingActivationReq)) := by
  induction frames generalizing activated with
  | nil => exact (Bool.or_false activated).symm
  | cons f fs ih =>
    have hf : WellFormed f := hframes f (by simp)
    rw [List.foldl_cons, ih fun g hg => hframes g (by simp [hg]), owed, List.any_append, activatedBy_eq hf,
      Bool.or_assoc]
    by_cases hcalls : Calls activated f <;> simp [hcalls]

theorem mem_owed (hf : frame ∈ owed activated frames) :
    frame ∈ frames ∧ ∃ activated', Calls activated' frame := by
  induction frames generalizing activated with
  | nil => exact absurd hf List.not_mem_nil
  | cons f fs ih =>
    rw [owed, List.mem_append] at hf
    rcases hf with hf | hf
    · by_cases hcalls : Calls activated f
      · rw [if_pos hcalls, List.mem_singleton] at hf
        subst hf
        exact ⟨by simp, activated, hcalls⟩
      · rw [if_neg hcalls] at hf
        exact absurd hf List.not_mem_nil
    · obtain ⟨hmem, hcalls⟩ := ih hf
      exact ⟨by simp [hmem], hcalls⟩

theorem conveys_seen (hf : WellFormed frame) (hcalls : Calls activated frame) :
    Conveys (seen h frame) frame := by
  have hdeclared := hf.declared
  obtain ⟨htype, hlength, hpayload, -⟩ := seen_fields (h := h) hcalls.1
  have hlen : (frame.drop 8).length = (lengthField frame).toNat := by
    rw [List.length_drop]
    omega
  refine ⟨htype, ?_⟩
  rw [hpayload]
  split
  case isTrue hactivation =>
    have hseven : 7 ≤ (frame.drop 8).length := by
      rcases hcalls.2.2 with ⟨-, hseven⟩ | ⟨hdiagnostic, -⟩
      · omega
      · exact absurd (hdiagnostic.symm.trans hactivation) diagnostic_ne_activation
    exact ⟨List.getD_append _ _ _ _ (by omega), List.getD_append _ _ _ _ (by omega)⟩
  case isFalse => exact ⟨hlength, List.take_left' hlen⟩

/-- A whole frame in one read is answered from itself. -/
theorem handle_frame (hrunning : h.status = .running) (hf : WellFormed frame) :
    (h.handle frame).2.written = (if Calls h.activated frame then some (answer frame) else none) ∧
      (h.handle frame).1.status = .running ∧
      (h.handle frame).1.activated = activatedBy h.activated frame := by
  cases outcome hrunning hf.ne_nil hf.fits with
  | overrun _ _ long _ _ =>
    have hdeclared := hf.declared
    have hfits := hf.fits
    omega
  | answered calls written status activated =>
    have hanswer : answer (seen h frame) = answer frame :=
      (answer_eq_iff (calls_seen calls) calls hf.declared).mpr (conveys_seen hf calls)
    exact ⟨by rw [written, hanswer, if_pos calls], status, activated⟩
  | silent calls written status activated =>
    exact ⟨by rw [written, if_neg calls], status, by rw [activated, activatedBy_of_not_calls hf calls]⟩

theorem responses_frames (hrunning : h.status = .running) (hframes : ∀ f ∈ frames, WellFormed f) :
    responses h frames = (owed h.activated frames).map answer ∧
      (mbedtlsMachine.run h frames).status = .running ∧
      (mbedtlsMachine.run h frames).activated = frames.foldl activatedBy h.activated := by
  induction frames generalizing h with
  | nil => exact ⟨rfl, hrunning, rfl⟩
  | cons f fs ih =>
    obtain ⟨hwritten, hstatus, hactivated⟩ := handle_frame hrunning (hframes f (by simp))
    obtain ⟨hresponses, hstatus', hactivated'⟩ := ih hstatus fun g hg => hframes g (by simp [hg])
    refine ⟨?_, hstatus', ?_⟩
    · rw [responses_cons, hresponses, hwritten, hactivated, owed, List.map_append]
      split <;> rfl
    · rw [Machine.run_cons]
      exact hactivated'.trans (by rw [hactivated, List.foldl_cons])

end Frames

/-! ## A read against the frames that begin in it -/

section Carries
variable {h : DoIPHandler} {data : List UInt8} {begun : List (List UInt8)} (hrunning : h.status = .running)
  (hne : data ≠ []) (hfits : data.length ≤ 4096) (hbegun : ∀ f ∈ begun, WellFormed f)
include hrunning hne hfits hbegun

theorem readCarries_iff : ReadCarries h data begun ↔ (h.handle data).1.status ≠ .overrun ∧
    (h.handle data).2.written.toList = (owed h.activated begun).map answer := by
  have hout := outcome hrunning hne hfits
  have howed : ∀ frame ∈ owed h.activated begun, frame ∈ begun ∧ ∃ activated', Calls activated' frame :=
    fun _ => mem_owed
  unfold ReadCarries
  match owed h.activated begun, howed with
  | [], _ =>
    cases hout with
    | overrun calls _ _ _ status => exact iff_of_false (not_not.mpr calls) fun h => h.1 status
    | answered calls written _ _ => exact iff_of_false (not_not.mpr calls) (by simp [written])
    | silent calls written status _ => exact iff_of_true calls (by simp [written, status])
  | [frame], howed =>
    obtain ⟨hmem, activated', hcalls⟩ := howed frame (by simp)
    have hframe := hbegun frame hmem
    cases hout with
    | overrun calls type long _ status =>
      refine iff_of_false ?_ fun h => h.1 status
      rintro ⟨-, htype, hconveys⟩
      rw [(seen_fields calls.1).1, type] at htype
      rw [if_neg (htype ▸ diagnostic_ne_activation), (seen_fields calls.1).2.1] at hconveys
      have hdeclared := hframe.declared
      have hroom := hframe.fits
      rw [← hconveys.1] at hdeclared
      omega
    | answered calls written status _ =>
      have hanswer := answer_eq_iff (calls_seen (h := h) calls) hcalls hframe.declared
      simp [calls, written, status, hanswer]
    | silent calls written _ _ => exact iff_of_false (fun h => calls h.1) (by simp [written])
  | _ :: _ :: _, _ =>
    refine iff_of_false id fun hboth => ?_
    have hlen := congrArg List.length hboth.2
    cases hw : (h.handle data).2.written <;> simp [hw] at hlen

/-- The activation state follows the frames. -/
theorem ReadCarries.step (hc : ReadCarries h data begun) : (h.handle data).1.status = .running ∧
    (h.handle data).1.activated = begun.foldl activatedBy h.activated := by
  have hfold : begun.foldl activatedBy h.activated = (h.activated ||
      (owed h.activated begun).any fun f => decide (typeField f = routingActivationReq)) :=
    foldl_activatedBy hbegun
  obtain ⟨hcontained, hwritten⟩ := (readCarries_iff hrunning hne hfits hbegun).mp hc
  have hout := outcome hrunning hne hfits
  unfold ReadCarries at hc
  rw [hfold]
  generalize owed h.activated begun = answered at hc hwritten ⊢
  cases hout with
  | overrun _ _ _ _ status => exact absurd status hcontained
  | silent _ written status activated =>
    rw [written] at hwritten
    obtain rfl := List.map_eq_nil_iff.mp hwritten.symm
    exact ⟨status, by rw [activated, List.any_nil, Bool.or_false]⟩
  | answered calls written status activated =>
    match answered, hc, hwritten with
    | [], hc, _ => exact absurd calls hc
    | [frame], ⟨_, htype, _⟩, _ =>
      rw [(seen_fields calls.1).1] at htype
      refine ⟨status, ?_⟩
      rw [activated, activatedBy, List.any_cons, List.any_nil, Bool.or_false, htype]
      congr 1
      apply decide_eq_decide.mpr
      refine and_iff_left_of_imp fun hactivation => ?_
      rcases calls.2.2 with ⟨-, hseven⟩ | ⟨hdiagnostic, -⟩
      · exact hseven
      · exact absurd (hdiagnostic.symm.trans (htype.trans hactivation)) diagnostic_ne_activation

end Carries

/-! ## Whole streams -/

/-- Every read of the stream carries the frames that begin in it. -/
def Carried (memory : List UInt8) (frames reads : List (List UInt8)) : Prop :=
  readingMachine.Admits (fun _ s data => ReadCarries s.handler data (s.unread.take data.length).1)
    (.init memory frames) reads

section Stream
variable {memory data : List UInt8} {frames reads : List (List UInt8)}

/-- The frames that begin in the reads. -/
def begunIn (frames reads : List (List UInt8)) : List (List UInt8) :=
  ((Unread.mk 0 frames).take reads.flatten.length).1

theorem reading_run (reads : List (List UInt8)) :
    (readingMachine.run (.init memory frames) reads).handler = mbedtlsMachine.run (.init memory) reads ∧
      (readingMachine.run (.init memory frames) reads).unread =
        ((Unread.mk 0 frames).take reads.flatten.length).2 := by
  induction reads using List.reverseRecOn with
  | nil => exact ⟨rfl, by rw [List.flatten_nil, List.length_nil, Unread.take_zero]; rfl⟩
  | append_singleton reads data ih =>
    rw [Machine.run_concat, Machine.run_concat, ← ih.1]
    refine ⟨rfl, ?_⟩
    rw [List.flatten_append, List.length_append, List.flatten_singleton]
    exact (congrArg (fun u => (u.take data.length).2) ih.2).trans
      (congrArg Prod.snd (Unread.takeFrom_add 0 _ data.length frames)).symm

/-- The frames that begin in one read more. -/
theorem begunIn_concat (memory : List UInt8) (frames reads : List (List UInt8)) (data : List UInt8) :
    begunIn frames (reads ++ [data]) = begunIn frames reads ++
      ((readingMachine.run (.init memory frames) reads).unread.take data.length).1 := by
  rw [(reading_run reads).2, begunIn, List.flatten_append, List.length_append, List.flatten_singleton]
  exact congrArg Prod.fst (Unread.takeFrom_add 0 _ data.length frames)

theorem begunIn_subset {f : List UInt8} (hf : f ∈ begunIn frames reads) : f ∈ frames := by
  have hsplit := Unread.takeFrom_append 0 reads.flatten.length frames
  rw [← hsplit]
  exact List.mem_append_left _ hf

variable (hframes : ∀ f ∈ frames, WellFormed f)
include hframes

theorem carried_run (hreads : ∀ data ∈ reads, data ≠ [] ∧ data.length ≤ 4096)
    (hcarried : Carried memory frames reads) : (mbedtlsMachine.run (.init memory) reads).status = .running ∧
      (mbedtlsMachine.run (.init memory) reads).activated = (begunIn frames reads).foldl activatedBy false := by
  induction reads using List.reverseRecOn with
  | nil =>
    have hnone : begunIn frames [] = [] := congrArg Prod.fst (Unread.take_zero _)
    exact ⟨rfl, by rw [hnone]; rfl⟩
  | append_singleton reads data ih =>
    obtain ⟨hpast, hlast⟩ := Machine.admits_concat.mp hcarried
    obtain ⟨hstatus, hactivated⟩ := ih (fun d hd => hreads d (by simp [hd])) hpast
    obtain ⟨hne, hfits⟩ := hreads data (by simp)
    have hconcat := begunIn_concat memory frames reads data
    rw [(reading_run reads).1] at hlast
    obtain ⟨hstatus', hactivated'⟩ := hlast.step hstatus hne hfits fun f hf =>
      hframes f (begunIn_subset (by rw [hconcat]; exact List.mem_append_right _ hf))
    rw [Machine.run_concat, hconcat, List.foldl_append, ← hactivated]
    exact ⟨hstatus', hactivated'⟩

theorem answeredSoFar_concat (hne : data ≠ []) (hfits : data.length ≤ 4096)
    (hreads : ∀ data ∈ reads, data ≠ [] ∧ data.length ≤ 4096) (hcarried : Carried memory frames reads)
    (hpast : AnsweredSoFar memory frames reads) : AnsweredSoFar memory frames (reads ++ [data]) ↔
      ReadCarries (readingMachine.run (.init memory frames) reads).handler data
        ((readingMachine.run (.init memory frames) reads).unread.take data.length).1 := by
  obtain ⟨hstatus, hactivated⟩ := carried_run hframes hreads hcarried
  have hconcat := begunIn_concat memory frames reads data
  generalize hnew : ((readingMachine.run (.init memory frames) reads).unread.take data.length).1 = new
  rw [hnew] at hconcat
  have hwf : ∀ f ∈ begunIn frames reads ++ new, WellFormed f := fun f hf =>
    hframes f (begunIn_subset (hconcat ▸ hf))
  obtain ⟨-, hstatus', hactivated'⟩ := responses_frames (h := .init memory) rfl
    fun f hf => hwf f (List.mem_append_left _ hf)
  have hreference := (responses_frames hstatus' fun f hf => hwf f (List.mem_append_right _ hf)).1
  rw [hactivated', show (DoIPHandler.init memory).activated = false from rfl, ← hactivated] at hreference
  rw [(reading_run reads).1, readCarries_iff hstatus hne hfits fun f hf => hwf f (List.mem_append_right _ hf)]
  have hanswered : responses (.init memory) (reads ++ [data]) =
        responses (.init memory) (begunIn frames (reads ++ [data])) ↔
      (DoIPHandler.handle (mbedtlsMachine.run (.init memory) reads) data).2.written.toList =
        (owed (mbedtlsMachine.run (.init memory) reads).activated new).map answer := by
    have hsame : responses (.init memory) reads = responses (.init memory) (begunIn frames reads) :=
      hpast.answered
    rw [hconcat, responses_append, responses_append, hsame, hreference, List.append_cancel_left_eq,
      responses_cons]
    exact Iff.of_eq (by rw [show responses _ [] = [] from rfl, List.append_nil])
  constructor
  · intro h
    have hcontained := h.contained
    rw [Machine.run_concat] at hcontained
    exact ⟨hcontained, hanswered.mp h.answered⟩
  · rintro ⟨hcontained, hwritten⟩
    refine ⟨?_, hanswered.mpr hwritten⟩
    rw [Machine.run_concat]
    exact hcontained

/-- **Segments.** However TLS cuts a stream of frames, what was written is at every point what
one-frame reads of the frames begun so far would be answered, exactly when every read carries the frames
that begin in it; and what is so at the end of the stream is what the frames one by one are answered. -/
theorem reads_answered_iff (memory : List UInt8) (hreads : ∀ data ∈ reads, data ≠ [] ∧ data.length ≤ 4096)
    (hstream : reads.flatten = frames.flatten) :
    ((∀ past, past <+: reads → AnsweredSoFar memory frames past) ↔ Carried memory frames reads) ∧
    (AnsweredSoFar memory frames reads → responses (.init memory) reads = responses (.init memory) frames) := by
  constructor
  · have hnone : begunIn frames [] = [] := congrArg Prod.fst (Unread.take_zero _)
    refine Machine.admits_iff_forall_prefix ⟨ThreadStatus.noConfusion, ?_⟩ ?_
    · exact (congrArg (responses (.init memory)) hnone).symm
    · intro past data rest hsplit hcarried hpast
      obtain ⟨hne, hfits⟩ := hreads data (by rw [hsplit]; simp)
      exact answeredSoFar_concat hframes hne hfits (fun d hd => hreads d (by rw [hsplit]; simp [hd]))
        hcarried hpast
  · intro h
    have hall : ((Unread.mk 0 frames).take reads.flatten.length).1 = frames := by
      have hne : ∀ f ∈ frames, f ≠ [] := fun f hf => (hframes f hf).ne_nil
      have hflatten := Unread.takeFrom_flatten hne 0
      rw [Nat.zero_add, ← hstream] at hflatten
      exact hflatten
    rw [h.answered, hall]

end Stream

theorem wellFormed_wire {type : UInt16} {payload : List UInt8}
    (htype : type = routingActivationReq ∨ type = diagnosticMessage) (hlen : payload.length ≤ 4088) :
    WellFormed (wire type payload) where
  version := versionOk_frame _ _ _
  type := by rw [wire, typeField_frame]; exact htype
  declared := by rw [wire, lengthField_frame, frame_length, lengthOf_toNat (by omega)]
  fits := by rw [wire, frame_length]; omega

/-- An activation request and a diagnostic message, each in a read of its own. -/
theorem reads_answered_whole :
    (∀ past, past <+: [wire 0x0005 [0x0E, 0x00, 0x00, 0, 0, 0, 0],
          wire 0x8001 [0x0E, 0x00, 0x02, 0x01, 0x3E, 0x00]] →
        AnsweredSoFar [] [wire 0x0005 [0x0E, 0x00, 0x00, 0, 0, 0, 0],
          wire 0x8001 [0x0E, 0x00, 0x02, 0x01, 0x3E, 0x00]] past) ↔
      Carried []
        [wire 0x0005 [0x0E, 0x00, 0x00, 0, 0, 0, 0], wire 0x8001 [0x0E, 0x00, 0x02, 0x01, 0x3E, 0x00]]
        [wire 0x0005 [0x0E, 0x00, 0x00, 0, 0, 0, 0], wire 0x8001 [0x0E, 0x00, 0x02, 0x01, 0x3E, 0x00]] := by
  refine (reads_answered_iff ?_ [] (by decide) rfl).1
  intro f hf
  rcases List.mem_cons.mp hf with rfl | hf
  · exact wellFormed_wire (Or.inl rfl) (by decide)
  · obtain rfl := List.mem_singleton.mp hf
    exact wellFormed_wire (Or.inr rfl) (by decide)

/-- An activation request as the simulator's client writes it. -/
theorem split_activation_misanswered :
    WellFormed (wire 0x0005 [0x0E, 0x00, 0x00, 0, 0, 0, 0]) ∧
    (sendDoipPacket 0x0005 [0x0E, 0x00, 0x00, 0, 0, 0, 0] 7 ⟨8, 7⟩).writes.flatten =
      [wire 0x0005 [0x0E, 0x00, 0x00, 0, 0, 0, 0]].flatten ∧
    responses (.init (List.replicate 4096 0))
        (sendDoipPacket 0x0005 [0x0E, 0x00, 0x00, 0, 0, 0, 0] 7 ⟨8, 7⟩).writes ≠
      responses (.init (List.replicate 4096 0)) [wire 0x0005 [0x0E, 0x00, 0x00, 0, 0, 0, 0]] :=
  ⟨wellFormed_wire (Or.inl rfl) (by decide), by decide, by decide⟩

end Mcus.Doip
