import Mcus.Doip.MbedtlsServer

/-! # What the mbedTLS server echoes

The handlers believe the declared length. If a frame declares more than was read, the echo is filled
up with what earlier reads left in the buffer, or with the stack below it, and beyond 4088 bytes both
arrays overflow. The other server checks the length it received. Frames that arrived as far as they
are used are answered from the read alone.
-/

namespace Mcus.Doip
open ByteOrder Runs
set_option autoImplicit false

/-- Every byte used was read just now, the response fits its array, and another session in the same
activation state answers this read in the same way, whatever it read before and found on its stack. -/
structure ReadConfined (h : DoIPHandler) (data : List UInt8) : Prop where
  inside : (h.handle data).2.used ≤ (data.take 4096).length
  fits : (h.handle data).2.pos ≤ 4096
  own : ∀ memory reads, (mbedtlsMachine.run (.init memory) reads).activated = h.activated →
    (mbedtlsMachine.run (.init memory) reads).status = h.status →
      ((mbedtlsMachine.run (.init memory) reads).handle data).2.written = (h.handle data).2.written

/-- An activation request of at least seven declared bytes brings its source address, and a
diagnostic message of at least five, on an activated session, all its declared bytes. -/
structure DeclaresReceived (h : DoIPHandler) (data : List UInt8) : Prop where
  activation : Dispatched h data → typeField (data.take 4096) = routingActivationReq →
    7 ≤ (lengthField (data.take 4096)).toNat → 10 ≤ (data.take 4096).length
  diagnostic : Dispatched h data → typeField (data.take 4096) = diagnosticMessage →
    h.activated = true → 5 ≤ (lengthField (data.take 4096)).toNat →
      8 + (lengthField (data.take 4096)).toNat ≤ (data.take 4096).length

variable {h h' : DoIPHandler} {data payload : List UInt8} {len : UInt32}

/-! ## The two handlers -/

theorem not_lt_iff (bound : UInt32) : ¬ len < bound ↔ bound.toNat ≤ len.toNat := by
  rw [UInt32.lt_iff_toNat_lt, Nat.not_lt]

theorem diagLen_toNat (hlen : 5 ≤ len.toNat) : (len - 4).toNat = len.toNat - 4 := by
  have h4 : (4 : UInt32).toNat = 4 := rfl
  rw [UInt32.toNat_sub_of_le _ _ (UInt32.le_iff_toNat_le.mpr (by omega)), h4]

theorem echo_length_le (hlen : 5 ≤ len.toNat) : (DoIPHandler.echo payload len).length ≤ 8 + len.toNat := by
  have hdiag := diagLen_toNat hlen
  simp only [DoIPHandler.echo, frame_length, List.length_append, List.length_cons, List.length_nil,
    List.length_take]
  omega

/-- The echo reads no further than the declared length. -/
theorem echo_append (rest : List UInt8) (hlen : 5 ≤ len.toNat) (hpayload : len.toNat ≤ payload.length) :
    DoIPHandler.echo (payload ++ rest) len = DoIPHandler.echo payload len := by
  have hdiag := diagLen_toNat hlen
  have hget : ∀ i < 4, (payload ++ rest).getD i 0 = payload.getD i 0 := by
    intro i hi
    exact List.getD_append _ _ _ _ (by omega)
  have htake : ((payload ++ rest).drop 4).take (len - 4).toNat = (payload.drop 4).take (len - 4).toNat := by
    rw [List.drop_append_of_le_length (by omega), List.take_append_of_le_length]
    rw [List.length_drop]
    omega
  unfold DoIPHandler.echo
  dsimp only
  rw [hget 0 (by omega), hget 1 (by omega), hget 2 (by omega), hget 3 (by omega), htake]

theorem activation_reply (hlen : 7 ≤ len.toNat) : (h.handleRoutingActivation payload len).2 =
    ⟨10, 17, some (frame routingActivationRes 9 (beBytes16 (word16 (payload.getD 0 0) (payload.getD 1 0)) ++
      [0x00, 0x01, 0x10, 0x00, 0x00, 0x00, 0x00]))⟩ := by
  unfold DoIPHandler.handleRoutingActivation
  rw [if_neg ((not_lt_iff 7).mpr hlen)]
  rfl

theorem diagnostic_used (hactivated : h.activated = true) (hlen : 5 ≤ len.toNat) :
    (h.handleDiagnosticMessage payload len).2.used = 8 + len.toNat := by
  unfold DoIPHandler.handleDiagnosticMessage
  rw [hactivated, if_neg ((not_lt_iff 5).mpr hlen)]
  split
  case isTrue hnot => cases hnot
  case isFalse => split <;> rfl

theorem diagnostic_reply (hactivated : h.activated = true) (hlen : 5 ≤ len.toNat)
    (hroom : 8 + len.toNat ≤ 4096) : (h.handleDiagnosticMessage payload len).2 =
      ⟨8 + len.toNat, (DoIPHandler.echo payload len).length, some (DoIPHandler.echo payload len)⟩ := by
  unfold DoIPHandler.handleDiagnosticMessage
  rw [hactivated, if_neg ((not_lt_iff 5).mpr hlen), if_neg (Nat.not_lt.mpr hroom)]
  rfl

/-! ## One read -/

theorem dispatched_congr (hstatus : h'.status = h.status) (data : List UInt8) :
    Dispatched h' data ↔ Dispatched h data :=
  ⟨fun hd => ⟨hstatus ▸ hd.running, hd.length, hd.version⟩,
    fun hd => ⟨hstatus.trans hd.running, hd.length, hd.version⟩⟩

theorem DeclaresReceived.congr (hc : DeclaresReceived h data) (hactivated : h'.activated = h.activated)
    (hstatus : h'.status = h.status) : DeclaresReceived h' data where
  activation hd := hc.activation ((dispatched_congr hstatus _).mp hd)
  diagnostic hd htype hact := hc.diagnostic ((dispatched_congr hstatus _).mp hd) htype (hactivated ▸ hact)

/-- The reply to a read that brought what it declares, computed from the read alone. -/
def ownReply (activated : Bool) (received : List UInt8) : Reply :=
  let payload := received.drop 8
  let len := lengthField received
  if typeField received = routingActivationReq ∧ 7 ≤ len.toNat then
    ⟨10, 17, some (frame routingActivationRes 9
      (beBytes16 (word16 (payload.getD 0 0) (payload.getD 1 0)) ++
        [0x00, 0x01, 0x10, 0x00, 0x00, 0x00, 0x00]))⟩
  else if typeField received = diagnosticMessage ∧ activated = true ∧ 5 ≤ len.toNat then
    ⟨8 + len.toNat, (DoIPHandler.echo payload len).length, some (DoIPHandler.echo payload len)⟩
  else .none

theorem reply_eq_own (hd : Dispatched h data) (hc : DeclaresReceived h data) :
    (h.handle data).2 = ownReply h.activated (data.take 4096) := by
  have hroom : (data.take 4096).length ≤ 4096 := List.length_take_le 4096 data
  have hlen := hd.length
  have hactivation := hc.activation hd
  have hdiagnostic := hc.diagnostic hd
  rw [handle_of_dispatched hd]
  generalize data.take 4096 = received at hroom hlen hactivation hdiagnostic ⊢
  have hpayload : (received.drop 8).length = received.length - 8 := List.length_drop
  unfold ownReply
  dsimp only
  by_cases htype : typeField received = routingActivationReq
  · have hnot : typeField received ≠ diagnosticMessage := by rw [htype]; decide
    by_cases hseven : 7 ≤ (lengthField received).toNat
    · have hten := hactivation htype hseven
      rw [if_pos htype, if_pos ⟨htype, hseven⟩, activation_reply hseven,
        List.getD_append _ _ _ _ (by omega), List.getD_append _ _ _ _ (by omega)]
    · have hshort : lengthField received < 7 := not_not.mp fun h => hseven ((not_lt_iff 7).mp h)
      have hother : ¬ (typeField received = diagnosticMessage ∧ h.activated = true ∧
        5 ≤ (lengthField received).toNat) := fun h => hnot h.1
      rw [if_pos htype, if_neg (fun h => hseven h.2), if_neg hother]
      unfold DoIPHandler.handleRoutingActivation
      rw [if_pos hshort]
  · have hother : ¬ (typeField received = routingActivationReq ∧ 7 ≤ (lengthField received).toNat) :=
      fun h => htype h.1
    rw [if_neg htype, if_neg hother]
    by_cases hdiag : typeField received = diagnosticMessage
    · rw [if_pos hdiag]
      by_cases hanswers : h.activated = true ∧ 5 ≤ (lengthField received).toNat
      · have hfits := hdiagnostic hdiag hanswers.1 hanswers.2
        rw [if_pos ⟨hdiag, hanswers⟩, diagnostic_reply
          (h := { h with buffer := receiveInto h.buffer 0 received }) hanswers.1 hanswers.2
          (hfits.trans hroom), echo_append _ hanswers.2 (by omega)]
      · rw [if_neg (fun h => hanswers h.2)]
        unfold DoIPHandler.handleDiagnosticMessage
        cases hactivated : h.activated with
        | false => rfl
        | true =>
          have hshort : lengthField received < 5 :=
            not_not.mp fun h => hanswers ⟨hactivated, (not_lt_iff 5).mp h⟩
          rw [if_pos hshort]
          rfl
    · have hnone : ¬ (typeField received = diagnosticMessage ∧ h.activated = true ∧
        5 ≤ (lengthField received).toNat) := fun h => hdiag h.1
      rw [if_neg hdiag, if_neg hnone]

theorem ownReply_bounds {activated : Bool} {received : List UInt8} (hroom : received.length ≤ 4096)
    (hten : typeField received = routingActivationReq → 7 ≤ (lengthField received).toNat →
      10 ≤ received.length)
    (hfits : typeField received = diagnosticMessage → activated = true →
      5 ≤ (lengthField received).toNat → 8 + (lengthField received).toNat ≤ received.length) :
    (ownReply activated received).used ≤ received.length ∧ (ownReply activated received).pos ≤ 4096 := by
  unfold ownReply
  dsimp only
  split
  case isTrue h => exact ⟨hten h.1 h.2, by norm_num⟩
  case isFalse =>
    split
    case isTrue h =>
      have hlen := hfits h.1 h.2.1 h.2.2
      exact ⟨hlen, ((echo_length_le h.2.2).trans hlen).trans hroom⟩
    case isFalse => exact ⟨Nat.zero_le _, Nat.zero_le _⟩

theorem readConfined_iff (h : DoIPHandler) (data : List UInt8) :
    ReadConfined h data ↔ DeclaresReceived h data := by
  constructor
  · intro hconfined
    have hinside := hconfined.inside
    constructor
    · intro hd htype hseven
      rw [handle_of_dispatched hd] at hinside
      dsimp only at hinside
      rw [if_pos htype, activation_reply hseven] at hinside
      exact hinside
    · intro hd htype hactivated hfive
      have hnot : typeField (data.take 4096) ≠ routingActivationReq := by rw [htype]; decide
      rw [handle_of_dispatched hd] at hinside
      dsimp only at hinside
      rw [if_neg hnot, if_pos htype, diagnostic_used
        (h := { h with buffer := receiveInto h.buffer 0 (data.take 4096) }) hactivated hfive] at hinside
      exact hinside
  · intro hc
    by_cases hd : Dispatched h data
    · have hroom : (data.take 4096).length ≤ 4096 := List.length_take_le 4096 data
      obtain ⟨hused, hpos⟩ := ownReply_bounds hroom (hc.activation hd) (hc.diagnostic hd)
      rw [← reply_eq_own hd hc] at hused hpos
      refine ⟨hused, hpos, fun memory reads hactivated hstatus => ?_⟩
      have hd' := (dispatched_congr hstatus data).mpr hd
      rw [reply_eq_own hd' (hc.congr hactivated hstatus), reply_eq_own hd hc, hactivated]
    · have hnone := (handle_of_not_dispatched hd).1
      refine ⟨by rw [hnone]; exact Nat.zero_le _, by rw [hnone]; exact Nat.zero_le _, ?_⟩
      intro memory reads _ hstatus
      have hd' := (not_congr (dispatched_congr hstatus data)).mpr hd
      rw [(handle_of_not_dispatched hd').1, hnone]

/-! ## Whole sessions -/

/-- **Confinement.** Whatever the stack holds, every read of a session is answered from its own bytes,
within the response array, exactly when every frame that a handler takes up brought the bytes it
declares. -/
theorem session_confined_iff (memory : List UInt8) (reads : List (List UInt8)) :
    mbedtlsMachine.Admits (fun _ h data => ReadConfined h data) (.init memory) reads ↔
      mbedtlsMachine.Admits (fun _ h data => DeclaresReceived h data) (.init memory) reads := by
  simp only [readConfined_iff]

/-- An activation request, and a diagnostic message that declares 100 bytes and brings five. -/
theorem short_message_leaks :
    ¬ mbedtlsMachine.Admits (fun _ h data => ReadConfined h data) (.init (List.replicate 4096 0))
      [frame 0x0005 7 [0x0E, 0x00, 0x00, 0x00, 0x00, 0x00, 0x00],
        frame 0x8001 100 [0x0E, 0x00, 0x00, 0x01, 0x3E]] := by
  intro hall
  have hconfined := hall [_] _ [] rfl
  have hactivated : (mbedtlsMachine.run (.init (List.replicate 4096 0))
      [frame 0x0005 7 [0x0E, 0x00, 0x00, 0x00, 0x00, 0x00, 0x00]]).activated = true := by decide
  have hrunning : (mbedtlsMachine.run (.init (List.replicate 4096 0))
      [frame 0x0005 7 [0x0E, 0x00, 0x00, 0x00, 0x00, 0x00, 0x00]]).status = .running := by decide
  have hreceived := (readConfined_iff _ _).mp hconfined
  exact absurd (hreceived.diagnostic ⟨hrunning, by decide, by decide⟩ (by decide) hactivated (by decide))
    (by decide)

end Mcus.Doip
