import Mcus.Doip.PqcReceive
import Mcus.Foundations.CString

/-! # The answer to a routing activation

Both clients of the simulator read the answer into a buffer on their stack and look at one byte of it for the
result code. `PQC_DoIP_Client` does not compare the length of the payload with the position of that byte, and
`TC375_DoIP_Client` compares neither the number of bytes it has read nor the declared length with it.
-/

namespace Mcus.Doip
open ByteOrder CString RecordLayer
set_option autoImplicit false

universe v

/-- A buffer on the stack, with `data` read into it. -/
def filled {n : ℕ} (buf : CharArray n) (data : List UInt8) : List UInt8 := data ++ buf.bytes.drop data.length

/-- The payload of the request. -/
def activationRequest (sourceAddress : UInt16) : List UInt8 := beBytes16 sourceAddress ++ [0x00, 0, 0, 0, 0]

structure TC375DoipClient where
  sourceAddress : UInt16
  connected : Bool
  routingActivated : Bool
  deriving DecidableEq

section Clients
variable {σ : Type v} (ssl : RecordStack σ UInt8) (s : σ)

/-- `connected` is the flag of the client, and `buf` what `resp_payload` holds at first. -/
def PqcDoipClient.sendRoutingActivation (client : PqcDoipClient) (connected : Bool) (write : SslWrite)
    (buf : CharArray 256) : σ × PqcDoipClient × Bool :=
  if !connected then (s, client, false)
  else if (sendDoipPacket routingActivationReq (activationRequest client.sourceAddress) 7 write).result < 0 then
    (s, client, false)
  else
    let (s, packet) := recvDoipPacket ssl s 256
    if packet.result < 0 ∨ packet.payloadType ≠ some routingActivationRes then (s, client, false)
    else
      let resultCode := (filled buf packet.payload).getD 4 0
      if resultCode = 0x10 then (s, { client with routingActivated := true }, true)
      else (s, client, false)

/-- `buf` is what `response` holds at first. -/
def TC375DoipClient.sendRoutingActivation (client : TC375DoipClient) (mbedtlsSslWrite : List UInt8 → Int)
    (buf : CharArray 256) : σ × TC375DoipClient × Bool :=
  if !client.connected then (s, client, false)
  else if mbedtlsSslWrite (frame routingActivationReq 7 (activationRequest client.sourceAddress)) < 0 then
    (s, client, false)
  else
    let (s, read) := ssl.read s 256
    if read.ret < 8 then (s, client, false)
    else
      let response := filled buf read.data
      if typeField response = routingActivationRes then
        let resultCode := response.getD 12 0
        if resultCode = 0x10 then (s, { client with routingActivated := true }, true)
        else (s, client, false)
      else (s, client, false)

end Clients

/-! ## What an answer is -/

/-- The bytes begin with a routing activation response whose payload has a result code, and it is `0x10`. -/
structure HasResponse (received : List UInt8) : Prop where
  type : typeField received = routingActivationRes
  declared : 5 ≤ (lengthField received).toNat
  whole : 8 + (lengthField received).toNat ≤ received.length
  resultCode : received[12]? = some 0x10

section Conditions
variable {σ : Type v} (ssl : RecordStack σ UInt8) (s : σ)

/-- The bytes that were read between two states. -/
def received (s' : σ) : List UInt8 := (ssl.unread s).take ((ssl.unread s).length - (ssl.unread s').length)

/-- A call that sets the flag of its client where it succeeds, succeeds only on such a response, and does not
depend on what lay in its buffer. -/
structure ActivatesOnAnswer {γ : Type} (flag : γ → Bool) (client : γ) (call : CharArray 256 → σ × γ × Bool) :
    Prop where
  sets : ∀ buf, flag (call buf).2.1 = (flag client || (call buf).2.2)
  answered : ∀ buf, (call buf).2.2 = true → HasResponse (received ssl s (call buf).1)
  unaffected : ∀ buf buf', call buf = call buf'

/-- A response that is read whole and declares less than five bytes. -/
structure ShortAnswer : Prop where
  header : (ssl.read s 8).2.data.length = 8
  type : typeField (ssl.read s 8).2.data = routingActivationRes
  short : (lengthField (ssl.read s 8).2.data).toNat < 5
  whole : ssl.ReadsWhole (ssl.after s 8) (lengthField (ssl.read s 8).2.data).toNat

/-- The request is sent. -/
def PqcDoipClient.Asks (client : PqcDoipClient) (connected : Bool) (write : SslWrite) : Prop :=
  connected = true ∧
    0 ≤ (sendDoipPacket routingActivationReq (activationRequest client.sourceAddress) 7 write).result

def TC375DoipClient.Asks (client : TC375DoipClient) (mbedtlsSslWrite : List UInt8 → Int) : Prop :=
  client.connected = true ∧
    0 ≤ mbedtlsSslWrite (frame routingActivationReq 7 (activationRequest client.sourceAddress))

end Conditions

/-- One read that begins with a response and ends in front of the result code, or has `0x10` in its place
where less is declared, or more than was read. -/
structure MisleadingRead (data : List UInt8) : Prop where
  header : 8 ≤ data.length
  type : typeField data = routingActivationRes
  misleading : data.length < 13 ∨ data[12]? = some 0x10 ∧
    ¬ (5 ≤ (lengthField data).toNat ∧ 8 + (lengthField data).toNat ≤ data.length)

/-! ## The buffer -/

section Buffer
variable {n : ℕ} (buf : CharArray n)

theorem filled_getD_of_lt {data : List UInt8} {i : ℕ} (hi : i < data.length) :
    (filled buf data).getD i 0 = data.getD i 0 := List.getD_append _ _ _ _ hi

theorem filled_getD_of_le {data : List UInt8} {i : ℕ} (hi : data.length ≤ i) :
    (filled buf data).getD i 0 = buf.bytes.getD i 0 := by
  rw [filled, List.getD_append_right _ _ _ _ hi, List.getD_eq_getElem?_getD, List.getD_eq_getElem?_getD,
    List.getElem?_drop, Nat.add_sub_cancel' hi]

/-- A buffer that holds one byte throughout. -/
def constBuffer (n : ℕ) (x : UInt8) : CharArray n := ⟨List.replicate n x, List.length_replicate⟩

theorem constBuffer_getD {i : ℕ} (hi : i < n) (x : UInt8) : (constBuffer n x).bytes.getD i 0 = x := by
  rw [List.getD_eq_getElem?_getD, constBuffer, List.getElem?_replicate, if_pos hi, Option.getD_some]

theorem getD_eq_iff {data : List UInt8} {i : ℕ} {x : UInt8} (hx : x ≠ 0) :
    data.getD i 0 = x ↔ data[i]? = some x := by
  rw [List.getD_eq_getElem?_getD]
  cases data[i]? with
  | none => exact iff_of_false hx.symm nofun
  | some y => exact (Option.some_inj).symm

end Buffer

theorem received_of_unread {σ : Type v} {ssl : RecordStack σ UInt8} {s s' : σ} {data : List UInt8}
    (h : ssl.unread s = data ++ ssl.unread s') : received ssl s s' = data := by
  rw [received, h, List.length_append, Nat.add_sub_cancel, List.take_left]

/-! ## Calls that look at one byte -/

section Deciding
variable {σ : Type v} {ssl : RecordStack σ UInt8} {s s' : σ} {γ : Type} {flag : γ → Bool} {client active : γ}
  {call : CharArray 256 → σ × γ × Bool}

theorem activatesOnAnswer_of_false (hcall : ∀ buf, call buf = (s', client, false)) :
    ActivatesOnAnswer ssl s flag client call where
  sets buf := by
    rw [hcall buf]
    exact (Bool.or_false _).symm
  answered buf hactivated := absurd hactivated (by rw [hcall buf]; exact Bool.false_ne_true)
  unaffected buf buf' := (hcall buf).trans (hcall buf').symm

variable {data : List UInt8} {i : ℕ} (hcall : ∀ buf, call buf =
  if (filled buf data).getD i 0 = 0x10 then (s', active, true) else (s', client, false))
include hcall

/-- Where the byte was not read, what lay in the buffer decides. -/
theorem not_activatesOnAnswer_of_unread (hunread : data.length ≤ i) (hi : i < 256) :
    ¬ ActivatesOnAnswer ssl s flag client call := by
  intro h
  have hcode (x : UInt8) : (filled (constBuffer 256 x) data).getD i 0 = x := by
    rw [filled_getD_of_le _ hunread, constBuffer_getD hi]
  have hsame := h.unaffected (constBuffer 256 0x10) (constBuffer 256 0)
  rw [hcall, hcall, hcode, hcode, if_pos rfl, if_neg (by decide)] at hsame
  exact Bool.false_ne_true (congrArg (·.2.2) hsame).symm

/-- Where it was read, the call is right if what was read with `0x10` in its place is a response. -/
theorem activatesOnAnswer_iff_of_read (hactive : flag active = true) (hread : i < data.length) :
    ActivatesOnAnswer ssl s flag client call ↔ (data[i]? = some 0x10 → HasResponse (received ssl s s')) := by
  have hcode (buf : CharArray 256) : (filled buf data).getD i 0 = 0x10 ↔ data[i]? = some 0x10 := by
    rw [filled_getD_of_lt buf hread]
    exact getD_eq_iff (by decide)
  by_cases hten : data[i]? = some 0x10
  · have hyes (buf : CharArray 256) : call buf = (s', active, true) := (hcall buf).trans (if_pos ((hcode buf).mpr hten))
    constructor
    · intro h _
      have hanswer := h.answered (constBuffer 256 0) (by rw [hyes])
      rwa [hyes] at hanswer
    · intro h
      refine ⟨fun buf => ?_, fun buf _ => ?_, fun buf buf' => (hyes buf).trans (hyes buf').symm⟩
      · rw [hyes]
        exact hactive.trans (Bool.or_true _).symm
      · rw [hyes]
        exact h hten
  · have hno (buf : CharArray 256) : call buf = (s', client, false) :=
      (hcall buf).trans (if_neg (mt (hcode buf).mp hten))
    exact iff_of_true (activatesOnAnswer_of_false hno) fun h => absurd h hten

end Deciding

/-! ## `PQC_DoIP_Client` -/

section Pqc
variable {σ : Type v} {ssl : RecordStack σ UInt8} {s : σ}

/-- A response that `recv_doip_packet` hands on. -/
structure Taken (ssl : RecordStack σ UInt8) (s : σ) (header payload : List UInt8) : Prop where
  read : (ssl.read s 8).2.data = header
  length : header.length = 8
  type : typeField header = routingActivationRes
  declared : (lengthField header).toNat = payload.length
  whole : ssl.ReadsWhole (ssl.after s 8) payload.length
  packet : (recvDoipPacket ssl s 256).2 = ⟨payload.length, some routingActivationRes, payload⟩
  unread : ssl.unread s = header ++ payload ++ ssl.unread (recvDoipPacket ssl s 256).1

/-- Behind a whole header. -/
theorem recv_behind_header {header : List UInt8} (hread : (ssl.read s 8).2.data = header)
    (hlen : header.length = 8) :
    recvDoipPacket ssl s 256 =
      if lengthField header > 256 then (ssl.after s 8, ⟨-1, some (typeField header), []⟩)
      else if lengthField header > 0 then
        let (s', payload) := ssl.read (ssl.after s 8) (asInt (lengthField header))
        if payload.ret ≠ asInt (lengthField header) then (s', ⟨-1, some (typeField header), payload.data⟩)
        else (s', ⟨asInt (lengthField header), some (typeField header), payload.data⟩)
      else (ssl.after s 8, ⟨asInt (lengthField header), some (typeField header), []⟩) := by
  have hret : ¬ (ssl.read s 8).2.ret ≠ 8 := by
    rw [not_not]
    exact (ReadResult.ret_eq_iff (by decide)).mpr (hread ▸ hlen)
  unfold recvDoipPacket
  dsimp only
  rw [if_neg hret, hread]
  rfl

theorem recv_payloadType {header : List UInt8} (hread : (ssl.read s 8).2.data = header)
    (hlen : header.length = 8) :
    (recvDoipPacket ssl s 256).2.payloadType = some (typeField header) := by
  rw [recv_behind_header hread hlen]
  dsimp only
  split
  case isTrue => rfl
  case isFalse =>
    split
    case isTrue => split <;> rfl
    case isFalse => rfl

/-- A call fails, or its packet is of another type, or it hands on a response. -/
theorem recv_cases (ssl : RecordStack σ UInt8) (s : σ) :
    ((recvDoipPacket ssl s 256).2.result < 0 ∨
      (recvDoipPacket ssl s 256).2.payloadType ≠ some routingActivationRes) ∨
    ∃ header payload, Taken ssl s header payload := by
  have hneg : (-1 : Int) < 0 := by decide
  obtain ⟨header, hread⟩ : ∃ header, (ssl.read s 8).2.data = header := ⟨_, rfl⟩
  by_cases hlen : header.length = 8
  case neg =>
    rw [recv_cut fun hwhole => hlen (hread ▸ hwhole.resolve_left (by decide))]
    exact Or.inl (Or.inl hneg)
  by_cases htype : typeField header = routingActivationRes
  case neg =>
    rw [recv_payloadType hread hlen]
    exact Or.inl (Or.inr fun h => htype (Option.some.inj h))
  have hrecv := recv_behind_header hread hlen
  have hunread : ssl.unread s = header ++ ssl.unread (ssl.after s 8) := hread ▸ ssl.unread_read s 8
  rw [htype] at hrecv
  by_cases hlarge : lengthField header > 256
  · rw [hrecv, if_pos hlarge]
    exact Or.inl (Or.inl hneg)
  have hfits : (lengthField header).toNat ≤ 256 := UInt32.le_iff_toNat_le.mp (UInt32.not_lt.mp hlarge)
  have hint : asInt (lengthField header) = (lengthField header).toNat := asInt_eq_iff.mpr ⟨rfl, by omega⟩
  rw [if_neg hlarge, hint] at hrecv
  by_cases hpos : lengthField header > 0
  · have hnat : 0 < (lengthField header).toNat := UInt32.lt_iff_toNat_lt.mp hpos
    rw [if_pos hpos] at hrecv
    dsimp only at hrecv
    split at hrecv
    case isTrue =>
      rw [hrecv]
      exact Or.inl (Or.inl hneg)
    case isFalse hret =>
      have hdata := (ReadResult.ret_eq_iff hnat).mp (not_not.mp hret)
      refine Or.inr ⟨header, _, hread, hlen, htype, hdata.symm, Or.inr (hdata.symm ▸ hdata), ?_, ?_⟩
      · rw [hrecv, hdata]
      · rw [hrecv, List.append_assoc, ← ssl.unread_read]
        exact hunread
  · have hzero : (lengthField header).toNat = 0 :=
      Nat.le_zero.mp (UInt32.le_iff_toNat_le.mp (UInt32.not_lt.mp hpos))
    rw [if_neg hpos, hzero] at hrecv
    refine Or.inr ⟨header, [], hread, hlen, htype, hzero, Or.inl rfl, ?_, ?_⟩
    · rw [hrecv]
      rfl
    · rw [hrecv, List.append_nil]
      exact hunread

theorem Taken.short {header payload : List UInt8} (h : Taken ssl s header payload)
    (hshort : payload.length < 5) : ShortAnswer ssl s := by
  obtain ⟨rfl, hlen, htype, hdeclared, hwhole, -, -⟩ := h
  exact ⟨hlen, htype, hdeclared ▸ hshort, hdeclared ▸ hwhole⟩

/-- A short answer does not fail. -/
theorem ShortAnswer.result (h : ShortAnswer ssl s) : ¬ (recvDoipPacket ssl s 256).2.result < 0 := by
  have hshort := h.short
  have hint : asInt (lengthField (ssl.read s 8).2.data) = (lengthField (ssl.read s 8).2.data).toNat :=
    asInt_eq_iff.mpr ⟨rfl, by omega⟩
  have hfits : ¬ lengthField (ssl.read s 8).2.data > 256 := by
    rw [gt_iff_lt, UInt32.lt_iff_toNat_lt]
    change ¬ 256 < (lengthField (ssl.read s 8).2.data).toNat
    omega
  rw [recv_behind_header rfl h.header, if_neg hfits, hint]
  split
  case isTrue hpos =>
    have hnat : 0 < (lengthField (ssl.read s 8).2.data).toNat := UInt32.lt_iff_toNat_lt.mp hpos
    have hread := h.whole.resolve_left (Nat.ne_of_gt hnat)
    dsimp only
    rw [if_neg (not_not.mpr ((ReadResult.ret_eq_iff hnat).mpr hread))]
    exact Int.not_lt.mpr (Int.natCast_nonneg _)
  case isFalse => exact Int.not_lt.mpr (Int.natCast_nonneg _)

theorem ShortAnswer.taken (h : ShortAnswer ssl s) :
    ∃ header payload, Taken ssl s header payload ∧ payload.length < 5 := by
  rcases recv_cases ssl s with (hneg | hother) | ⟨header, payload, htaken⟩
  · exact absurd hneg h.result
  · rw [recv_payloadType rfl h.header, h.type] at hother
    exact absurd rfl hother
  · refine ⟨header, payload, htaken, ?_⟩
    rw [← htaken.declared, ← htaken.read]
    exact h.short

end Pqc

section PqcClient
variable {σ : Type v} {ssl : RecordStack σ UInt8} {s : σ} {client : PqcDoipClient} {connected : Bool}
  {write : SslWrite}

theorem pqc_not_asked (h : ¬ client.Asks connected write) (buf : CharArray 256) :
    client.sendRoutingActivation ssl s connected write buf = (s, client, false) := by
  unfold PqcDoipClient.sendRoutingActivation
  split
  case isTrue => rfl
  case isFalse hconnected =>
    have hwrite := mt (And.intro (by simpa using hconnected)) h
    rw [if_pos (Int.not_le.mp hwrite)]

theorem pqc_asked (h : client.Asks connected write) (buf : CharArray 256) :
    client.sendRoutingActivation ssl s connected write buf =
      let (s', packet) := recvDoipPacket ssl s 256
      if packet.result < 0 ∨ packet.payloadType ≠ some routingActivationRes then (s', client, false)
      else if (filled buf packet.payload).getD 4 0 = 0x10 then
        (s', { client with routingActivated := true }, true)
      else (s', client, false) := by
  unfold PqcDoipClient.sendRoutingActivation
  rw [h.1, if_neg (by decide), if_neg (Int.not_lt.mpr h.2)]

theorem pqc_taken (h : client.Asks connected write) {header payload : List UInt8}
    (htaken : Taken ssl s header payload) (buf : CharArray 256) :
    client.sendRoutingActivation ssl s connected write buf =
      if (filled buf payload).getD 4 0 = 0x10 then
        ((recvDoipPacket ssl s 256).1, { client with routingActivated := true }, true)
      else ((recvDoipPacket ssl s 256).1, client, false) := by
  have hknown : ¬ ((payload.length : Int) < 0 ∨ some routingActivationRes ≠ some routingActivationRes) := by
    rintro (hneg | hne)
    · omega
    · exact hne rfl
  rw [pqc_asked h]
  dsimp only
  rw [htaken.packet, if_neg hknown]

/-- The bytes that were read are a response if the fifth of its payload is there. -/
theorem Taken.hasResponse {header payload : List UInt8} (h : Taken ssl s header payload)
    (hcode : payload[4]? = some 0x10) : HasResponse (received ssl s (recvDoipPacket ssl s 256).1) := by
  have hlen : 8 ≤ header.length := Nat.le_of_eq h.length.symm
  have hfive : 4 < payload.length := (List.getElem?_eq_some_iff.mp hcode).1
  rw [received_of_unread h.unread]
  refine ⟨?_, ?_, ?_, ?_⟩
  · rw [typeField_append payload hlen, h.type]
  · rw [lengthField_append payload hlen, h.declared]
    exact hfive
  · rw [lengthField_append payload hlen, h.declared, List.length_append, h.length]
  · rw [List.getElem?_append_right (by rw [h.length]; decide), h.length]
    exact hcode

theorem pqc_activation_iff : ActivatesOnAnswer ssl s PqcDoipClient.routingActivated client
      (client.sendRoutingActivation ssl s connected write) ↔
    (client.Asks connected write → ¬ ShortAnswer ssl s) := by
  by_cases hasks : client.Asks connected write
  case neg =>
    exact iff_of_true (activatesOnAnswer_of_false (pqc_not_asked hasks)) fun h => absurd h hasks
  constructor
  · intro h _ hshort
    obtain ⟨header, payload, htaken, hlen⟩ := hshort.taken
    exact not_activatesOnAnswer_of_unread (pqc_taken hasks htaken) (by omega) (by decide) h
  · intro h
    rcases recv_cases ssl s with hfails | ⟨header, payload, htaken⟩
    · refine @activatesOnAnswer_of_false σ ssl s (recvDoipPacket ssl s 256).1 _ _ client _ fun buf => ?_
      rw [pqc_asked hasks]
      exact if_pos hfails
    · have hlen : 4 < payload.length := by
        by_contra hshort
        exact h hasks (htaken.short (by omega))
      exact (activatesOnAnswer_iff_of_read (pqc_taken hasks htaken) rfl hlen).mpr htaken.hasResponse

end PqcClient

/-! ## `TC375_DoIP_Client` -/

theorem ret_lt_iff {r : ReadResult UInt8} : r.ret < 8 ↔ r.data.length < 8 := by
  cases r with
  | elements data => exact Int.ofNat_lt
  | failed code =>
    refine iff_of_true ?_ (Nat.zero_lt_succ 7)
    simp only [ReadResult.ret]
    omega

section TC375
variable {σ : Type v} {ssl : RecordStack σ UInt8} {s : σ} {client : TC375DoipClient}
  {mbedtlsSslWrite : List UInt8 → Int}

theorem tc375_not_asked (h : ¬ client.Asks mbedtlsSslWrite) (buf : CharArray 256) :
    client.sendRoutingActivation ssl s mbedtlsSslWrite buf = (s, client, false) := by
  unfold TC375DoipClient.sendRoutingActivation
  split
  case isTrue => rfl
  case isFalse hconnected =>
    have hwrite := mt (And.intro (by simpa using hconnected)) h
    rw [if_pos (Int.not_le.mp hwrite)]

theorem tc375_asked (h : client.Asks mbedtlsSslWrite) (buf : CharArray 256) :
    client.sendRoutingActivation ssl s mbedtlsSslWrite buf =
      let (s', read) := ssl.read s 256
      if read.ret < 8 then (s', client, false)
      else if typeField (filled buf read.data) = routingActivationRes then
        if (filled buf read.data).getD 12 0 = 0x10 then (s', { client with routingActivated := true }, true)
        else (s', client, false)
      else (s', client, false) := by
  unfold TC375DoipClient.sendRoutingActivation
  rw [h.1, if_neg (by decide), if_neg (Int.not_lt.mpr h.2)]

/-- A read that does not begin with a response. -/
theorem tc375_refused (h : client.Asks mbedtlsSslWrite)
    (hdata : 8 ≤ (ssl.read s 256).2.data.length → typeField (ssl.read s 256).2.data ≠ routingActivationRes)
    (buf : CharArray 256) :
    client.sendRoutingActivation ssl s mbedtlsSslWrite buf = ((ssl.read s 256).1, client, false) := by
  rw [tc375_asked h]
  dsimp only
  split
  case isTrue => rfl
  case isFalse hheader =>
    have hlen : 8 ≤ (ssl.read s 256).2.data.length := Nat.le_of_not_lt (mt ret_lt_iff.mpr hheader)
    rw [filled, typeField_append _ hlen, if_neg (hdata hlen)]

theorem tc375_response (h : client.Asks mbedtlsSslWrite) (hlen : 8 ≤ (ssl.read s 256).2.data.length)
    (htype : typeField (ssl.read s 256).2.data = routingActivationRes) (buf : CharArray 256) :
    client.sendRoutingActivation ssl s mbedtlsSslWrite buf =
      if (filled buf (ssl.read s 256).2.data).getD 12 0 = 0x10 then
        ((ssl.read s 256).1, { client with routingActivated := true }, true)
      else ((ssl.read s 256).1, client, false) := by
  have hsame : typeField (filled buf (ssl.read s 256).2.data) = routingActivationRes := by
    rw [filled, typeField_append _ hlen, htype]
  rw [tc375_asked h]
  dsimp only
  rw [if_neg (mt ret_lt_iff.mp (Nat.not_lt.mpr hlen)), if_pos hsame]

theorem tc375_activation_iff : ActivatesOnAnswer ssl s TC375DoipClient.routingActivated client
      (client.sendRoutingActivation ssl s mbedtlsSslWrite) ↔
    (client.Asks mbedtlsSslWrite → ¬ MisleadingRead (ssl.read s 256).2.data) := by
  by_cases hasks : client.Asks mbedtlsSslWrite
  case neg =>
    exact iff_of_true (activatesOnAnswer_of_false (tc375_not_asked hasks)) fun h => absurd h hasks
  by_cases hresponse : 8 ≤ (ssl.read s 256).2.data.length ∧
      typeField (ssl.read s 256).2.data = routingActivationRes
  case neg =>
    refine iff_of_true (activatesOnAnswer_of_false (tc375_refused hasks ?_)) ?_
    · exact fun hlen htype => hresponse ⟨hlen, htype⟩
    · exact fun _ hmisleading => hresponse ⟨hmisleading.header, hmisleading.type⟩
  obtain ⟨hlen, htype⟩ := hresponse
  have hcall := @tc375_response σ ssl s client mbedtlsSslWrite hasks hlen htype
  have hreceived : received ssl s (ssl.read s 256).1 = (ssl.read s 256).2.data :=
    received_of_unread (ssl.unread_read s 256)
  rcases Nat.lt_or_ge 12 (ssl.read s 256).2.data.length with hread | hunread
  · rw [activatesOnAnswer_iff_of_read hcall rfl hread, hreceived]
    constructor
    · rintro h - ⟨-, -, hshort | ⟨hten, hdeclared⟩⟩
      · omega
      · exact hdeclared ⟨(h hten).declared, (h hten).whole⟩
    · intro h hten
      have hdeclared := not_not.mp fun hnot => h hasks ⟨hlen, htype, Or.inr ⟨hten, hnot⟩⟩
      exact ⟨htype, hdeclared.1, hdeclared.2, hten⟩
  · refine iff_of_false (not_activatesOnAnswer_of_unread hcall hunread (by decide)) fun h => ?_
    exact h hasks ⟨hlen, htype, Or.inl (by omega)⟩

end TC375

/-- **Activation.** A client activates routing only on a response that says so, whatever lay in its buffer,
exactly if no answer stops short of the result code: for the one client no response of less than five
payload bytes, for the other no read that ends before the result code, or that has `0x10` in its place where
less is declared, or more than was read. -/
theorem activation_answer_iff {σ : Type v} (ssl : RecordStack σ UInt8) (s : σ) (pqc : PqcDoipClient)
    (connected : Bool) (write : SslWrite) (tc375 : TC375DoipClient) (mbedtlsSslWrite : List UInt8 → Int) :
    (ActivatesOnAnswer ssl s PqcDoipClient.routingActivated pqc
        (pqc.sendRoutingActivation ssl s connected write) ↔
      (pqc.Asks connected write → ¬ ShortAnswer ssl s)) ∧
    (ActivatesOnAnswer ssl s TC375DoipClient.routingActivated tc375
        (tc375.sendRoutingActivation ssl s mbedtlsSslWrite) ↔
      (tc375.Asks mbedtlsSslWrite → ¬ MisleadingRead (ssl.read s 256).2.data)) :=
  ⟨pqc_activation_iff, tc375_activation_iff⟩

/-- A response without a payload activates both clients if `0x10` lies in the buffer. -/
theorem activation_on_empty_answer :
    (¬ ∀ (s : Cut UInt8) (client : PqcDoipClient) connected write,
      ActivatesOnAnswer (wholeReads UInt8) s PqcDoipClient.routingActivated client
        (client.sendRoutingActivation (wholeReads UInt8) s connected write)) ∧
    ¬ ∀ (s : Cut UInt8) (client : TC375DoipClient) mbedtlsSslWrite,
      ActivatesOnAnswer (wholeReads UInt8) s TC375DoipClient.routingActivated client
        (client.sendRoutingActivation (wholeReads UInt8) s mbedtlsSslWrite) := by
  let answer : Cut UInt8 := ⟨[[0x02, 0xFD, 0x00, 0x06, 0, 0, 0, 0]], by decide⟩
  constructor
  · intro hall
    have hanswer := (hall answer ⟨0x0E00, false⟩ true ⟨8, 7⟩).answered (constBuffer 256 0x10)
      (by decide +kernel)
    exact absurd hanswer.declared (by decide +kernel)
  · intro hall
    have hanswer := (hall answer ⟨0x0E00, true, false⟩ fun _ => 15).answered (constBuffer 256 0x10)
      (by decide +kernel)
    exact absurd hanswer.declared (by decide +kernel)

end Mcus.Doip
