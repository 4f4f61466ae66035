import Mcus.Uds.Transfer

/-! # A transfer that exits is the image that was sent

Between an accepted RequestDownload and a positively answered RequestTransferExit any requests may
come and any flash write may fail. The ledger says what the transfer fields and the flash hold at
each moment in between: the bytes received are those of the blocks answered positively so far, and
the flash holds these blocks end to end from the declared address on.
-/

namespace Mcus.Uds
open ByteOrder BlockStore Runs
set_option autoImplicit false

/-- The address a RequestDownload declares, in as many bytes as it announces. -/
def declaredAddress (d : UDSStep) : ℕ := beValue (addressField d.input)

/-- The size a RequestDownload declares, in as many bytes as it announces. -/
def declaredSize (d : UDSStep) : ℕ := beValue (sizeField d.input)

/-- The data of the TransferData requests answered positively, in order. -/
def blocksOf (steps : List UDSStep) : List (List UInt8) :=
  (steps.filter (positiveTo Sid.transferData)).map fun e => e.input.bytes.drop 2

/-- What a transfer step may do. A positive RequestTransferExit closes a download whose positively
answered blocks were written end to end from the declared address on and have the declared size; a
TransferData that is not answered positively stores nothing and leaves the transfer alone. -/
structure TransferIntegrity (past : List UDSStep) (e : UDSStep) : Prop where
  complete : positiveTo Sid.requestTransferExit e = true →
    ∃ d, lastWhere acceptsDownload past = some d ∧
      let blocks := blocksOf (sinceLast acceptsDownload past)
      let writes := storedWrites (sinceLast acceptsDownload past)
      (blocks.flatten.length < 2 ^ 32 → declaredAddress d + declaredSize d < 2 ^ 32 →
        writes = endToEnd (declaredAddress d) blocks ∧ blocks.flatten.length = declaredSize d ∧
          ∀ flash, storeAll flash writes = store flash (declaredAddress d) blocks.flatten)
  refused : e.input.Asks Sid.transferData → positiveTo Sid.transferData e = false →
    SameTransfer e.pre e.post ∧ storedWrites [e] = []

variable {calculateKey : UInt32 → UInt32} {h : UDSHandler} {r : Request}

/-! ## What a step adds to blocks and writes -/

section Ledger
variable {past : List UDSStep} {e : UDSStep}

theorem blocksOf_concat (past : List UDSStep) (e : UDSStep) :
    blocksOf (past ++ [e]) = blocksOf past ++ blocksOf [e] := by
  simp [blocksOf, List.filter_append]

theorem blocksOf_positive (hpos : positiveTo Sid.transferData e = true) :
    blocksOf [e] = [e.input.bytes.drop 2] := by
  simp [blocksOf, hpos]

theorem blocksOf_other (hneg : positiveTo Sid.transferData e = false) : blocksOf [e] = [] := by
  simp [blocksOf, hneg]

end Ledger

/-! ## The ledger of the transfer under way -/

/-- The transfer under way is that of download `d`, whose blocks so far are `blocks` and whose
writes so far are `writes`; its three words hold the true numbers modulo `2 ^ 32`. -/
structure TransferOf (d : UDSStep) (blocks : List (List UInt8)) (writes : List (ℕ × List UInt8))
    (h : UDSHandler) : Prop where
  address : h.transferAddress.toNat = declaredAddress d % 2 ^ 32
  size : h.transferSize.toNat = declaredSize d % 2 ^ 32
  received : h.transferReceived.toNat = blocks.flatten.length % 2 ^ 32
  written : declaredAddress d + blocks.flatten.length < 2 ^ 32 →
    writes = endToEnd (declaredAddress d) blocks

def TransferLedger (past : List UDSStep) (h : UDSHandler) : Prop :=
  h.transferActive = true → ∃ d, lastWhere acceptsDownload past = some d ∧
    TransferOf d (blocksOf (sinceLast acceptsDownload past))
      (storedWrites (sinceLast acceptsDownload past)) h

theorem TransferOf.of_same {d : UDSStep} {blocks : List (List UInt8)} {writes : List (ℕ × List UInt8)}
    {h' : UDSHandler} (ht : TransferOf d blocks writes h) (hsame : SameTransfer h h') :
    TransferOf d blocks writes h' where
  address := hsame.address ▸ ht.address
  size := hsame.size ▸ ht.size
  received := hsame.received ▸ ht.received
  written := ht.written

theorem TransferOf.block {d : UDSStep} {blocks : List (List UInt8)} {writes : List (ℕ × List UInt8)}
    (ht : TransferOf d blocks writes h) :
    TransferOf d (blocks ++ [r.bytes.drop 2])
      (writes ++ [((h.transferAddress + h.transferReceived).toNat, r.bytes.drop 2)])
      (receiveBlock h r) where
  address := ht.address
  size := ht.size
  received := by
    have hlen : (UInt32.ofNat (r.bytes.drop 2).length).toNat = (r.bytes.drop 2).length % 2 ^ 32 :=
      UInt32.toNat_ofNat
    simp only [receiveBlock, UInt32.toNat_add, ht.received, hlen, List.flatten_append,
      List.length_append, List.flatten_singleton]
    omega
  written := by
    intro hbelow
    rw [List.flatten_append, List.length_append] at hbelow
    have haddr : (h.transferAddress + h.transferReceived).toNat =
        declaredAddress d + blocks.flatten.length := by
      rw [UInt32.toNat_add, ht.address, ht.received]
      omega
    rw [endToEnd_concat, ← ht.written (by omega), haddr]

theorem transferOf_download (hchecked : DownloadChecked h r) :
    TransferOf ((udsMachine calculateKey).stepAt h r) [] []
      ((udsMachine calculateKey).stepAt h r).post := by
  rw [stepAt_of_process _ (process_download hchecked)]
  exact ⟨foldl_shiftIn_toNat _, foldl_shiftIn_toNat _, rfl, fun _ => rfl⟩

theorem transferLedger_idle {past : List UDSStep} {e : UDSStep} {h' : UDSHandler}
    (hinv : TransferLedger past h) (hmark : acceptsDownload e = false)
    (hneg : positiveTo Sid.transferData e = false) (hnone : storedWrites [e] = [])
    (hsame : SameTransfer h h') : TransferLedger (past ++ [e]) h' := by
  intro hactive
  obtain ⟨d, hd, ht⟩ := hinv (hsame.active ▸ hactive)
  refine ⟨d, by rw [lastWhere_concat_neg hmark, hd], ?_⟩
  rw [sinceLast_concat_neg hmark, blocksOf_concat, blocksOf_other hneg, storedWrites_append, hnone,
    List.append_nil, List.append_nil]
  exact ht.of_same hsame

theorem transferLedger_init : TransferLedger [] udsHandlerInit := fun hactive => nomatch hactive

theorem transferLedger_step (calculateKey : UInt32 → UInt32) (past : List UDSStep) (h : UDSHandler)
    (r : Request) (hinv : TransferLedger past h) (hcap : 20 ≤ r.respCap) :
    TransferLedger (past ++ [(udsMachine calculateKey).stepAt h r])
      ((udsMachine calculateKey).stepAt h r).post := by
  by_cases hdownload : DownloadChecked h r
  · have hmark : acceptsDownload ((udsMachine calculateKey).stepAt h r) = true :=
      decide_eq_true hdownload
    intro _
    refine ⟨_, lastWhere_concat_pos hmark past, ?_⟩
    rw [sinceLast_concat_pos hmark]
    exact transferOf_download hdownload
  · have hmark : acceptsDownload ((udsMachine calculateKey).stepAt h r) = false :=
      decide_eq_false hdownload
    obtain ⟨h', reply, heff, he⟩ := transfer_step calculateKey h r
    rw [he] at hmark ⊢
    cases heff with
    | other _ _ hsame _ hcalls hrefuse =>
      exact transferLedger_idle hinv hmark (positiveTo_refused (by simp [IsTransferSid]) hrefuse)
        (storedWrites_none hcalls) hsame
    | download hchecked => exact absurd hchecked hdownload
    | block hchecked hstatus =>
      have hpos := positiveTo_block hchecked (by omega)
      intro _
      obtain ⟨d, hd, ht⟩ := hinv hchecked.active
      refine ⟨d, by rw [lastWhere_concat_neg hmark, hd], ?_⟩
      rw [sinceLast_concat_neg hmark, blocksOf_concat, blocksOf_positive hpos, storedWrites_append,
        storedWrites_block hstatus rfl]
      exact ht.block
    | blockFailed hchecked hstatus =>
      exact transferLedger_idle hinv hmark (positiveTo_negative (by simp [IsTransferSid]) rfl)
        (storedWrites_blockFailed hstatus rfl) (.refl h)
    | exit =>
      intro hactive
      cases hactive

/-! ## What the ledger gives at each step -/

theorem complete_of_ledger {past : List UDSStep} (hinv : TransferLedger past h)
    (hexit : positiveTo Sid.requestTransferExit ((udsMachine calculateKey).stepAt h r) = true) :
    ∃ d, lastWhere acceptsDownload past = some d ∧
      TransferOf d (blocksOf (sinceLast acceptsDownload past))
        (storedWrites (sinceLast acceptsDownload past)) h ∧ h.transferReceived = h.transferSize := by
  have hasks : r.Asks Sid.requestTransferExit := positiveTo_asks hexit
  obtain ⟨h', reply, heff, he⟩ := transfer_step calculateKey h r
  rw [he] at hexit
  cases heff with
  | other _ _ _ _ _ hrefuse =>
    rw [positiveTo_refused (by simp [IsTransferSid]) hrefuse] at hexit
    cases hexit
  | download hchecked => exact absurd (hchecked.asks.unique hasks) (by decide)
  | block hchecked => exact absurd (hchecked.asks.unique hasks) (by decide)
  | blockFailed hchecked => exact absurd (hchecked.asks.unique hasks) (by decide)
  | exit _ hactive hsize =>
    obtain ⟨d, hd, ht⟩ := hinv hactive
    exact ⟨d, hd, ht, hsize⟩

theorem refused_of_negative (hcap : 20 ≤ r.respCap) (hasks : r.Asks Sid.transferData)
    (hneg : positiveTo Sid.transferData ((udsMachine calculateKey).stepAt h r) = false) :
    SameTransfer h ((udsMachine calculateKey).stepAt h r).post ∧
      storedWrites [(udsMachine calculateKey).stepAt h r] = [] := by
  obtain ⟨h', reply, heff, he⟩ := transfer_step calculateKey h r
  rw [he] at hneg ⊢
  cases heff with
  | other _ _ hsame _ hcalls => exact ⟨hsame, storedWrites_none hcalls⟩
  | download hchecked => exact absurd (hchecked.asks.unique hasks) (by decide)
  | block hchecked =>
    have hpos := positiveTo_block hchecked (by omega)
    exact absurd (hneg.symm.trans hpos) (by decide)
  | blockFailed _ hstatus => exact ⟨.refl h, storedWrites_blockFailed hstatus rfl⟩
  | exit hasks' => exact absurd (hasks'.unique hasks) (by decide)

theorem transferIntegrity_of_ledger {past : List UDSStep} (hinv : TransferLedger past h)
    (hcap : 20 ≤ r.respCap) :
    TransferIntegrity past ((udsMachine calculateKey).stepAt h r) where
  complete := by
    intro hexit
    obtain ⟨d, hd, ht, hsize⟩ := complete_of_ledger hinv hexit
    refine ⟨d, hd, ?_⟩
    intro blocks writes htotal hend
    have hreceived : h.transferReceived.toNat = blocks.flatten.length % 2 ^ 32 := ht.received
    have hlength : blocks.flatten.length = declaredSize d := by
      rw [hsize, ht.size] at hreceived
      omega
    have hwritten : declaredAddress d + blocks.flatten.length < 2 ^ 32 →
        writes = endToEnd (declaredAddress d) blocks := ht.written
    have hwrites := hwritten (by omega)
    refine ⟨hwrites, hlength, ?_⟩
    intro flash
    rw [hwrites, storeAll_endToEnd]
  refused := refused_of_negative hcap

/-- Along every run with room for the responses, every step keeps the transfer whole. -/
theorem transferIntegrity_run (rs : List Request) (hcap : ∀ r ∈ rs, 20 ≤ r.respCap) :
    (udsMachine calculateKey).Admits
      (fun past h r => TransferIntegrity past ((udsMachine calculateKey).stepAt h r))
      udsHandlerInit rs := by
  have hroom : (udsMachine calculateKey).Admits (fun _ _ r => 20 ≤ r.respCap) udsHandlerInit rs :=
    Machine.admits_iff_forall.mpr hcap
  intro past r rest hrs
  have hpast : (udsMachine calculateKey).Admits (fun _ _ r => 20 ≤ r.respCap) udsHandlerInit past :=
    (hrs ▸ hroom).of_append
  exact transferIntegrity_of_ledger
    (Machine.induction_of_admits transferLedger_init (transferLedger_step calculateKey) past hpast)
    (hroom past r rest hrs)

/-- Two blocks, a repeated one and a failing one in between, then the exit. -/
def interruptedRequests : List Request :=
  downloadRequests ++ [plainRequest [0x36, 0x01, 0xA0, 0xA1], plainRequest [0x36, 0x01, 0xA0, 0xA1],
    ⟨[0x36, 0x02, 0xA2, 0xA3], 64, ⟨0, 0, 1⟩⟩, plainRequest [0x36, 0x02, 0xA2, 0xA3]]

theorem transferIntegrity_interrupted :
    positiveTo Sid.requestTransferExit
      (nextStep udsPlatformCalculateKey interruptedRequests (plainRequest [0x37])) = true ∧
    (udsMachine udsPlatformCalculateKey).Admits
      (fun past h r => TransferIntegrity past ((udsMachine udsPlatformCalculateKey).stepAt h r))
      udsHandlerInit (interruptedRequests ++ [plainRequest [0x37]]) :=
  ⟨by decide, transferIntegrity_run _ (by decide)⟩

end Mcus.Uds
