import Mcus.Boot.UpdateSafety
import Mcus.Uds.HonestTester
import Mcus.Uds.TesterLoop

/-! # An update from the login to the next boot

A tester finds its way into the unlocked programming session, sends an image to the application
region of a bank and then its metadata record, each by a download loop, and the bank is selected. The
flash then holds both and is otherwise as it was, and the device starts the new application exactly
if the record describes the image.
-/

namespace Mcus.Boot
open BlockStore ByteOrder Runs Uds
set_option autoImplicit false

/-! ## Requests that are carried out -/

def Answered (r : Request) (response : Option (List UInt8)) : Prop :=
  ∃ data, response = some ((r.byte 0 + positiveResponseOffset) :: data)

/-- From `h` on every request is carried out, without a reset; the flash is asked to store `writes`. -/
inductive Serves (calculateKey : UInt32 → UInt32) :
    UDSHandler → List Request → List (ℕ × List UInt8) → UDSHandler → Prop
  | refl (h : UDSHandler) : Serves calculateKey h [] [] h
  | head {h h' h'' : UDSHandler} {r : Request} {reply : Reply} {rs : List Request}
      {writes : List (ℕ × List UInt8)} (hprocess : udsHandlerProcess calculateKey h r = (h', reply))
      (hanswered : Answered r reply.response) (hstays : reply.calls.any Board.IsReset = false)
      (hrest : Serves calculateKey h' rs writes h'') :
      Serves calculateKey h (r :: rs) (reply.calls.filterMap storedWrite ++ writes) h''

section Serving
variable {calculateKey : UInt32 → UInt32} {h h' h'' : UDSHandler} {r : Request} {reply : Reply}
  {rs rs' : List Request} {writes writes' : List (ℕ × List UInt8)}

theorem Serves.trans (hfirst : Serves calculateKey h rs writes h')
    (hlater : Serves calculateKey h' rs' writes' h'') :
    Serves calculateKey h (rs ++ rs') (writes ++ writes') h'' := by
  induction hfirst with
  | refl => exact hlater
  | head hprocess hanswered hstays _ ih =>
    rw [List.append_assoc]
    exact .head hprocess hanswered hstays (ih hlater)

theorem filterMap_storedWrite_of_no_write {calls : List PlatformCall} (hcalls : ∀ c ∈ calls, ¬ IsWrite c) :
    calls.filterMap storedWrite = [] := by
  apply List.filterMap_eq_nil_iff.mpr
  intro c hc
  cases c with
  | writeFirmware => exact absurd trivial (hcalls _ hc)
  | _ => rfl

theorem Serves.quiet (hprocess : udsHandlerProcess calculateKey h r = (h', reply))
    (hanswered : Answered r reply.response)
    (hcalls : ∀ c ∈ reply.calls, ¬ IsWrite c ∧ Board.IsReset c = false)
    (hrest : Serves calculateKey h' rs writes h'') : Serves calculateKey h (r :: rs) writes h'' := by
  have hnone := filterMap_storedWrite_of_no_write fun c hc => (hcalls c hc).1
  have hserves := Serves.head hprocess hanswered
    (List.any_eq_false.mpr fun c hc => by simp [(hcalls c hc).2]) hrest
  rwa [hnone, List.nil_append] at hserves

theorem byte_zero_of_asks {sid : UInt8} (hasks : r.Asks sid) : r.byte 0 = sid := by
  unfold Request.Asks at hasks
  cases hbytes : r.bytes with
  | nil => simp [hbytes] at hasks
  | cons first rest => simpa [Request.byte, hbytes] using hasks

theorem answered_carriedOut {sid : UInt8} {data : List UInt8} (hasks : r.Asks sid)
    (hroom : 1 + data.length ≤ r.respCap) : Answered r (carriedOut sid data r.respCap) :=
  ⟨data, by rw [carriedOut_eq hroom, byte_zero_of_asks hasks]⟩

/-! ## The login -/

/-- DiagnosticSessionControl, RequestSeed and SendKey with the key of the seed that the platform
generates, not in a lockout. -/
structure LogsIn (calculateKey : UInt32 → UInt32) (h : UDSHandler) (programming seed key : Request) : Prop where
  entersSession : programming.bytes = [Sid.diagnosticSessionControl, sessionProgramming]
  asksSeed : seed.bytes = [Sid.securityAccess, securityLevel1]
  sendsKey : key.bytes = Sid.securityAccess :: securityLevel2 :: beBytes32 (calculateKey seed.platform.seed)
  room : ∀ r ∈ [programming, seed, key], 6 ≤ r.respCap
  passed : LockoutPassed h seed

structure InProgramming (h : UDSHandler) : Prop where
  session : h.session = .programming
  security : h.security = .unlocked

theorem lockoutCalls_quiet {cs : List PlatformCall} (hcs : ∀ c ∈ cs, ¬ IsWrite c ∧ Board.IsReset c = false) :
    ∀ c ∈ lockoutCalls h r ++ cs, ¬ IsWrite c ∧ Board.IsReset c = false := by
  intro c hc
  rcases List.mem_append.mp hc with hc | hc
  · rw [lockoutCalls_mem hc]
    exact ⟨id, rfl⟩
  · exact hcs c hc

theorem login_serves {programming seed key : Request} (hlogin : LogsIn calculateKey h programming seed key) :
    ∃ h', Serves calculateKey h [programming, seed, key] [] h' ∧ InProgramming h' := by
  have hroom : ∀ r ∈ [programming, seed, key], 6 ≤ r.respCap := hlogin.room
  simp only [List.forall_mem_cons, List.not_mem_nil, false_imp_iff, implies_true, and_true] at hroom
  obtain ⟨hroom₁, hroom₂, hroom₃⟩ := hroom
  -- the session, which locks
  have hasks₁ : programming.Asks Sid.diagnosticSessionControl := by rw [Request.Asks, hlogin.entersSession]; rfl
  have htype : programming.byte 1 = sessionProgramming := by rw [Request.byte, hlogin.entersSession]; rfl
  have henter : enterSession h (programming.byte 1) = { h with session := .programming, security := .locked } := by
    rw [htype]
    rfl
  have hsession : udsHandlerProcess calculateKey h programming = _ := process_sessionControl hasks₁
    (by rw [hlogin.entersSession]; rfl) (by simp [htype])
  rw [henter] at hsession
  -- the seed
  have hasks₂ : seed.Asks Sid.securityAccess := by rw [Request.Asks, hlogin.asksSeed]; rfl
  have hsub : seed.byte 1 = securityLevel1 := by rw [Request.byte, hlogin.asksSeed]; rfl
  have hseed : udsHandlerProcess calculateKey { h with session := .programming, security := .locked } seed = _ :=
    process_seed hasks₂ hsub hlogin.passed rfl
  generalize hchallenge : ({ clearExpired { h with session := .programming, security := .locked } with
    seed := seed.platform.seed } : UDSHandler) = challenge at hseed
  -- the key
  have hbytes : key.bytes = Sid.securityAccess :: securityLevel2 ::
      (beBytes32 (calculateKey seed.platform.seed) ++ []) := by
    rw [List.append_nil]
    exact hlogin.sendsKey
  have hchecked : KeyChecked challenge key := by
    apply keyChecked_of_bytes hbytes
    rw [← hchallenge]
    exact clearExpired_attempts_lt _
  have hmatch : receivedKey key = calculateKey challenge.seed := by
    rw [receivedKey_of_bytes hbytes, ← hchallenge]
  have hkey := process_key hchecked hmatch
  refine ⟨{ challenge with security := .unlocked, securityAttempts := 0 }, ?_, ⟨?_, rfl⟩⟩
  · apply Serves.quiet hsession (answered_carriedOut hasks₁ (by simp; omega)) (by simp)
    apply Serves.quiet hseed (answered_carriedOut hasks₂ (by simp; omega))
      (lockoutCalls_quiet (by simp [IsWrite, Board.IsReset]))
    apply Serves.quiet hkey (answered_carriedOut hchecked.asks (by simp; omega))
      (lockoutCalls_quiet (by simp [IsWrite, Board.IsReset]))
    exact .refl _
  · rw [← hchallenge]
    simp

/-! ## A download -/

theorem answered_of_positive {sid : UInt8} {e : UDSStep} (hpos : positiveTo sid e = true) :
    Answered e.input e.output.response := by
  have hbyte := byte_zero_of_asks (positiveTo_asks hpos)
  simp only [positiveTo, Bool.and_eq_true, decide_eq_true_eq] at hpos
  obtain ⟨response, hresponse, hhead⟩ := Option.bind_eq_some_iff.mp hpos.2
  obtain ⟨data, rfl⟩ := List.head?_eq_some_iff.mp hhead
  exact ⟨data, by rw [hresponse, hbyte]⟩

/-- A positive answer of a transfer service comes without a reset, and leaves session and lock. -/
theorem transfer_kept {sid : UInt8} (hsid : IsTransferSid sid)
    (hpos : positiveTo sid ((udsMachine calculateKey).stepAt h r) = true) :
    ((udsMachine calculateKey).stepAt h r).output.calls.any Board.IsReset = false ∧
      (InProgramming h → InProgramming ((udsMachine calculateKey).stepAt h r).post) := by
  obtain ⟨h', reply, heff, he⟩ := step_effect calculateKey h r
  rw [he] at hpos ⊢
  have hother : ∀ {sid'}, r.Asks sid' → ¬ IsTransferSid sid' → False := by
    intro sid' hasks hnot
    obtain rfl := hasks.unique (positiveTo_asks hpos)
    exact hnot hsid
  have hcontrol : ¬ IsTransferSid Sid.diagnosticSessionControl := by unfold IsTransferSid; decide
  have haccess : ¬ IsTransferSid Sid.securityAccess := by unfold IsTransferSid; decide
  cases heff with
  | quiet _ _ hrefuse =>
    rw [positiveTo_refused hsid hrefuse] at hpos
    cases hpos
  | session _ hasks => exact (hother hasks hcontrol).elim
  | security _ hasks => exact (hother hasks haccess).elim
  | seed hasks => exact (hother hasks haccess).elim
  | keyAccepted hchecked => exact (hother hchecked.asks haccess).elim
  | keyWrong _ hchecked => exact (hother hchecked.asks haccess).elim
  | download => exact ⟨rfl, fun hin => ⟨hin.session, hin.security⟩⟩
  | block => exact ⟨rfl, fun hin => ⟨hin.session, hin.security⟩⟩
  | blockFailed => exact ⟨rfl, id⟩
  | exit => exact ⟨rfl, fun hin => ⟨hin.session, hin.security⟩⟩

theorem serves_of_positive {sid : UInt8} (hsid : IsTransferSid sid)
    (hpos : ∀ e ∈ (udsMachine calculateKey).trace h rs, positiveTo sid e = true) :
    Serves calculateKey h rs (storedWrites ((udsMachine calculateKey).trace h rs))
        ((udsMachine calculateKey).run h rs) ∧
      (InProgramming h → InProgramming ((udsMachine calculateKey).run h rs)) := by
  induction rs generalizing h with
  | nil => exact ⟨.refl h, id⟩
  | cons r rs ih =>
    rw [Machine.trace_cons] at hpos ⊢
    rw [Machine.run_cons]
    obtain ⟨hfirst, hrest⟩ := List.forall_mem_cons.mp hpos
    obtain ⟨hstays, hkept⟩ := transfer_kept hsid hfirst
    obtain ⟨hserves, hlater⟩ := ih hrest
    exact ⟨.head rfl (answered_of_positive hfirst) hstays hserves, fun hin => hlater (hkept hin)⟩

/-- `rs` carry `image` to address `a` by the download loop. -/
def Sends (a : ℕ) (image : List UInt8) (rs : List Request) : Prop :=
  ∃ b blocks, IsCut b image blocks ∧
    Carries rs (testerRequests nextBlockSequenceCounter (UInt32.ofNat a) blocks)

theorem download_serves {a : ℕ} {image : List UInt8} (hsends : Sends a image rs) (hin : InProgramming h)
    (hend : a + image.length < 2 ^ 32) :
    ∃ writes h', Serves calculateKey h rs writes h' ∧ InProgramming h' ∧
      ∀ flash, storeAll flash writes = store flash a image := by
  obtain ⟨b, blocks, hcut, hc⟩ := hsends
  have hflat := hcut.flatten
  have ha : (UInt32.ofNat a).toNat = a := UInt32.toNat_ofNat_of_lt' (by unfold UInt32.size; omega)
  rw [testerRequests] at hc
  obtain ⟨r, rs, rfl⟩ := hc.nonempty
  obtain ⟨hbytes, hroom, -, hc⟩ := hc.tail
  obtain ⟨bs, es, rfl, hblocks, hexit⟩ := hc.split
  obtain ⟨r', es, rfl⟩ := hexit.nonempty
  obtain ⟨hbytes', hroom', -, hexit⟩ := hexit.tail
  obtain rfl : es = [] := List.map_eq_nil_iff.mp hexit.bytes
  -- the download
  obtain ⟨hchecked, haddress, hsize⟩ := openDownload_of_bytes hbytes hin.session hin.security
  have hopen : udsHandlerProcess calculateKey h r = _ := process_download hchecked
  have hopened : InProgramming (openDownload h r) := ⟨hin.session, hin.security⟩
  -- the blocks
  have hzero : (openDownload h r).transferReceived.toNat = 0 := rfl
  obtain ⟨hpos, hwrites, hactive, hsame, hreceived⟩ :=
    @blocks_stored calculateKey (openDownload h r) bs blocks rfl hblocks
      (fun block hb => (hcut.sizes block hb).1)
      (by rw [hflat, haddress, ha, hzero]; omega) (by rw [hflat, hzero]; omega)
  rw [hzero, hflat, Nat.zero_add] at hreceived
  rw [hzero, haddress, ha, Nat.add_zero] at hwrites
  obtain ⟨hserves, hkept⟩ := serves_of_positive (by simp [IsTransferSid]) hpos
  rw [hwrites] at hserves
  -- the exit
  have hcomplete : ((udsMachine calculateKey).run (openDownload h r) bs).transferReceived =
      ((udsMachine calculateKey).run (openDownload h r) bs).transferSize := by
    apply UInt32.toNat_inj.mp
    rw [hreceived, hsame, hsize, hflat]
    exact (UInt32.toNat_ofNat_of_lt' (by unfold UInt32.size; omega)).symm
  have hasks' : r'.Asks Sid.requestTransferExit := by simp [Request.Asks, hbytes']
  have hclose : udsHandlerProcess calculateKey _ r' = _ := process_exit hasks' hactive hcomplete
  have hlast := Serves.quiet hclose (answered_carriedOut hasks' (by simp; omega)) (by simp) (.refl _)
  have hopening := Serves.quiet hopen (answered_carriedOut hchecked.asks (by simp; omega)) (by simp)
    (hserves.trans hlast)
  refine ⟨_, _, hopening, ⟨(hkept hopened).session, (hkept hopened).security⟩, fun flash => ?_⟩
  rw [List.append_nil, storeAll_endToEnd, hflat]

end Serving

/-! ## The device -/

section Serving
variable {board : Board} {h h' : UDSHandler} {rs : List Request} {writes : List (ℕ × List UInt8)}

theorem foldl_carryOut (hdriver : board.writeFirmware = storeBlock) (calls : List PlatformCall)
    (flash : Memory UInt8) :
    calls.foldl board.carryOut flash = storeAll flash (calls.filterMap storedWrite) := by
  induction calls generalizing flash with
  | nil => rfl
  | cons c calls ih =>
    rw [List.foldl_cons, ih]
    cases c with
    | writeFirmware address data status =>
      by_cases hstatus : status = 0
      · simp [Board.carryOut, hdriver, storeBlock, storedWrite, hstatus, storeAll]
      · simp [Board.carryOut, hdriver, storeBlock, storedWrite, hstatus]
    | _ => rfl

/-- The events are requests, and each of them is answered positively. -/
def AllAnswered (steps : List (Step Device DeviceEvent (Option (List UInt8)))) : Prop :=
  ∀ e ∈ steps, ∃ r, e.input = .request r ∧ Answered r e.output

theorem run_served (hdriver : board.writeFirmware = storeBlock) (hserves : Serves board.calculateKey h rs writes h')
    {d : Device} (hhandler : d.handler = h) (hrunning : d.app.isSome) :
    board.machine.run d (rs.map .request) = { d with flash := storeAll d.flash writes, handler := h' } ∧
      AllAnswered (board.machine.trace d (rs.map .request)) := by
  induction hserves generalizing d with
  | refl h =>
    subst hhandler
    exact ⟨rfl, fun e he => absurd he List.not_mem_nil⟩
  | @head h h' h'' r reply rs writes hprocess hanswered hstays _ ih =>
    subst hhandler
    have hstep : board.machine.step d (.request r) =
        ({ d with flash := storeAll d.flash (reply.calls.filterMap storedWrite), handler := h' },
          reply.response) := by
      have hserve : board.machine.step d (.request r) = board.serve d r := if_pos hrunning
      rw [hserve]
      simp only [Board.serve, hprocess, hstays, foldl_carryOut hdriver, Bool.false_eq_true, if_false]
    obtain ⟨hrun, hall⟩ := @ih
      { d with flash := storeAll d.flash (reply.calls.filterMap storedWrite), handler := h' } rfl hrunning
    rw [List.map_cons, Machine.run_cons, Machine.trace_cons, hstep]
    constructor
    · rw [hrun]
      simp only [storeAll, List.foldl_append]
    · intro e he
      rcases List.mem_cons.mp he with rfl | he
      · refine ⟨r, rfl, ?_⟩
        rw [Machine.stepAt_output, hstep]
        exact hanswered
      · exact hall e he

end Serving

/-! ## The record -/

/-- The metadata in the bytes of a record. -/
def metadataOf (record : List UInt8) : BootMetadata := readMetadata (fun i => record.getD i 0) 0

/-- The record is a valid one of the image, signed where the signature is looked at. -/
structure Describes (board : Board) (record image : List UInt8) : Prop where
  magic : (metadataOf record).magic = magicNumber
  valid : (metadataOf record).valid = 1
  crc32 : board.calculateCrc32 image = (metadataOf record).crc32
  signature : board.node = .endNode →
    board.verifyDilithiumSignature image (metadataOf record).signature = true

theorem readMetadata_shift (flash : Memory UInt8) (a : ℕ) :
    readMetadata flash a = readMetadata (fun i => flash (a + i)) 0 := by
  simp [readMetadata, readWord, load, Nat.add_assoc]

theorem readMetadata_store (flash : Memory UInt8) (a : ℕ) {record : List UInt8} (hlength : 281 ≤ record.length) :
    readMetadata (store flash a record) a = metadataOf record := by
  rw [readMetadata_shift]
  refine readMetadata_congr fun k hk => ?_
  have hin : k < record.length := by omega
  rw [Nat.zero_add, store_inside flash a record hin]
  exact (List.getD_eq_getElem record 0 hin).symm

/-! ## The flash behind both downloads -/

def updatedFlash (bank : BootBank) (image record : List UInt8) (flash : Memory UInt8) : Memory UInt8 :=
  store (store flash (appStart bank) image) (appMeta bank) record

/-- Sizes of an image and a record that lie in their regions. -/
structure FitsBank (image record : List UInt8) : Prop where
  imageFits : image.length ≤ regionAppSize
  recordFits : 281 ≤ record.length ∧ record.length ≤ 0x1000
  size : (metadataOf record).size.toNat = image.length

section Flash
variable {board : Board} {bank : BootBank} {image record : List UInt8} {flash : Memory UInt8}

theorem appMeta_le_appStart (bank : BootBank) : appMeta bank + 0x1000 = appStart bank := by cases bank <;> rfl

theorem load_updatedFlash (hfits : FitsBank image record) :
    load (updatedFlash bank image record flash) (appStart bank) image.length = image := by
  have hgap := appMeta_le_appStart bank
  obtain ⟨-, hrecord⟩ := hfits.recordFits
  calc load (updatedFlash bank image record flash) (appStart bank) image.length
      = load (store flash (appStart bank) image) (appStart bank) image.length :=
        load_congr fun k _ => store_frame _ _ _ (Or.inr (by omega))
    _ = image := load_store flash (appStart bank) image

/-- The check of the updated application looks at the record and the image. -/
theorem appCheck_updatedFlash (hfits : FitsBank image record) :
    board.node.appCheck.Accepts (board.env (updatedFlash bank image record flash)) bank ↔
      Describes board record image := by
  have hmeta : board.node.appCheck.metaAddr bank = appMeta bank := by cases board.node <;> rfl
  have hcode : board.node.appCheck.codeStart bank = appStart bank := by cases board.node <;> rfl
  have himage : board.node.appCheck.image (board.env (updatedFlash bank image record flash)) bank =
      metadataOf record := by
    rw [Verification.image, hmeta]
    exact readMetadata_store _ _ hfits.recordFits.1
  have hflash : (board.env (updatedFlash bank image record flash)).flash =
      updatedFlash bank image record flash := rfl
  rw [Verification.accepts_iff, himage, hcode, hfits.size, hflash, load_updatedFlash hfits]
  have hnode : board.node.appCheck = .ecuStage2 ↔ board.node = .endNode := by
    cases board.node <;> simp [NodeType.appCheck]
  have hchecked : board.node.appCheck ≠ .ecuStage1 := by cases board.node <;> simp [NodeType.appCheck]
  constructor
  · rintro ⟨⟨hmagic, hvalid⟩, hcrc, hsigned⟩
    exact ⟨hmagic, hvalid hchecked, hcrc, fun hend => hsigned (hnode.mpr hend)⟩
  · intro h
    exact ⟨⟨h.magic, fun _ => h.valid⟩, h.crc32, fun hstage => h.signature (hnode.mp hstage)⟩

theorem updatedFlash_frame (hfits : FitsBank image record) {i : ℕ}
    (hi : i < appMeta bank ∨ appStart bank + regionAppSize ≤ i) :
    updatedFlash bank image record flash i = flash i := by
  have hgap := appMeta_le_appStart bank
  obtain ⟨-, hrecord⟩ := hfits.recordFits
  have himage := hfits.imageFits
  rw [updatedFlash, store_frame _ _ _ (by omega), store_frame _ _ _ (by omega)]

/-- The regions of a Stage 2 lie before those of an application, or behind them. -/
theorem stage2_regions (node : NodeType) (bank stage2 : BootBank) {i : ℕ}
    (hi : (∃ k < 281, i = node.stage2Check.metaAddr stage2 + k) ∨
      ∃ k < node.stage2Check.codeSize, i = node.stage2Check.codeStart stage2 + k) :
    i < appMeta bank ∨ appStart bank + regionAppSize ≤ i := by
  have hregions : node.stage2Check.metaAddr stage2 + 281 ≤ appMeta bank ∧
      node.stage2Check.codeStart stage2 + node.stage2Check.codeSize ≤ appMeta bank ∨
      appStart bank + regionAppSize ≤ node.stage2Check.metaAddr stage2 ∧
      appStart bank + regionAppSize ≤ node.stage2Check.codeStart stage2 := by
    cases node <;> cases bank <;> cases stage2 <;> decide
  rcases hi with ⟨k, hk, rfl⟩ | ⟨k, hk, rfl⟩ <;> omega

theorem stage2Check_updatedFlash {stage2 : BootBank} (hfits : FitsBank image record)
    (hsize : (board.node.stage2Check.image (board.env flash) stage2).size.toNat ≤ board.node.stage2Check.codeSize)
    (haccepts : board.node.stage2Check.Accepts (board.env flash) stage2) :
    board.node.stage2Check.Accepts (board.env (updatedFlash bank image record flash)) stage2 := by
  have hcrc : (board.env (updatedFlash bank image record flash)).calculateCrc32 =
      (board.env flash).calculateCrc32 := rfl
  refine (Verification.accepts_of_reads hcrc rfl ?_ ?_ hsize haccepts).1
  · intro k hk
    exact updatedFlash_frame hfits (stage2_regions board.node bank stage2 (Or.inl ⟨k, hk, rfl⟩))
  · intro k hk
    exact updatedFlash_frame hfits (stage2_regions board.node bank stage2 (Or.inr ⟨k, hk, rfl⟩))

end Flash

/-! ## The boots that follow -/

/-- Counted from 0, the boot that comes to `bank`: the first one, or the second one where the gateway
activates a pending update first. -/
inductive Selects (bank : BootBank) (cfg : BootConfig) : NodeType → ℕ → Prop
  | active (node : NodeType) (hota : node = .zonalGateway → cfg.otaPending ≠ 1)
      (hactive : bankOf cfg.appActive = bank)
      (hcount : stage2GetAppBootCount cfg bank + 1 < maxBootAttempts) : Selects bank cfg node 0
  | pending (hota : cfg.otaPending = 1) (hactive : bankOf cfg.appActive = bank.other) :
      Selects bank cfg .zonalGateway 1

/-- Stage 1 comes to the selected Stage 2. -/
structure Stage2Ready (node : NodeType) (env : BootEnv) (cfg : BootConfig) : Prop where
  accepts : node.stage2Check.Accepts env (stage1ReadActiveStage2 env cfg)
  count : stage1GetBootCount cfg (stage1ReadActiveStage2 env cfg) + 1 < maxBootAttempts

section Boots
variable {env : BootEnv} {cfg : BootConfig} {bank : BootBank}

theorem EndNode.app_boot (hready : Stage2Ready .endNode env cfg) (hactive : bankOf cfg.appActive = bank)
    (hcount : stage2GetAppBootCount cfg bank + 1 < maxBootAttempts) :
    (EndNode.boot env cfg).app = some bank ↔ EndNode.stage2VerifyApplication env bank = true := by
  have hjump := EndNode.stage1_jumps rfl hready.count hready.accepts
  have hcounted : SameApps cfg (stage1IncrementBootCount env cfg (stage1ReadActiveStage2 env cfg)) :=
    sameApps_stage1IncrementBootCount cfg _
  have hsame : SameApps cfg (stage1ResetBootCount env
      (stage1IncrementBootCount env cfg (stage1ReadActiveStage2 env cfg)) (stage1ReadActiveStage2 env cfg)) :=
    hcounted.trans (sameApps_stage1ResetBootCount _ _)
  rw [EndNode.boot, hjump]
  generalize stage1ResetBootCount env (stage1IncrementBootCount env cfg (stage1ReadActiveStage2 env cfg))
    (stage1ReadActiveStage2 env cfg) = cfg' at hsame ⊢
  have hread : EndNode.stage2ReadActiveApp cfg' = bank := by rw [EndNode.stage2ReadActiveApp, hsame.active, hactive]
  by_cases hverified : EndNode.stage2VerifyApplication env bank = true
  · have hstarts := EndNode.stage2_starts hread (by rw [hsame.count]; exact hcount) hverified
    simp [hstarts, hverified]
  · have hfails : EndNode.stage2Main env cfg' = _ := EndNode.stage2_falls_back hread fun h => hverified h.2
    simp [hfails, hverified]

theorem Zonal.app_boot (hready : ∃ bank, Zonal.stage1VerifyStage2 env (stage2Meta bank) = true)
    (hota : cfg.otaPending ≠ 1) (hactive : bankOf cfg.appActive = bank)
    (hcount : stage2GetAppBootCount cfg bank + 1 < maxBootAttempts) :
    (Zonal.boot env cfg).app = some bank ↔ Zonal.stage2VerifyApp env (appMeta bank) = true := by
  obtain ⟨stage2, cfg', hjump, hsame, hcrc⟩ := Zonal.start_hands_over hready cfg
  have hidle : Zonal.stage2CheckOtaPending cfg' = false := by
    rw [Zonal.stage2CheckOtaPending, hsame.otaPending]
    exact decide_eq_false hota
  have hread : Zonal.stage2ReadActiveApp env cfg' = bank := by
    rw [Zonal.stage2ReadActiveApp, if_pos hcrc, hsame.active, hactive]
  by_cases hverified : Zonal.stage2VerifyApp env (appMeta bank) = true
  · have hstarts := Zonal.stage2_starts hidle hread (by rw [hsame.count]; exact hcount) hverified
    simp [Zonal.boot, hjump, hstarts, hverified]
  · have hfails := Zonal.stage2_falls_back hidle hread fun h => hverified h.2
    simp [Zonal.boot, hjump, hfails, hverified]

/-- A pending update is activated: the other application is the active one, with a count of zero. -/
theorem Zonal.config_boot_pending (hready : ∃ bank, Zonal.stage1VerifyStage2 env (stage2Meta bank) = true)
    (hota : cfg.otaPending = 1) (hactive : bankOf cfg.appActive = bank.other) :
    (Zonal.boot env cfg).config.otaPending = 0 ∧ bankOf (Zonal.boot env cfg).config.appActive = bank ∧
      stage2GetAppBootCount (Zonal.boot env cfg).config bank = 0 := by
  obtain ⟨stage2, cfg', hjump, hsame, -⟩ := Zonal.start_hands_over hready cfg
  have hpending : Zonal.stage2CheckOtaPending cfg' = true := by
    rw [Zonal.stage2CheckOtaPending, hsame.otaPending, hota]
    rfl
  have hconfig : (Zonal.boot env cfg).config = Zonal.stage2ProcessOta env cfg' := by
    simp [Zonal.boot, hjump, Zonal.stage2Main, hpending]
  obtain ⟨hbank, hcount, -⟩ := Zonal.switchApp_fresh env cfg'
  rw [hsame.active, hactive, BootBank.other_other] at hbank hcount
  rw [hconfig]
  exact ⟨rfl, hbank, by cases bank <;> exact hcount⟩

theorem app_selected {node : NodeType} {n : ℕ} (hready : Stage2Ready node env cfg)
    (hselects : Selects bank cfg node n) :
    (node.boot env (configAfter (node.boot env) n cfg)).app = some bank ↔ node.appCheck.Accepts env bank := by
  cases hselects with
  | active _ hota hactive hcount =>
    cases node with
    | endNode => exact EndNode.app_boot hready hactive hcount
    | zonalGateway => exact Zonal.app_boot ⟨_, hready.accepts⟩ (hota rfl) hactive hcount
  | pending hota hactive =>
    have hsome : ∃ bank, Zonal.stage1VerifyStage2 env (stage2Meta bank) = true := ⟨_, hready.accepts⟩
    obtain ⟨hidle, hbank, hcount⟩ := Zonal.config_boot_pending hsome hota hactive
    have hnone : (Zonal.boot env cfg).config.otaPending ≠ 1 := by simp [hidle]
    have hfresh : stage2GetAppBootCount (Zonal.boot env cfg).config bank + 1 < maxBootAttempts := by
      rw [hcount]
      decide
    exact Zonal.app_boot hsome hnone hbank hfresh

end Boots

/-! ## From the login to the start -/

/-- **An update.** The tester is answered positively throughout, the flash holds the image and the
record and is otherwise unchanged, and the boot that comes to the bank starts it exactly if the record
describes the image. -/
theorem update_installs {board : Board} {bank : BootBank} {d : Device} {image record : List UInt8}
    {programming seed key : Request} {sendsImage sendsRecord : List Request} {cfg : BootConfig} {n : ℕ}
    (hdriver : board.writeFirmware = storeBlock) (hrunning : d.app.isSome)
    (hlogin : LogsIn board.calculateKey d.handler programming seed key) (hfits : FitsBank image record)
    (himage : Sends (appStart bank) image sendsImage) (hrecord : Sends (appMeta bank) record sendsRecord)
    (hready : Stage2Ready board.node (board.env d.flash) cfg)
    (hsize : (board.node.stage2Check.image (board.env d.flash)
      (stage1ReadActiveStage2 (board.env d.flash) cfg)).size.toNat ≤ board.node.stage2Check.codeSize)
    (hselects : Selects bank cfg board.node n) :
    let requests := ([programming, seed, key] ++ (sendsImage ++ sendsRecord)).map DeviceEvent.request
    let d' := board.machine.run d (requests ++ .configure cfg :: List.replicate (n + 1) .reset)
    AllAnswered (board.machine.trace d requests) ∧
      d'.flash = updatedFlash bank image record d.flash ∧ (d'.app = some bank ↔ Describes board record image) := by
  intro requests d'
  have hspace : appStart bank + regionAppSize < 2 ^ 32 ∧ appMeta bank + 0x1000 < 2 ^ 32 := by
    cases bank <;> decide
  -- the requests
  obtain ⟨h₁, hserves₁, hin₁⟩ := login_serves hlogin
  obtain ⟨writes₂, h₂, hserves₂, hin₂, hstored₂⟩ := download_serves himage hin₁ (by
    have := hfits.imageFits
    omega)
  obtain ⟨writes₃, h₃, hserves₃, -, hstored₃⟩ := download_serves hrecord hin₂ (by
    have := hfits.recordFits.2
    omega)
  obtain ⟨hrun, hanswered⟩ :=
    run_served hdriver (hserves₁.trans (hserves₂.trans hserves₃)) (d := d) rfl hrunning
  have hflash : storeAll d.flash ([] ++ (writes₂ ++ writes₃)) = updatedFlash bank image record d.flash := by
    rw [List.nil_append, storeAll, List.foldl_append, ← storeAll, ← storeAll, hstored₂, hstored₃, updatedFlash]
  -- the boots
  have hd' : d' = board.machine.run
      ⟨updatedFlash bank image record d.flash, cfg, d.app, h₃⟩ (List.replicate (n + 1) .reset) := by
    change board.machine.run d (requests ++ _) = _
    rw [Machine.run_append, hrun, Machine.run_cons, hflash]
    rfl
  have hready' : Stage2Ready board.node (board.env (updatedFlash bank image record d.flash)) cfg :=
    ⟨stage2Check_updatedFlash hfits hsize hready.accepts, hready.count⟩
  refine ⟨hanswered, ?_, ?_⟩
  · rw [hd']
    exact (run_resets board _ _).1
  · rw [hd', app_after_resets]
    exact (app_selected hready' hselects).trans (appCheck_updatedFlash hfits)

/-! ## Four bytes for bank B -/

def exampleImage : List UInt8 := [1, 2, 3, 4]

/-- Magic, version, size, CRC, an empty signature, timestamp, boot count and the valid flag. -/
def exampleRecord : List UInt8 :=
  [0xA5, 0xA5, 0xA5, 0xA5, 1, 0, 0, 0] ++ leBytes32 (UInt32.ofNat exampleImage.length) ++
    leBytes32 (crc32 exampleImage) ++ List.replicate 256 0 ++ [0, 0, 0, 0, 0, 0, 0, 0, 1]

/-- Application A runs. -/
def exampleDevice : Device :=
  let flash := flashWith [stage2Meta .a, appMeta .a]
  ⟨flash, cleanConfig (exampleBoard.env flash), some .a, udsHandlerInit⟩

def sendsInBlocks (a : ℕ) (blocks : List (List UInt8)) : List Request :=
  (testerRequests nextBlockSequenceCounter (UInt32.ofNat a) blocks).map plainRequest

/-- Bank B is selected. -/
def exampleConfig : BootConfig :=
  updateCrc (exampleBoard.env exampleDevice.flash) ⟨0, 0, 0, 1, 0, 0, 0, Vector.replicate 9 0, 0⟩

/-- The image in two blocks and its record in one. -/
def exampleInstall : List DeviceEvent :=
  (unlockRequests ++ (sendsInBlocks (appStart .b) [[1, 2], [3, 4]] ++
      sendsInBlocks (appMeta .b) [exampleRecord])).map .request ++ [.configure exampleConfig, .reset]

theorem update_installs_example : (exampleBoard.machine.run exampleDevice exampleInstall).app = some .b := by
  have hlogin : LogsIn udsPlatformCalculateKey udsHandlerInit (plainRequest [0x10, 0x02])
      (plainRequest [0x27, 0x01]) (plainRequest (0x27 :: 0x02 :: beBytes32 (udsPlatformCalculateKey 0x01020304))) :=
    ⟨rfl, rfl, rfl, by decide, Or.inl (by decide)⟩
  have hfits : FitsBank exampleImage exampleRecord :=
    ⟨by decide, by decide +kernel, by decide +kernel⟩
  have himage : Sends (appStart .b) exampleImage (sendsInBlocks (appStart .b) [[1, 2], [3, 4]]) :=
    ⟨2, [[1, 2], [3, 4]], ⟨rfl, by decide⟩, carries_plainRequest _⟩
  have hrecord : Sends (appMeta .b) exampleRecord (sendsInBlocks (appMeta .b) [exampleRecord]) :=
    ⟨281, [exampleRecord], ⟨List.append_nil _, by decide +kernel⟩, carries_plainRequest _⟩
  have hdescribes : Describes exampleBoard exampleRecord exampleImage :=
    ⟨by decide +kernel, by decide +kernel, by decide +kernel, fun _ => rfl⟩
  have hready : Stage2Ready exampleBoard.node (exampleBoard.env exampleDevice.flash) exampleConfig :=
    ⟨by decide +kernel, by decide +kernel⟩
  have hselects : Selects .b exampleConfig exampleBoard.node 0 :=
    .active .endNode (by intro h; cases h) rfl (by decide)
  have hdriver : exampleBoard.writeFirmware = storeBlock := rfl
  have hrunning : exampleDevice.app.isSome := rfl
  exact (update_installs hdriver hrunning hlogin hfits himage hrecord hready (by decide +kernel)
    hselects).2.2.mpr hdescribes

end Mcus.Boot
