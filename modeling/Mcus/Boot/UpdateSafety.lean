import Mcus.Boot.EndNodeRecovery
import Mcus.Boot.ImageBounds
import Mcus.Boot.ZonalRecovery
import Mcus.Uds.DownloadWindow

/-! # Updating over UDS without losing the device

A device as a whole: the flash, the boot configuration and, while an application runs, the UDS
handler of that application. Requests are served in any order, the configuration may come to hold
anything, and power may be lost between any two steps; a boot reads the flash as the requests left
it. As long as the downloads a tester declares lie in the region of one bank and its blocks fit
their downloads, the other bank is never touched, and the device finds back to it.
-/

namespace Mcus.Boot
open BlockStore Runs Uds
set_option autoImplicit false

/-! ## Regions -/

/-- `REGION_A_START`, `REGION_B_START`. -/
def regionStart : BootBank → ℕ
  | .a => 0x80000000
  | .b => 0x82000000

/-- `REGION_A_SIZE`, `REGION_B_SIZE`. -/
abbrev regionSize : ℕ := 0x02000000

def InRegion (bank : BootBank) (address : ℕ) : Prop :=
  regionStart bank ≤ address ∧ address < regionStart bank + regionSize

theorem not_inRegion_other {bank : BootBank} {address : ℕ} (h : InRegion bank address) :
    ¬ InRegion bank.other address := by
  cases bank <;> simp only [InRegion, regionStart, regionSize, BootBank.other] at h ⊢ <;> omega

/-! ## What a check reads -/

theorem readWord_congr {flash flash' : Memory UInt8} {address : ℕ}
    (h : ∀ k < 4, flash' (address + k) = flash (address + k)) :
    readWord flash' address = readWord flash address := by
  have h0 : flash' address = flash address := h 0 (by decide)
  simp only [readWord, h0, h 1 (by decide), h 2 (by decide), h 3 (by decide)]

theorem readMetadata_congr {flash flash' : Memory UInt8} {address : ℕ}
    (h : ∀ k < 281, flash' (address + k) = flash (address + k)) :
    readMetadata flash' address = readMetadata flash address := by
  have hword : ∀ offset, offset + 4 ≤ 281 →
      readWord flash' (address + offset) = readWord flash (address + offset) := by
    intro offset hoffset
    refine readWord_congr fun k hk => ?_
    rw [Nat.add_assoc]
    exact h (offset + k) (by omega)
  have hsignature : load flash' (address + 16) 256 = load flash (address + 16) 256 := by
    refine load_congr fun k hk => ?_
    rw [Nat.add_assoc]
    exact h (16 + k) (by omega)
  have hmagic : readWord flash' address = readWord flash address := hword 0 (by decide)
  simp only [readMetadata, hmagic, hword 8 (by decide), hword 12 (by decide), hsignature,
    h 280 (by decide)]

namespace Verification
variable {v : Verification} {bank : BootBank}

theorem meta_inRegion {k : ℕ} (hk : k < 281) : InRegion bank (v.metaAddr bank + k) := by
  have hmeta : regionStart bank ≤ v.metaAddr bank ∧
      v.metaAddr bank + 281 ≤ regionStart bank + regionSize := by
    cases v <;> cases bank <;> decide
  exact ⟨by omega, by omega⟩

theorem code_inRegion {k : ℕ} (hk : k < v.codeSize) : InRegion bank (v.codeStart bank + k) := by
  have hcode : regionStart bank ≤ v.codeStart bank ∧
      v.codeStart bank + v.codeSize ≤ regionStart bank + regionSize := by
    cases v <;> cases bank <;> decide
  exact ⟨by omega, by omega⟩

/-- A check of an image no longer than its region reads the metadata and the code region, and nothing
else. -/
theorem accepts_of_reads {env env' : BootEnv} (hcrc : env'.calculateCrc32 = env.calculateCrc32)
    (hverify : env'.verifyDilithiumSignature = env.verifyDilithiumSignature)
    (hmeta : ∀ k < 281, env'.flash (v.metaAddr bank + k) = env.flash (v.metaAddr bank + k))
    (hcode : ∀ k < v.codeSize, env'.flash (v.codeStart bank + k) = env.flash (v.codeStart bank + k))
    (hsize : (v.image env bank).size.toNat ≤ v.codeSize) (haccepts : v.Accepts env bank) :
    v.Accepts env' bank ∧ v.image env' bank = v.image env bank := by
  have himage : v.image env' bank = v.image env bank := readMetadata_congr hmeta
  have hload : load env'.flash (v.codeStart bank) (v.image env bank).size.toNat =
      load env.flash (v.codeStart bank) (v.image env bank).size.toNat :=
    load_congr fun k hk => hcode k (by omega)
  refine ⟨?_, himage⟩
  rw [accepts_iff] at haccepts ⊢
  rwa [himage, hload, hcrc, hverify]

theorem accepts_congr {env env' : BootEnv} (hcrc : env'.calculateCrc32 = env.calculateCrc32)
    (hverify : env'.verifyDilithiumSignature = env.verifyDilithiumSignature)
    (hflash : ∀ address, InRegion bank address → env'.flash address = env.flash address)
    (hsize : (v.image env bank).size.toNat ≤ v.codeSize) (haccepts : v.Accepts env bank) :
    v.Accepts env' bank ∧ v.image env' bank = v.image env bank :=
  accepts_of_reads hcrc hverify (fun _ hk => hflash _ (meta_inRegion hk))
    (fun _ hk => hflash _ (code_inRegion hk)) hsize haccepts

end Verification

/-! ## The two node types -/

inductive NodeType
  | endNode
  | zonalGateway
  deriving DecidableEq, Repr

namespace NodeType

def boot : NodeType → BootEnv → BootConfig → BootRecord
  | .endNode => EndNode.boot
  | .zonalGateway => Zonal.boot

def stage2Check : NodeType → Verification
  | .endNode => .ecuStage1
  | .zonalGateway => .gatewayStage1

def appCheck : NodeType → Verification
  | .endNode => .ecuStage2
  | .zonalGateway => .gatewayStage2

variable {node : NodeType} {env : BootEnv} {cfg : BootConfig}

/-- A boot hands over to images only behind their checks. -/
theorem boot_checked :
    (∀ bank, (node.boot env cfg).stage2 = some bank → node.stage2Check.Accepts env bank) ∧
    ∀ app, (node.boot env cfg).app = some app → node.appCheck.Accepts env app := by
  cases node with
  | endNode => exact EndNode.boot_jumps_checked env cfg
  | zonalGateway => exact Zonal.boot_jumps_checked env cfg

theorem ecu_startsAt {n : ℕ} (h : EndNode.StartsWithin env n cfg) :
    ∃ m < n, ∃ app, (EndNode.boot env (configAfter (EndNode.boot env) m cfg)).app = some app := by
  induction n generalizing cfg with
  | zero => exact absurd h id
  | succ n ih =>
    cases hstages : EndNode.bootStages env cfg with
    | finish r => exact ⟨0, Nat.succ_pos n, r.1, (EndNode.boot_of_finish hstages).1⟩
    | restart next =>
      rw [EndNode.StartsWithin, Restart.Finishes, hstages] at h
      obtain ⟨m, hm, app, happ⟩ := ih h
      refine ⟨m + 1, Nat.succ_lt_succ hm, app, ?_⟩
      rwa [configAfter, (EndNode.boot_of_restart hstages).2]

/-- With one good image in each stage, some boot of the next fifteen starts an application. -/
theorem recovers (cfg : BootConfig) (hstage2 : ∃ bank, node.stage2Check.Accepts env bank)
    (happ : ∃ bank, node.appCheck.Accepts env bank) :
    ∃ n < 15, ∃ app, (node.boot env (configAfter (node.boot env) n cfg)).app = some app := by
  cases node with
  | endNode => exact ecu_startsAt (EndNode.starts_within_fifteen hstage2 happ cfg)
  | zonalGateway =>
    obtain ⟨n, hn, app, hstarts, -⟩ := (Zonal.gateway_recovers env cfg).1 hstage2 happ
    exact ⟨n, by omega, app, hstarts.starts⟩

end NodeType

/-! ## The device -/

/-- What the flash holds after `uds_platform_write_firmware` was given an address and a block and
returned a status. -/
abbrev FlashDriver := Memory UInt8 → UInt32 → List UInt8 → Int → Memory UInt8

/-- A block inside a region, stored or not, changes nothing outside the region. -/
def KeepsRegions (driver : FlashDriver) : Prop :=
  ∀ bank flash address data status, (∀ k < data.length, InRegion bank (address.toNat + k)) →
    ∀ i, ¬ InRegion bank i → driver flash address data status i = flash i

structure Board where
  node : NodeType
  calculateCrc32 : List UInt8 → UInt32
  verifyDilithiumSignature : List UInt8 → List UInt8 → Bool
  calculateKey : UInt32 → UInt32
  writeFirmware : FlashDriver

structure Device where
  flash : Memory UInt8
  config : BootConfig
  app : Option BootBank
  handler : UDSHandler

inductive DeviceEvent
  | request (r : Request)
  | reset
  | configure (cfg : BootConfig)

namespace Board
variable (board : Board)

def env (flash : Memory UInt8) : BootEnv :=
  ⟨flash, board.calculateCrc32, board.verifyDilithiumSignature⟩

def carryOut (flash : Memory UInt8) : PlatformCall → Memory UInt8
  | .writeFirmware address data status => board.writeFirmware flash address data status
  | _ => flash

def IsReset : PlatformCall → Bool
  | .ecuReset _ => true
  | _ => false

/-- `uds_platform_ecu_reset` does not return: the application is over until the next boot. -/
def serve (d : Device) (r : Request) : Device × Option (List UInt8) :=
  let (handler, reply) := udsHandlerProcess board.calculateKey d.handler r
  ({ d with
      flash := reply.calls.foldl board.carryOut d.flash
      app := if reply.calls.any IsReset then none else d.app
      handler := handler }, reply.response)

def restart (d : Device) : Device :=
  let record := board.node.boot (board.env d.flash) d.config
  ⟨d.flash, record.config, record.app, udsHandlerInit⟩

def step (d : Device) : DeviceEvent → Device × Option (List UInt8)
  | .request r => if d.app.isSome then board.serve d r else (d, none)
  | .reset => (board.restart d, none)
  | .configure cfg => ({ d with config := cfg }, none)

def machine : Machine Device DeviceEvent (Option (List UInt8)) := ⟨board.step⟩

end Board

def poweredOff (flash : Memory UInt8) (cfg : BootConfig) : Device := ⟨flash, cfg, none, udsHandlerInit⟩

/-! ## What a careful tester touches -/

def WindowIn (bank : BootBank) (h : UDSHandler) : Prop :=
  regionStart bank ≤ h.transferAddress.toNat ∧
    h.transferAddress.toNat + h.transferSize.toNat ≤ regionStart bank + regionSize

/-- A download lies in the region of `bank`, and a block fits the download it belongs to. -/
def Careful (bank : BootBank) (d : Device) : DeviceEvent → Prop
  | .request r => d.app.isSome →
      (DownloadChecked d.handler r → WindowIn bank (openDownload d.handler r)) ∧ FitsWindow d.handler r
  | _ => True

/-- The flash is what it was outside the region, and so is the window of an open transfer inside. -/
structure Confined (bank : BootBank) (flash : Memory UInt8) (d : Device) : Prop where
  flash : ∀ i, ¬ InRegion bank i → d.flash i = flash i
  window : d.handler.transferActive = true → WindowIn bank d.handler

theorem confined_poweredOff (bank : BootBank) (flash : Memory UInt8) (cfg : BootConfig) :
    Confined bank flash (poweredOff flash cfg) where
  flash _ _ := rfl
  window hactive := nomatch hactive

section Step
variable {board : Board} {bank : BootBank} {flash : Memory UInt8} {d : Device} {r : Request}

theorem foldl_carryOut_of_no_write {calls : List PlatformCall} (hcalls : ∀ c ∈ calls, ¬ IsWrite c)
    (flash : Memory UInt8) : calls.foldl board.carryOut flash = flash := by
  induction calls with
  | nil => rfl
  | cons c calls ih =>
    have hc : board.carryOut flash c = flash := by
      cases c with
      | writeFirmware => exact absurd trivial (hcalls _ (List.mem_cons_self ..))
      | _ => rfl
    rw [List.foldl_cons, hc]
    exact ih fun c hmem => hcalls c (List.mem_cons_of_mem _ hmem)

theorem blockWrite_confined (hdriver : KeepsRegions board.writeFirmware) (hconfined : Confined bank flash d)
    (hfits : FitsWindow d.handler r) (hchecked : BlockChecked d.handler r) {i : ℕ} (hi : ¬ InRegion bank i) :
    board.carryOut d.flash (blockWrite d.handler r) i = flash i := by
  obtain ⟨hlow, hhigh⟩ := hconfined.window hchecked.active
  have hinside : ∀ k < (r.bytes.drop 2).length,
      InRegion bank ((d.handler.transferAddress + d.handler.transferReceived).toNat + k) := by
    intro k hk
    have hblock := block_inside hfits hchecked rfl hk
    exact ⟨by omega, by omega⟩
  rw [← hconfined.flash i hi]
  exact hdriver bank d.flash _ _ _ hinside i hi

theorem confined_serve (hdriver : KeepsRegions board.writeFirmware) (hconfined : Confined bank flash d)
    (hdownload : DownloadChecked d.handler r → WindowIn bank (openDownload d.handler r))
    (hfits : FitsWindow d.handler r) : Confined bank flash (board.serve d r).1 := by
  obtain ⟨h', reply, heffect, hstep⟩ := transfer_step board.calculateKey d.handler r
  obtain rfl : (udsHandlerProcess board.calculateKey d.handler r).1 = h' := congrArg (·.post) hstep
  obtain rfl : (udsHandlerProcess board.calculateKey d.handler r).2 = reply := congrArg (·.output) hstep
  have hserve : (board.serve d r).1.flash =
      (udsHandlerProcess board.calculateKey d.handler r).2.calls.foldl board.carryOut d.flash ∧
      (board.serve d r).1.handler = (udsHandlerProcess board.calculateKey d.handler r).1 := ⟨rfl, rfl⟩
  obtain ⟨hflash, hhandler⟩ := hserve
  generalize udsHandlerProcess board.calculateKey d.handler r = served at heffect hflash hhandler
  obtain ⟨handler, reply⟩ := served
  constructor
  · intro i hi
    rw [hflash]
    cases heffect with
    | other _ _ _ _ hcalls =>
      rw [foldl_carryOut_of_no_write hcalls]
      exact hconfined.flash i hi
    | download => exact hconfined.flash i hi
    | block hchecked => exact blockWrite_confined hdriver hconfined hfits hchecked hi
    | blockFailed hchecked => exact blockWrite_confined hdriver hconfined hfits hchecked hi
    | exit => exact hconfined.flash i hi
  · rw [hhandler]
    cases heffect with
    | other _ _ hsame =>
      rw [WindowIn, hsame.active, hsame.address, hsame.size]
      exact hconfined.window
    | download hchecked => exact fun _ => hdownload hchecked
    | block hchecked => exact hconfined.window
    | blockFailed => exact hconfined.window
    | exit => exact nofun

theorem confined_step (hdriver : KeepsRegions board.writeFirmware) (hconfined : Confined bank flash d)
    (event : DeviceEvent) (hcareful : Careful bank d event) : Confined bank flash (board.step d event).1 := by
  cases event with
  | reset => exact ⟨hconfined.flash, nofun⟩
  | configure cfg => exact ⟨hconfined.flash, hconfined.window⟩
  | request r =>
    by_cases hrunning : d.app.isSome
    · rw [Board.step, if_pos hrunning]
      obtain ⟨hdownload, hfits⟩ := hcareful hrunning
      exact confined_serve hdriver hconfined hdownload hfits
    · rw [Board.step, if_neg hrunning]
      exact hconfined

end Step

/-! ## Resets in a row -/

theorem run_resets (board : Board) (d : Device) (n : ℕ) :
    (board.machine.run d (List.replicate n .reset)).flash = d.flash ∧
    (board.machine.run d (List.replicate n .reset)).config =
      configAfter (board.node.boot (board.env d.flash)) n d.config := by
  induction n generalizing d with
  | zero => exact ⟨rfl, rfl⟩
  | succ n ih =>
    rw [List.replicate_succ, Machine.run_cons]
    exact ih (board.restart d)

theorem app_after_resets (board : Board) (d : Device) (n : ℕ) :
    (board.machine.run d (List.replicate (n + 1) .reset)).app =
      (board.node.boot (board.env d.flash) (configAfter (board.node.boot (board.env d.flash)) n d.config)).app := by
  obtain ⟨hflash, hconfig⟩ := run_resets board d n
  rw [List.replicate_succ', Machine.run_concat, ← hconfig]
  change (board.restart _).app = _
  rw [Board.restart, hflash]

/-! ## The bank that is not updated -/

/-- Both images of a bank pass their checks and are no longer than their regions. -/
structure BankGood (board : Board) (bank : BootBank) (flash : Memory UInt8) : Prop where
  stage2 : board.node.stage2Check.Accepts (board.env flash) bank
  stage2Size : (board.node.stage2Check.image (board.env flash) bank).size.toNat ≤ board.node.stage2Check.codeSize
  app : board.node.appCheck.Accepts (board.env flash) bank
  appSize : (board.node.appCheck.image (board.env flash) bank).size.toNat ≤ board.node.appCheck.codeSize

/-- Nothing outside the region of `bank` has changed, the other bank is good, a row of resets leads to
an application, and whatever it leads to passed its check. -/
structure Survives (board : Board) (bank : BootBank) (flash : Memory UInt8) (d : Device) : Prop where
  untouched : ∀ i, ¬ InRegion bank i → d.flash i = flash i
  good : BankGood board bank.other d.flash
  starts : ∃ n < 15, ∃ app, (board.machine.run d (List.replicate (n + 1) .reset)).app = some app
  checked : ∀ n app, (board.machine.run d (List.replicate (n + 1) .reset)).app = some app →
    board.node.appCheck.Accepts (board.env d.flash) app

theorem BankGood.of_untouched {board : Board} {bank : BootBank} {flash flash' : Memory UInt8}
    (hgood : BankGood board bank.other flash) (h : ∀ i, ¬ InRegion bank i → flash' i = flash i) :
    BankGood board bank.other flash' := by
  have hother : ∀ i, InRegion bank.other i → (board.env flash').flash i = (board.env flash).flash i := by
    intro i hi
    have hnot := not_inRegion_other hi
    rw [BootBank.other_other] at hnot
    exact h i hnot
  have hcrc : (board.env flash').calculateCrc32 = (board.env flash).calculateCrc32 := rfl
  obtain ⟨hstage2, himage⟩ := Verification.accepts_congr hcrc rfl hother hgood.stage2Size hgood.stage2
  obtain ⟨happ, himage'⟩ := Verification.accepts_congr hcrc rfl hother hgood.appSize hgood.app
  exact ⟨hstage2, by rw [himage]; exact hgood.stage2Size, happ, by rw [himage']; exact hgood.appSize⟩

/-- **Update safety.** Whatever requests are served, with any pattern of failing writes, resets and
changes of the configuration in between: while every download lies in the region of one bank and
every block fits its download, the other bank stays good and the device finds an application. -/
theorem update_safe {board : Board} {bank : BootBank} {flash : Memory UInt8} {cfg : BootConfig}
    (hdriver : KeepsRegions board.writeFirmware) (hgood : BankGood board bank.other flash)
    (events : List DeviceEvent)
    (hcareful : board.machine.Admits (fun _ => Careful bank) (poweredOff flash cfg) events) :
    Survives board bank flash (board.machine.run (poweredOff flash cfg) events) := by
  have hconfined : Confined bank flash (board.machine.run (poweredOff flash cfg) events) :=
    Machine.induction_of_admits (M := board.machine) (C := fun _ => Careful bank)
      (P := fun _ d => Confined bank flash d) (confined_poweredOff bank flash cfg)
      (fun _ _ event hd hevent => confined_step hdriver hd event hevent) events hcareful
  have hkept := hgood.of_untouched hconfined.flash
  refine ⟨hconfined.flash, hkept, ?_, ?_⟩
  · obtain ⟨n, hn, app, happ⟩ := NodeType.recovers
      (board.machine.run (poweredOff flash cfg) events).config ⟨_, hkept.stage2⟩ ⟨_, hkept.app⟩
    exact ⟨n, hn, app, (app_after_resets board _ n).trans happ⟩
  · intro n app happ
    rw [app_after_resets] at happ
    exact NodeType.boot_checked.2 app happ

/-! ## A driver and a run -/

def storeBlock : FlashDriver := fun flash address data status =>
  if status = 0 then store flash address.toNat data else flash

theorem keepsRegions_storeBlock : KeepsRegions storeBlock := by
  intro bank flash address data status hinside i hi
  unfold storeBlock
  split
  case isFalse => rfl
  case isTrue =>
    refine store_frame _ _ _ ?_
    by_contra hnot
    have hblock := hinside (i - address.toNat) (by omega)
    rw [Nat.add_sub_cancel' (by omega)] at hblock
    exact hi hblock

instance (h : UDSHandler) (r : Request) : Decidable (BlockChecked h r) :=
  decidable_of_iff (r.Asks Sid.transferData ∧ 2 ≤ r.bytes.length ∧ h.transferActive = true ∧
      r.byte 1 = h.blockSequenceCounter)
    ⟨fun ⟨ha, hl, hact, hc⟩ => ⟨ha, hl, hact, hc⟩, fun hb => ⟨hb.asks, hb.length, hb.active, hb.counter⟩⟩

instance (env : BootEnv) (bank : BootBank) : (v : Verification) → Decidable (v.Accepts env bank)
  | .ecuStage1 => inferInstanceAs (Decidable (_ ∧ _))
  | .ecuStage2 => inferInstanceAs (Decidable (_ = _))
  | .gatewayStage1 => inferInstanceAs (Decidable (_ = _))
  | .gatewayStage2 => inferInstanceAs (Decidable (_ = _))

instance (bank : BootBank) (d : Device) : (event : DeviceEvent) → Decidable (Careful bank d event)
  | .request r => inferInstanceAs (Decidable (d.app.isSome = true →
      (DownloadChecked d.handler r → _ ∧ _) ∧
        (BlockChecked d.handler r → _ ∧ (r.bytes.drop 2 ≠ [] → _))))
  | .reset => .isTrue trivial
  | .configure _ => .isTrue trivial

def exampleBoard : Board := ⟨.endNode, crc32, fun _ _ => true, udsPlatformCalculateKey, storeBlock⟩

/-- Four bytes of the metadata of application B are overwritten, then power is lost. -/
def exampleUpdate : List DeviceEvent :=
  .reset :: unlockRequests.map .request ++
    [.request (plainRequest [0x34, 0x00, 0x41, 0x82, 0x0D, 0x20, 0x00, 0x04]),
      .request (plainRequest [0x36, 0x01, 0xDE, 0xAD, 0xBE, 0xEF]), .reset]

/-- The update is carried out, and bank A survives it. -/
theorem update_safe_example :
    let flash := flashWith [stage2Meta .a, appMeta .a]
    let d := exampleBoard.machine.run (poweredOff flash (cleanConfig (exampleBoard.env flash))) exampleUpdate
    d.flash (appMeta .b) = 0xDE ∧ Survives exampleBoard .b flash d :=
  ⟨by decide +kernel, update_safe keepsRegions_storeBlock
    ⟨by decide +kernel, by decide +kernel, by decide +kernel, by decide +kernel⟩ _
    (by decide +kernel)⟩

end Mcus.Boot
