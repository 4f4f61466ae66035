import Mcus.Foundations.BlockStore
import Mcus.Uds.Runs

/-! # What one request can do to a transfer

`TransferEffect` sorts the effects of a request by what they do to the five transfer fields and to
the flash: everything outside the three transfer services, and every refusal inside them, leaves
the fields alone and writes nothing.
-/

namespace Mcus.Uds
open ByteOrder BlockStore Runs
set_option autoImplicit false

variable {calculateKey : UInt32 → UInt32} {h : UDSHandler} {r : Request} {e : UDSStep}

structure SameTransfer (h h' : UDSHandler) : Prop where
  active : h'.transferActive = h.transferActive
  counter : h'.blockSequenceCounter = h.blockSequenceCounter
  address : h'.transferAddress = h.transferAddress
  size : h'.transferSize = h.transferSize
  received : h'.transferReceived = h.transferReceived

theorem SameTransfer.refl (h : UDSHandler) : SameTransfer h h := ⟨rfl, rfl, rfl, rfl, rfl⟩

theorem sameTransfer_clearExpired (h : UDSHandler) : SameTransfer h (clearExpired h) := by
  constructor <;> simp

theorem sameTransfer_enterSession (h : UDSHandler) (sessionType : UInt8) :
    SameTransfer h (enterSession h sessionType) := by
  constructor <;> simp

/-- The call writes the flash, whether or not it succeeds. -/
def IsWrite : PlatformCall → Prop
  | .writeFirmware .. => True
  | _ => False

inductive TransferEffect (h : UDSHandler) (r : Request) : UDSHandler → Reply → Prop
  | other (h' : UDSHandler) (reply : Reply) (hsame : SameTransfer h h')
      (hdownload : ¬ DownloadChecked h r) (hcalls : ∀ c ∈ reply.calls, ¬ IsWrite c)
      (hrefuse : RefusesTransfer r reply) : TransferEffect h r h' reply
  | download (hchecked : DownloadChecked h r) :
      TransferEffect h r (openDownload h r)
        ⟨carriedOut Sid.requestDownload [0x20, 0x04, 0x00] r.respCap, []⟩
  | block (hchecked : BlockChecked h r) (hstatus : r.platform.writeStatus = 0) :
      TransferEffect h r (receiveBlock h r)
        ⟨carriedOut Sid.transferData [r.byte 1] r.respCap, [blockWrite h r]⟩
  | blockFailed (hchecked : BlockChecked h r) (hstatus : r.platform.writeStatus ≠ 0) :
      TransferEffect h r h
        ⟨udsBuildNegativeResponse Sid.transferData Nrc.generalProgrammingFailure r.respCap,
          [blockWrite h r]⟩
  | exit (hasks : r.Asks Sid.requestTransferExit) (hactive : h.transferActive = true)
      (hsize : h.transferReceived = h.transferSize) :
      TransferEffect h r { h with transferActive := false }
        ⟨carriedOut Sid.requestTransferExit [] r.respCap, []⟩

theorem not_isWrite_lockoutCalls {c : PlatformCall} (hc : c ∈ lockoutCalls h r) : ¬ IsWrite c := by
  rw [lockoutCalls_mem hc]
  exact id

theorem not_isWrite_append {cs : List PlatformCall} (hcs : ∀ c ∈ cs, ¬ IsWrite c) :
    ∀ c ∈ lockoutCalls h r ++ cs, ¬ IsWrite c := by
  intro c hc
  rcases List.mem_append.mp hc with hc | hc
  · exact not_isWrite_lockoutCalls hc
  · exact hcs c hc

theorem not_isWrite_calculateKey {seed : UInt32} {cs : List PlatformCall}
    (hcs : ∀ c ∈ cs, ∃ t, c = .getTickMs t) :
    ∀ c ∈ lockoutCalls h r ++ .calculateKey seed :: cs, ¬ IsWrite c := by
  refine not_isWrite_append fun c hc => ?_
  rcases List.mem_cons.mp hc with rfl | hc
  · exact id
  · obtain ⟨t, rfl⟩ := hcs c hc
    exact id

theorem transfer_step (calculateKey : UInt32 → UInt32) (h : UDSHandler) (r : Request) :
    ∃ h' reply, TransferEffect h r h' reply ∧
      (udsMachine calculateKey).stepAt h r = ⟨h, r, reply, h'⟩ := by
  by_cases hdownload : DownloadChecked h r
  · exact ⟨_, _, .download hdownload, stepAt_of_process _ (process_download hdownload)⟩
  obtain ⟨h', reply, heff, he⟩ := step_effect calculateKey h r
  refine ⟨h', reply, ?_, he⟩
  cases heff with
  | quiet _ hcalls hrefuse =>
    refine .other _ _ (.refl h) hdownload ?_ hrefuse
    intro c hc
    rcases hcalls c hc with ⟨t, rfl⟩ | ⟨t, rfl⟩ <;> exact id
  | session response hasks =>
    exact .other _ _ (sameTransfer_enterSession h _) hdownload (fun _ hc => absurd hc List.not_mem_nil)
      (refusesTransfer_other hasks (by decide) _)
  | security response hasks =>
    exact .other _ _ (sameTransfer_clearExpired h) hdownload (fun _ => not_isWrite_lockoutCalls)
      (refusesTransfer_other hasks (by decide) _)
  | seed hasks =>
    have hsame := sameTransfer_clearExpired h
    refine .other _ _ ⟨hsame.1, hsame.2, hsame.3, hsame.4, hsame.5⟩ hdownload ?_
      (refusesTransfer_other hasks (by decide) _)
    exact not_isWrite_append fun c hc => by rw [List.mem_singleton.mp hc]; exact id
  | keyAccepted hchecked =>
    refine .other _ _ ⟨rfl, rfl, rfl, rfl, rfl⟩ hdownload ?_
      (refusesTransfer_other hchecked.asks (by decide) _)
    exact not_isWrite_calculateKey fun _ hc => absurd hc List.not_mem_nil
  | keyWrong _ hchecked _ hcalls =>
    have hsame := sameTransfer_clearExpired h
    refine .other _ _ ⟨hsame.1, hsame.2, hsame.3, hsame.4, hsame.5⟩ hdownload ?_
      (refusesTransfer_other hchecked.asks (by decide) _)
    obtain ⟨cs, hcs, htick⟩ := hcalls
    rw [hcs]
    exact not_isWrite_calculateKey htick
  | download hchecked => exact absurd hchecked hdownload
  | block hchecked hstatus => exact .block hchecked hstatus
  | blockFailed hchecked hstatus => exact .blockFailed hchecked hstatus
  | exit hasks hactive hsize => exact .exit hasks hactive hsize

/-! ## Flash writes -/

/-- The write of a call that the flash carried out. -/
def storedWrite : PlatformCall → Option (ℕ × List UInt8)
  | .writeFirmware address data status => if status = 0 then some (address.toNat, data) else none
  | _ => none

/-- The flash writes of some steps, in order; a failing write stores nothing. -/
def storedWrites (steps : List UDSStep) : List (ℕ × List UInt8) :=
  steps.flatMap fun e => e.output.calls.filterMap storedWrite

theorem storedWrites_append (steps steps' : List UDSStep) :
    storedWrites (steps ++ steps') = storedWrites steps ++ storedWrites steps' := List.flatMap_append

theorem storedWrites_none (hcalls : ∀ c ∈ e.output.calls, ¬ IsWrite c) : storedWrites [e] = [] := by
  have hnone : e.output.calls.filterMap storedWrite = [] := by
    refine List.filterMap_eq_nil_iff.mpr ?_
    intro c hc
    have hc' := hcalls c hc
    cases c with
    | writeFirmware => exact absurd trivial hc'
    | _ => rfl
  simp [storedWrites, hnone]

theorem storedWrites_block (hstatus : r.platform.writeStatus = 0)
    (hcalls : e.output.calls = [blockWrite h r]) :
    storedWrites [e] = [((h.transferAddress + h.transferReceived).toNat, r.bytes.drop 2)] := by
  simp [storedWrites, hcalls, blockWrite, storedWrite, hstatus]

theorem storedWrites_blockFailed (hstatus : r.platform.writeStatus ≠ 0)
    (hcalls : e.output.calls = [blockWrite h r]) : storedWrites [e] = [] := by
  simp [storedWrites, hcalls, blockWrite, storedWrite, hstatus]

/-- Only a TransferData request that passed its checks calls `uds_platform_write_firmware`, and it
asks for exactly its own block. -/
theorem write_of_block {address : UInt32} {data : List UInt8} {status : Int}
    (hc : PlatformCall.writeFirmware address data status ∈
      ((udsMachine calculateKey).stepAt h r).output.calls) :
    BlockChecked h r ∧ PlatformCall.writeFirmware address data status = blockWrite h r := by
  obtain ⟨h', reply, heff, he⟩ := transfer_step calculateKey h r
  rw [he] at hc
  cases heff with
  | other _ _ _ _ hcalls => exact absurd trivial (hcalls _ hc)
  | download => exact absurd hc List.not_mem_nil
  | block hchecked => exact ⟨hchecked, List.mem_singleton.mp hc⟩
  | blockFailed hchecked => exact ⟨hchecked, List.mem_singleton.mp hc⟩
  | exit => exact absurd hc List.not_mem_nil

theorem blockWrite_mem (calculateKey : UInt32 → UInt32) (hchecked : BlockChecked h r) :
    blockWrite h r ∈ ((udsMachine calculateKey).stepAt h r).output.calls := by
  by_cases hstatus : r.platform.writeStatus = 0
  · rw [stepAt_of_process _ (process_block hchecked hstatus)]
    exact List.mem_singleton_self _
  · rw [stepAt_of_process _ (process_blockFailed hchecked hstatus)]
    exact List.mem_singleton_self _

/-! ## The byte count and the address of a block -/

theorem receiveBlock_received (hfits : h.transferReceived.toNat + (r.bytes.drop 2).length < 2 ^ 32) :
    (receiveBlock h r).transferReceived.toNat =
      h.transferReceived.toNat + (r.bytes.drop 2).length := by
  have hlen : (UInt32.ofNat (r.bytes.drop 2).length).toNat = (r.bytes.drop 2).length :=
    UInt32.toNat_ofNat_of_lt' (by unfold UInt32.size; omega)
  unfold receiveBlock
  rw [UInt32.toNat_add, hlen, Nat.mod_eq_of_lt hfits]

theorem blockAddress_toNat (hlt : h.transferAddress.toNat + h.transferReceived.toNat < 2 ^ 32) :
    (h.transferAddress + h.transferReceived).toNat =
      h.transferAddress.toNat + h.transferReceived.toNat := by
  rw [UInt32.toNat_add, Nat.mod_eq_of_lt hlt]

theorem positiveTo_block (hchecked : BlockChecked h r) (hcap : 2 ≤ r.respCap) :
    positiveTo Sid.transferData ⟨h, r,
      ⟨carriedOut Sid.transferData [r.byte 1] r.respCap, [blockWrite h r]⟩, receiveBlock h r⟩ = true :=
  positiveTo_carriedOut hchecked.asks rfl hcap

/-! ## Accepted downloads -/

instance (h : UDSHandler) (r : Request) : Decidable (DownloadChecked h r) :=
  decidable_of_iff (r.Asks Sid.requestDownload ∧ h.session = .programming ∧ h.security = .unlocked ∧
      4 ≤ r.bytes.length ∧ 3 + addrBytes r + sizeBytes r ≤ r.bytes.length)
    ⟨fun ⟨ha, hs, hu, hl⟩ => ⟨ha, hs, hu, hl⟩, fun hd => ⟨hd.asks, hd.session, hd.security, hd.length⟩⟩

/-- The step accepted a RequestDownload, that is, opened the transfer it declares. -/
def acceptsDownload (e : UDSStep) : Bool := decide (DownloadChecked e.pre e.input)

theorem downloadChecked_of_positive
    (hpositive : positiveTo Sid.requestDownload ((udsMachine calculateKey).stepAt h r) = true) :
    DownloadChecked h r := by
  by_contra hnot
  obtain ⟨h', reply, heff, he⟩ := transfer_step calculateKey h r
  rw [he] at hpositive
  refine absurd hpositive (Bool.eq_false_iff.mp ?_)
  cases heff with
  | other _ _ _ _ _ hrefuse => exact positiveTo_refused (by simp [IsTransferSid]) hrefuse
  | download hchecked => exact absurd hchecked hnot
  | block hb => exact positiveTo_of_other hb.asks (by decide)
  | blockFailed hb => exact positiveTo_of_other hb.asks (by decide)
  | exit hasks => exact positiveTo_of_other hasks (by decide)

theorem acceptsDownload_eq_positiveTo (hcap : 4 ≤ r.respCap) :
    acceptsDownload ((udsMachine calculateKey).stepAt h r) =
      positiveTo Sid.requestDownload ((udsMachine calculateKey).stepAt h r) := by
  by_cases hchecked : DownloadChecked h r
  · have hpositive : positiveTo Sid.requestDownload ⟨h, r,
        ⟨carriedOut Sid.requestDownload [0x20, 0x04, 0x00] r.respCap, []⟩, openDownload h r⟩ = true :=
      positiveTo_carriedOut hchecked.asks rfl hcap
    rw [stepAt_of_process _ (process_download hchecked), hpositive]
    exact decide_eq_true hchecked
  · rw [Bool.eq_false_iff.mpr (mt downloadChecked_of_positive hchecked)]
    exact decide_eq_false hchecked

end Mcus.Uds
