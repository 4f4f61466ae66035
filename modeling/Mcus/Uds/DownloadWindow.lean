import Mcus.Uds.Transfer

/-! # Where the flash is written

TransferData writes at `transfer_address + transfer_received`, in 32-bit arithmetic, and compares
neither the block nor the sum with `transfer_size`. The writes of a run stay inside the declared
window, and the byte count below the declared size, for as long as every accepted block still fits
behind the bytes already received.
-/

namespace Mcus.Uds
open Runs
set_option autoImplicit false

/-- Whatever the step writes lies in the window of the last accepted download, and the bytes
received stay within its size. -/
structure StaysInWindow (past : List UDSStep) (e : UDSStep) : Prop where
  writes : ∀ address data status, PlatformCall.writeFirmware address data status ∈ e.output.calls →
    ∃ d, lastWhere acceptsDownload past = some d ∧ ∀ k < data.length,
      d.post.transferAddress.toNat ≤ address.toNat + k ∧
        address.toNat + k < d.post.transferAddress.toNat + d.post.transferSize.toNat
  received : e.post.transferReceived.toNat ≤ e.post.transferSize.toNat

/-- An accepted block fits into what is left of the declared size, and a block with data starts
below `2 ^ 32`. -/
def FitsWindow (h : UDSHandler) (r : Request) : Prop :=
  BlockChecked h r →
    h.transferReceived.toNat + (r.bytes.drop 2).length ≤ h.transferSize.toNat ∧
      (r.bytes.drop 2 ≠ [] → h.transferAddress.toNat + h.transferReceived.toNat < 2 ^ 32)

/-- The transfer fields are those of the last accepted download, with no more received than
declared. -/
structure WindowOpen (past : List UDSStep) (h : UDSHandler) : Prop where
  received : h.transferReceived.toNat ≤ h.transferSize.toNat
  opened : h.transferActive = true → ∃ d, lastWhere acceptsDownload past = some d ∧
    d.post.transferAddress = h.transferAddress ∧ d.post.transferSize = h.transferSize

variable {calculateKey : UInt32 → UInt32} {h : UDSHandler} {r : Request}

/-! ## One block -/

theorem block_inside {address : UInt32} {data : List UInt8} {status : Int} (hfits : FitsWindow h r)
    (hchecked : BlockChecked h r)
    (hwrite : PlatformCall.writeFirmware address data status = blockWrite h r) {k : ℕ}
    (hk : k < data.length) : h.transferAddress.toNat ≤ address.toNat + k ∧
      address.toNat + k < h.transferAddress.toNat + h.transferSize.toNat := by
  obtain ⟨rfl, rfl, -⟩ := PlatformCall.writeFirmware.inj hwrite
  obtain ⟨hroom, hbelow⟩ := hfits hchecked
  have hne : r.bytes.drop 2 ≠ [] := List.ne_nil_of_length_pos (by omega)
  rw [blockAddress_toNat (hbelow hne)]
  omega

theorem fits_of_inside (hne : r.bytes.drop 2 ≠ [])
    (hinside : ∀ k < (r.bytes.drop 2).length,
      h.transferAddress.toNat ≤ (h.transferAddress + h.transferReceived).toNat + k ∧
        (h.transferAddress + h.transferReceived).toNat + k <
          h.transferAddress.toNat + h.transferSize.toNat) :
    h.transferReceived.toNat + (r.bytes.drop 2).length ≤ h.transferSize.toNat ∧
      h.transferAddress.toNat + h.transferReceived.toNat < 2 ^ 32 := by
  have hpos : 0 < (r.bytes.drop 2).length := List.length_pos_of_ne_nil hne
  have hfirst := hinside 0 hpos
  have hlast := hinside ((r.bytes.drop 2).length - 1) (by omega)
  have ha := h.transferAddress.toNat_lt
  have hr := h.transferReceived.toNat_lt
  -- a wrapped sum would lie below the start of the window
  have hlt : h.transferAddress.toNat + h.transferReceived.toNat < 2 ^ 32 := by
    by_contra hge
    rw [UInt32.toNat_add] at hfirst
    omega
  rw [blockAddress_toNat hlt] at hlast
  exact ⟨by omega, hlt⟩

/-! ## Over a run -/

theorem windowOpen_init : WindowOpen [] udsHandlerInit where
  received := le_refl _
  opened hactive := nomatch hactive

theorem windowOpen_step (calculateKey : UInt32 → UInt32) (past : List UDSStep) (h : UDSHandler)
    (r : Request) (hinv : WindowOpen past h) (hfits : FitsWindow h r) :
    WindowOpen (past ++ [(udsMachine calculateKey).stepAt h r])
      ((udsMachine calculateKey).stepAt h r).post := by
  by_cases hdownload : DownloadChecked h r
  · have hmark : acceptsDownload ((udsMachine calculateKey).stepAt h r) = true :=
      decide_eq_true hdownload
    have hlast := lastWhere_concat_pos hmark past
    rw [stepAt_of_process _ (process_download hdownload)] at hlast ⊢
    exact ⟨Nat.zero_le _, fun _ => ⟨_, hlast, rfl, rfl⟩⟩
  · have hmark : acceptsDownload ((udsMachine calculateKey).stepAt h r) = false :=
      decide_eq_false hdownload
    have hlast := lastWhere_concat_neg hmark past
    obtain ⟨h', reply, heff, he⟩ := transfer_step calculateKey h r
    rw [he] at hlast ⊢
    cases heff with
    | other _ _ hsame =>
      constructor
      · rw [hsame.received, hsame.size]
        exact hinv.received
      · rw [hlast, hsame.active, hsame.address, hsame.size]
        exact hinv.opened
    | download hchecked => exact absurd hchecked hdownload
    | block hchecked =>
      obtain ⟨hroom, _⟩ := hfits hchecked
      have hsize := h.transferSize.toNat_lt
      constructor
      · rw [receiveBlock_received (by omega)]
        exact hroom
      · rw [hlast]
        exact hinv.opened
    | blockFailed =>
      constructor
      · exact hinv.received
      · rw [hlast]
        exact hinv.opened
    | exit =>
      constructor
      · exact hinv.received
      · intro hactive
        cases hactive

theorem staysInWindow_iff_of_open {past : List UDSStep} (hinv : WindowOpen past h) :
    StaysInWindow past ((udsMachine calculateKey).stepAt h r) ↔ FitsWindow h r := by
  constructor
  · intro hstays hchecked
    obtain ⟨d, hd, hinside⟩ := hstays.writes _ _ _ (blockWrite_mem calculateKey hchecked)
    obtain ⟨d', hd', haddress, hsize⟩ := hinv.opened hchecked.active
    obtain rfl : d = d' := Option.some.inj (hd.symm.trans hd')
    rw [haddress, hsize] at hinside
    by_cases hne : r.bytes.drop 2 = []
    · rw [hne]
      exact ⟨hinv.received, fun h => absurd rfl h⟩
    · obtain ⟨hroom, hbelow⟩ := fits_of_inside hne hinside
      exact ⟨hroom, fun _ => hbelow⟩
  · intro hfits
    constructor
    · intro address data status hcall
      obtain ⟨hchecked, hwrite⟩ := write_of_block hcall
      obtain ⟨d, hd, haddress, hsize⟩ := hinv.opened hchecked.active
      refine ⟨d, hd, ?_⟩
      intro k hk
      rw [haddress, hsize]
      exact block_inside hfits hchecked hwrite hk
    · exact (windowOpen_step calculateKey past h r hinv hfits).received

/-- The writes of a run stay in their windows, and the byte counts within their sizes, if and only
if every accepted block fits. -/
theorem staysInWindow_iff (rs : List Request) :
    (udsMachine calculateKey).Admits
      (fun past h r => StaysInWindow past ((udsMachine calculateKey).stepAt h r)) udsHandlerInit rs ↔
    (udsMachine calculateKey).Admits (fun _ => FitsWindow) udsHandlerInit rs :=
  Machine.admits_iff_of_invariant windowOpen_init
    (fun _ _ _ hinv => staysInWindow_iff_of_open hinv) (windowOpen_step calculateKey) rs

/-! ## A block beyond the window -/

theorem overlongBlock_leaves : ¬ StaysInWindow (history udsPlatformCalculateKey downloadRequests)
    (nextStep udsPlatformCalculateKey downloadRequests
      (plainRequest [0x36, 0x01, 0xA0, 0xA1, 0xA2, 0xA3, 0xA4])) := by
  intro hstays
  exact absurd hstays.received (by decide)

end Mcus.Uds
