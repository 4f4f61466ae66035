import Mcus.Uds.Refusals

/-! # The fields of a RequestDownload

The addressAndLengthFormatIdentifier announces up to fifteen bytes for the address and for the size,
and the two loops shift as many into a 32-bit word. What is stored is the announced number modulo
`2 ^ 32`, and nothing refuses a number that does not fit.
-/

namespace Mcus.Uds
open ByteOrder Runs
set_option autoImplicit false

/-- A RequestDownload answered positively stores the numbers it announces, and one that is shorter
than it announces is refused without a change. -/
structure UnderstandsDownload (e : UDSStep) : Prop where
  stored : positiveTo Sid.requestDownload e = true →
    e.post.transferAddress.toNat = beValue (addressField e.input) ∧
      e.post.transferSize.toNat = beValue (sizeField e.input)
  short : e.input.Asks Sid.requestDownload →
    e.input.bytes.length < 3 + addrBytes e.input + sizeBytes e.input →
      e.output.Refuses ∧ e.post = e.pre

/-- A RequestDownload that passes its checks and whose answer fits announces two 32-bit numbers. -/
def FieldsFit (h : UDSHandler) (r : Request) : Prop :=
  DownloadChecked h r → 4 ≤ r.respCap → beValue (addressField r) < 2 ^ 32 ∧ beValue (sizeField r) < 2 ^ 32

variable {calculateKey : UInt32 → UInt32} {h : UDSHandler} {r : Request}

theorem foldl_shiftIn_eq_iff (bytes : List UInt8) :
    (bytes.foldl shiftIn 0).toNat = beValue bytes ↔ beValue bytes < 2 ^ 32 := by
  rw [foldl_shiftIn_toNat]
  omega

theorem positiveTo_download_iff :
    positiveTo Sid.requestDownload ((udsMachine calculateKey).stepAt h r) = true ↔
      DownloadChecked h r ∧ 4 ≤ r.respCap := by
  constructor
  · intro hpositive
    have hchecked := downloadChecked_of_positive hpositive
    refine ⟨hchecked, ?_⟩
    by_contra hshort
    rw [stepAt_of_process _ (process_download hchecked), positiveTo_negative (by simp [IsTransferSid])
      (carriedOut_short hshort)] at hpositive
    cases hpositive
  · rintro ⟨hchecked, hcap⟩
    rw [← acceptsDownload_eq_positiveTo hcap]
    exact decide_eq_true hchecked

/-- A RequestDownload shorter than its fields is refused, in whatever state. -/
theorem short_download_refused (hasks : r.Asks Sid.requestDownload)
    (hshort : r.bytes.length < 3 + addrBytes r + sizeBytes r) :
    ((udsMachine calculateKey).stepAt h r).output.Refuses ∧
      ((udsMachine calculateKey).stepAt h r).post = h := by
  obtain ⟨h', reply, heff, he⟩ := step_effect calculateKey h r
  rw [he]
  cases heff with
  | quiet _ _ hrefuse =>
    obtain ⟨nrc, hnegative⟩ := hrefuse Sid.requestDownload List.mem_cons_self hasks
    refine ⟨?_, rfl⟩
    have hrefuses := refuses_negative Sid.requestDownload nrc r.respCap reply.calls
    rw [← hnegative] at hrefuses
    exact hrefuses
  | session _ hother => exact absurd (hasks.unique hother) (by decide)
  | security _ hother => exact absurd (hasks.unique hother) (by decide)
  | seed hother => exact absurd (hasks.unique hother) (by decide)
  | keyAccepted hchecked => exact absurd (hasks.unique hchecked.asks) (by decide)
  | keyWrong _ hchecked => exact absurd (hasks.unique hchecked.asks) (by decide)
  | download hchecked => exact absurd hchecked.length.2 (Nat.not_le.mpr hshort)
  | block hchecked => exact absurd (hasks.unique hchecked.asks) (by decide)
  | blockFailed hchecked => exact absurd (hasks.unique hchecked.asks) (by decide)
  | exit hother => exact absurd (hasks.unique hother) (by decide)

/-- **The download format.** A RequestDownload is understood or refused exactly when no accepted one
announces an address or a size beyond 32 bits. -/
theorem understandsDownload_iff (calculateKey : UInt32 → UInt32) (h : UDSHandler) (r : Request) :
    UnderstandsDownload ((udsMachine calculateKey).stepAt h r) ↔ FieldsFit h r := by
  have hstored : DownloadChecked h r →
      (((udsMachine calculateKey).stepAt h r).post.transferAddress.toNat = beValue (addressField r) ∧
        ((udsMachine calculateKey).stepAt h r).post.transferSize.toNat = beValue (sizeField r) ↔
      beValue (addressField r) < 2 ^ 32 ∧ beValue (sizeField r) < 2 ^ 32) := by
    intro hchecked
    rw [stepAt_of_process _ (process_download hchecked)]
    exact and_congr (foldl_shiftIn_eq_iff _) (foldl_shiftIn_eq_iff _)
  constructor
  · intro hunderstands hchecked hcap
    exact (hstored hchecked).mp (hunderstands.stored (positiveTo_download_iff.mpr ⟨hchecked, hcap⟩))
  · intro hfit
    refine ⟨fun hpositive => ?_, short_download_refused⟩
    obtain ⟨hchecked, hcap⟩ := positiveTo_download_iff.mp hpositive
    exact (hstored hchecked).mpr (hfit hchecked hcap)

/-- An address of five bytes, `0x01_0000_0000`, is accepted as `0`. -/
theorem wide_address_reduced :
    ¬ ∀ (calculateKey : UInt32 → UInt32) (rs : List Request) (r : Request),
      UnderstandsDownload (nextStep calculateKey rs r) := by
  intro hunderstands
  have hwide := hunderstands udsPlatformCalculateKey unlockRequests
    (plainRequest [0x34, 0x00, 0x51, 0x01, 0x00, 0x00, 0x00, 0x00, 0x04])
  exact absurd (hwide.stored (by decide)).1 (by decide)

end Mcus.Uds
