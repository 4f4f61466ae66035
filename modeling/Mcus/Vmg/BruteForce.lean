import Mcus.Vmg.ServiceRuns

/-! # The attempt limit of the UDS service

`security_attempts_` counts wrong keys in eight bits and is tested where a seed is requested, but not
where a key is sent: the key that fits is accepted after any number of wrong ones, and 256 of them
bring the count back to zero. The key branch itself answers the third one with
`ExceedNumberOfAttempts`, and the controllers' handler tests its counter in front of both branches.
-/

namespace Mcus.Vmg
open ByteOrder Runs UDSServiceHandler
set_option autoImplicit false

/-- How many wrong keys were sent since the last accepted one. -/
def wrongKeys (past : List ServiceStep) : ℕ := (sinceLast keyAccepted past).countP keyRefused

/-- Behind three wrong keys no key is accepted and no seed issued. -/
def LimitHeld (past : List ServiceStep) (e : ServiceStep) : Prop :=
  3 ≤ wrongKeys past → keyAccepted e = false ∧ seedIssued e = false

/-- Behind three wrong keys the key that fits is not sent, and no seed is requested from a locked
handler while the number of wrong keys is less than three modulo 256. -/
def LimitUntested (past : List ServiceStep) (h : UDSServiceHandler) (i : ServiceInput) : Prop :=
  3 ≤ wrongKeys past → ¬ (SendsKey i.request ∧ h.Fits i.request) ∧
    ¬ (RequestsSeed i.request ∧ h.securityUnlocked = false ∧ wrongKeys past % 256 < 3)

/-- The counter is the number of wrong keys in eight bits. -/
def CountsWrongKeys (past : List ServiceStep) (h : UDSServiceHandler) : Prop :=
  h.securityAttempts.toNat = wrongKeys past % 256

section Step
variable {past : List ServiceStep} {h : UDSServiceHandler} {i : ServiceInput}

theorem wrongKeys_concat (e : ServiceStep) : wrongKeys (past ++ [e]) =
    if keyAccepted e then 0 else if keyRefused e then wrongKeys past + 1 else wrongKeys past := by
  unfold wrongKeys
  cases haccepted : keyAccepted e with
  | true =>
    rw [sinceLast_concat_pos haccepted]
    rfl
  | false =>
    rw [sinceLast_concat_neg haccepted, List.countP_append, List.countP_singleton]
    cases keyRefused e <;> rfl

theorem countsWrongKeys_init (data : EcuData) : CountsWrongKeys [] (.construct data) := rfl

theorem countsWrongKeys_step (hcounts : CountsWrongKeys past h) :
    CountsWrongKeys (past ++ [serviceMachine.stepAt h i]) (serviceMachine.stepAt h i).post := by
  unfold CountsWrongKeys at hcounts ⊢
  have hone : (1 : UInt8).toNat = 1 := rfl
  rw [wrongKeys_concat, attempts_step]
  by_cases haccepts : SendsKey i.request ∧ h.Fits i.request
  · rw [if_pos haccepts, if_pos (keyAccepted_iff.mpr haccepts)]
    rfl
  rw [if_neg haccepts, if_neg (mt keyAccepted_iff.mp haccepts)]
  by_cases hsends : SendsKey i.request ∧ 6 ≤ i.request.length
  · have hrefused : ¬ h.Fits i.request := fun hfits => haccepts ⟨hsends.1, hfits⟩
    rw [if_pos hsends, if_pos (keyRefused_iff.mpr ⟨hsends.1, hsends.2, hrefused⟩), UInt8.toNat_add, hone,
      hcounts]
    omega
  · have hnot : ¬ keyRefused (serviceMachine.stepAt h i) = true := fun hrefused => by
      obtain ⟨hkey, hlen, -⟩ := keyRefused_iff.mp hrefused
      exact hsends ⟨hkey, hlen⟩
    rw [if_neg hsends, if_neg hnot, hcounts]

theorem limitHeld_iff (hcounts : CountsWrongKeys past h) :
    LimitHeld past (serviceMachine.stepAt h i) ↔ LimitUntested past h i := by
  have hthree : (3 : UInt8).toNat = 3 := rfl
  have hseed : IssuesSeed h i.request ↔
      RequestsSeed i.request ∧ h.securityUnlocked = false ∧ wrongKeys past % 256 < 3 := by
    unfold IssuesSeed
    rw [UInt8.lt_iff_toNat_lt, hthree, hcounts]
  unfold LimitHeld LimitUntested
  simp only [← Bool.not_eq_true, keyAccepted_iff, seedIssued_iff, hseed]

end Step

/-- **Attempt limit.** A run respects the limit exactly when it never puts it to the test: behind three
wrong keys nobody sends the key that fits, or requests a seed when the counter has wrapped. -/
theorem attempt_limit_iff (data : EcuData) (inputs : List ServiceInput) :
    serviceMachine.Admits (fun past h i => LimitHeld past (serviceMachine.stepAt h i)) (.construct data)
        inputs ↔
      serviceMachine.Admits LimitUntested (.construct data) inputs :=
  Machine.admits_iff_of_invariant (P := CountsWrongKeys) (countsWrongKeys_init data) (fun _ _ _ => limitHeld_iff)
    (fun _ _ _ hcounts _ => countsWrongKeys_step hcounts) inputs

/-- A seed, three wrong keys, and the key that fits. -/
theorem fourth_key_accepted :
    ¬ serviceMachine.Admits (fun past h i => LimitHeld past (serviceMachine.stepAt h i))
      (.construct ⟨[], [], [], [], fun _ => none⟩)
      [⟨⟨0x10000000, by decide⟩, [0x27, 0x01]⟩, ⟨⟨0x10000000, by decide⟩, [0x27, 0x02, 0, 0, 0, 0]⟩,
        ⟨⟨0x10000000, by decide⟩, [0x27, 0x02, 0, 0, 0, 0]⟩,
        ⟨⟨0x10000000, by decide⟩, [0x27, 0x02, 0, 0, 0, 0]⟩,
        ⟨⟨0x10000000, by decide⟩, [0x27, 0x02, 0xBB, 0xCD, 0x12, 0x34]⟩] := by
  intro hall
  have hlast := hall [_, _, _, _] _ [] rfl
  exact absurd (hlast (by decide)).1 (by decide)

end Mcus.Vmg
