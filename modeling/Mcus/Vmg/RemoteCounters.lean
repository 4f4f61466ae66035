import Mcus.Vmg.RemotePolling

/-! # The statistics of the remote diagnostics handler

Every request that was counted should be successful, failed, timed out or pending. `sendResponse` counts
a failure on its own, so a request without a route counts twice as failed and one that expires counts as
failed and as timed out, and a request under a pending identifier takes the place of another one.
-/

namespace Mcus.Vmg
open OrderedMap Runs Std RemoteDiagnosticsHandler
set_option autoImplicit false

def RemoteStatistics.Balanced (s : RemoteStatistics) : Prop :=
  s.totalRequests = s.successfulRequests + s.failedRequests + s.timeoutRequests + s.pendingRequests

instance (s : RemoteStatistics) : Decidable s.Balanced := inferInstanceAs (Decidable (_ = _))

/-- A request arrives under a free identifier if its ECU is registered, and under a pending one if not;
and no request expires, unless as many as the counters have values. -/
def Neutral (h : RemoteDiagnosticsHandler) : RemoteCall → Prop
  | .registerECU .. => True
  | .handleRequest jsonPayload locals received _ =>
    ∀ r, receivedRequest jsonPayload locals received = some r →
      (r.ecuId ∈ h.ecuRouting ↔ r.requestId ∉ h.pendingRequests)
  | .processPendingRequests now => 2 ^ 64 ∣ (expiring now h.pendingRequests.toList).length

theorem ofNat_eq_zero_iff (n : ℕ) : UInt64.ofNat n = 0 ↔ 2 ^ 64 ∣ n := by
  rw [← UInt64.toNat_inj, UInt64.toNat_ofNat', Nat.dvd_iff_mod_eq_zero]
  rfl

section Steps
variable {h : RemoteDiagnosticsHandler} {r : DiagnosticRequest}

theorem mem_ecuRouting {routing : ECURouting} (hrouting : h.ecuRouting[r.ecuId]? = some routing) :
    r.ecuId ∈ h.ecuRouting := by
  rw [TreeMap.mem_iff_isSome_getElem?, hrouting]
  rfl

theorem not_mem_ecuRouting (hrouting : h.ecuRouting[r.ecuId]? = none) : r.ecuId ∉ h.ecuRouting := by
  rw [TreeMap.mem_iff_isSome_getElem?, hrouting]
  exact Bool.false_ne_true

/-- A request for a registered ECU is one more pending request if its identifier was free. -/
theorem balanced_registered (hbalanced : h.getStatistics.Balanced) :
    RemoteStatistics.Balanced (getStatistics { h with
      totalRequests := h.totalRequests + 1
      pendingRequests := h.pendingRequests.insert r.requestId r }) ↔ r.requestId ∉ h.pendingRequests := by
  unfold RemoteStatistics.Balanced getStatistics at hbalanced ⊢
  dsimp only at hbalanced ⊢
  rw [TreeMap.size_insert]
  by_cases hid : r.requestId ∈ h.pendingRequests
  · rw [if_pos (TreeMap.contains_iff_mem.mpr hid)]
    refine iff_of_false ?_ (not_not.mpr hid)
    grind
  · rw [if_neg (mt TreeMap.contains_iff_mem.mp hid), UInt64.ofNat_add]
    refine iff_of_true ?_ hid
    grind

/-- The erased entry makes up for the second failure if the identifier was pending. -/
theorem balanced_unregistered (hbalanced : h.getStatistics.Balanced) :
    RemoteStatistics.Balanced (getStatistics { h with
      totalRequests := h.totalRequests + 1
      pendingRequests := (h.pendingRequests.insert r.requestId r).erase r.requestId
      failedRequests := h.failedRequests + 1 + 1 }) ↔ r.requestId ∈ h.pendingRequests := by
  have herase : ((h.pendingRequests.insert r.requestId r).erase r.requestId).size + 1 =
      (h.pendingRequests.insert r.requestId r).size :=
    size_erase_of_mem (TreeMap.mem_insert.mpr (Or.inl ReflCmp.compare_self))
  unfold RemoteStatistics.Balanced getStatistics at hbalanced ⊢
  dsimp only at hbalanced ⊢
  rw [TreeMap.size_insert] at herase
  by_cases hid : r.requestId ∈ h.pendingRequests
  · rw [if_pos (TreeMap.contains_iff_mem.mpr hid)] at herase
    rw [← herase, UInt64.ofNat_add] at hbalanced
    refine iff_of_true ?_ hid
    grind
  · rw [if_neg (mt TreeMap.contains_iff_mem.mp hid), Nat.add_right_cancel_iff] at herase
    rw [herase]
    refine iff_of_false ?_ hid
    grind

/-- A request that expires leaves the map and is counted twice. -/
theorem balanced_polled (hbalanced : h.getStatistics.Balanced) (now : ℕ) :
    (h.processPendingRequests now).1.getStatistics.Balanced ↔
      2 ^ 64 ∣ (expiring now h.pendingRequests.toList).length := by
  have hsize := processPendingRequests_size h now
  have hsetup := processPendingRequests_sameSetup h now
  have hcounters : (h.processPendingRequests now).1.failedRequests =
        h.failedRequests + UInt64.ofNat (expiring now h.pendingRequests.toList).length ∧
      (h.processPendingRequests now).1.timeoutRequests =
        h.timeoutRequests + UInt64.ofNat (expiring now h.pendingRequests.toList).length := by
    rw [processPendingRequests_eq]
    exact processEntries_counters
  unfold RemoteStatistics.Balanced getStatistics at hbalanced ⊢
  dsimp only at hbalanced ⊢
  rw [← ofNat_eq_zero_iff, hsetup.totalRequests, hsetup.successfulRequests, hcounters.1, hcounters.2]
  rw [← hsize, UInt64.ofNat_add] at hbalanced
  grind

theorem balanced_step (hbalanced : h.getStatistics.Balanced) (c : RemoteCall) :
    (remoteMachine.step h c).1.getStatistics.Balanced ↔ Neutral h c := by
  cases c with
  | registerECU => exact iff_of_true hbalanced trivial
  | processPendingRequests now => exact balanced_polled hbalanced now
  | handleRequest jsonPayload locals received responded =>
    have hneutral : Neutral h (.handleRequest jsonPayload locals received responded) ↔
        ∀ r, (RemoteCall.handleRequest jsonPayload locals received responded).parsed = some r →
          (r.ecuId ∈ h.ecuRouting ↔ r.requestId ∉ h.pendingRequests) := Iff.rfl
    rw [hneutral]
    cases hparsed : (RemoteCall.handleRequest jsonPayload locals received responded).parsed with
    | none =>
      rw [step_of_not_parsed hparsed]
      exact iff_of_true hbalanced nofun
    | some r =>
      have hone : (∀ q, some r = some q → (q.ecuId ∈ h.ecuRouting ↔ q.requestId ∉ h.pendingRequests)) ↔
          (r.ecuId ∈ h.ecuRouting ↔ r.requestId ∉ h.pendingRequests) := by
        simp only [Option.some.injEq, forall_eq']
      rw [hone]
      rcases step_of_parsed h hparsed with ⟨routing, message, hrouting, hstep⟩ | ⟨_, _, hrouting, hstep⟩
      · rw [hstep, balanced_registered hbalanced, iff_true_left (mem_ecuRouting hrouting)]
      · rw [hstep, balanced_unregistered hbalanced, iff_false_left (not_mem_ecuRouting hrouting), not_not]

end Steps

/-- **The counters balance behind every call exactly if every call is neutral.** -/
theorem statistics_balanced_iff (callback : Bool) (calls : List RemoteCall) :
    (∀ past, past <+: calls →
      (remoteMachine.run (freshHandler callback) past).getStatistics.Balanced) ↔
    remoteMachine.Admits (fun _ h c => Neutral h c) (freshHandler callback) calls := by
  refine Machine.admits_iff_forall_prefix ?_ fun past c rest _ _ hbalanced => ?_
  · cases callback <;> decide
  · rw [Machine.run_concat]
    exact balanced_step hbalanced c

/-- One request and no ECU: a total of one, and two failures. -/
theorem statistics_unbalanced : ¬ ∀ past, past <+: [RemoteCall.handleRequest expectedFormat ⟨0, 0⟩ 7 7] →
    (remoteMachine.run (freshHandler true) past).getStatistics.Balanced := by
  intro hall
  have hone : ¬ (remoteMachine.run (freshHandler true)
      [RemoteCall.handleRequest expectedFormat ⟨0, 0⟩ 7 7]).getStatistics.Balanced := by decide +kernel
  exact hone (hall _ (List.prefix_refl _))

end Mcus.Vmg
