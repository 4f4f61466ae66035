import Mcus.Vmg.RemotePolling

/-! # Retries of remote diagnostics requests

One request of a run in which all identifiers differ. While it is pending, its time stamp is the time of
its last transmission and has moved by more than the timeout with every retry; so the poll that finds the
retries used up comes late enough, and answers it.
-/

namespace Mcus.Vmg
open OrderedMap Runs Std RemoteDiagnosticsHandler DiagnosticRequest
set_option autoImplicit false

def nanoseconds (ms : UInt32) : ℕ := ms.toNat * 1000000

def sentFor (k : Text) : RemoteEvent → Bool
  | .sentToECU request _ _ => decide (request.requestId = k)
  | .sentResponse _ => false
  | .responseCallback _ => false

def failureFor (k : Text) : RemoteEvent → Bool
  | .sentToECU .. => false
  | .sentResponse response => decide (response.requestId = k ∧ response.success = false)
  | .responseCallback _ => false

/-- The times of the calls that sent the request to its ECU, once for every transmission. -/
def transmissionTimes (k : Text) (steps : List RemoteStep) : List ℕ :=
  steps.flatMap fun s => List.replicate (s.output.countP (sentFor k)) s.input.time

def failureResponses (k : Text) (s : RemoteStep) : ℕ := s.output.countP (failureFor k)

def LeavesMap (k : Text) (s : RemoteStep) : Prop := k ∈ s.pre.pendingRequests ∧ k ∉ s.post.pendingRequests

/-- What the timeout and the retries of a request promise of the steps of a run. -/
structure Disciplined (arrival : ℕ) (r : DiagnosticRequest) (steps : List RemoteStep) : Prop where
  transmitted : (transmissionTimes r.requestId steps).length ≤ 1 + r.maxRetries.toNat
  spaced : (transmissionTimes r.requestId steps).Pairwise fun t t' => t + nanoseconds r.timeoutMs < t'
  counted : ∀ s ∈ steps, ∀ q, s.post.pendingRequests[r.requestId]? = some q → q.retryCount ≤ q.maxRetries
  leaves : ∀ s ∈ steps, LeavesMap r.requestId s → failureResponses r.requestId s = 1 ∧
    arrival + (r.maxRetries.toNat + 1) * nanoseconds r.timeoutMs < s.input.time
  stays : ∀ s ∈ steps, ¬ LeavesMap r.requestId s → failureResponses r.requestId s = 0

/-- What the entry of a pending request tells of its past. -/
structure InFlight (arrival : ℕ) (r : DiagnosticRequest) (times : List ℕ) (q : DiagnosticRequest) : Prop where
  timeoutMs : q.timeoutMs = r.timeoutMs
  maxRetries : q.maxRetries = r.maxRetries
  counted : q.retryCount ≤ q.maxRetries
  transmitted : times.length ≤ 1 + q.retryCount.toNat
  sent : ∀ t ∈ times, t ≤ q.timestamp
  aged : arrival + q.retryCount.toNat * nanoseconds r.timeoutMs ≤ q.timestamp

/-! ## One more step -/

section Steps
variable {h : RemoteDiagnosticsHandler} {c : RemoteCall} {r q : DiagnosticRequest} {k : Text}
  {steps : List RemoteStep} {arrival now : ℕ} {times : List ℕ}

theorem transmissionTimes_concat (e : RemoteStep) : transmissionTimes k (steps ++ [e]) =
    transmissionTimes k steps ++ List.replicate (e.output.countP (sentFor k)) e.input.time := by
  unfold transmissionTimes
  rw [List.flatMap_append, List.flatMap_singleton]

theorem sentFor_about {x : RemoteEvent} (hx : sentFor k x = true) : x.about = k := by
  cases x with
  | sentToECU => exact of_decide_eq_true hx
  | sentResponse => cases hx
  | responseCallback => cases hx

theorem failureFor_about {x : RemoteEvent} (hx : failureFor k x = true) : x.about = k := by
  cases x with
  | sentToECU => cases hx
  | sentResponse => exact (of_decide_eq_true hx).1
  | responseCallback => cases hx

theorem countP_sentFor_sendToECU : (h.sendToECU q).2.countP (sentFor k) ≤ 1 := by
  unfold sendToECU
  split
  · exact Nat.zero_le 1
  · exact List.countP_le_length

theorem countP_failureFor_sendToECU : (h.sendToECU q).2.countP (failureFor k) = 0 := by
  refine List.countP_eq_zero.mpr fun x hx => ?_
  obtain ⟨routing, message, rfl⟩ := eq_of_mem_sendToECU hx
  exact Bool.false_ne_true

theorem countP_timeoutResponse :
    (h.sendResponse (timeoutResponse k q now)).2.countP (sentFor k) = 0 ∧
      (h.sendResponse (timeoutResponse k q now)).2.countP (failureFor k) = 1 := by
  have hfailure : failureFor k (.sentResponse (timeoutResponse k q now)) = true := decide_eq_true ⟨rfl, rfl⟩
  rw [sendResponse_events, List.countP_cons_of_neg Bool.false_ne_true, List.countP_cons_of_pos hfailure]
  cases h.responseCallback <;> exact ⟨rfl, rfl⟩

/-- A timeout in whole milliseconds is over in nanoseconds. -/
theorem lt_of_timedOut (htime : TimedOut now q) : q.timestamp + nanoseconds q.timeoutMs < now := by
  unfold TimedOut elapsedMs at htime
  unfold nanoseconds
  have hle := Nat.div_mul_le_self (now - q.timestamp) 1000000
  omega

theorem toNat_succ (hcount : q.retryCount < q.maxRetries) :
    (q.retryCount + 1).toNat = q.retryCount.toNat + 1 := by
  have hlt := UInt8.lt_iff_toNat_lt.mp hcount
  have hmax := q.maxRetries.toNat_lt
  rw [UInt8.toNat_add, UInt8.toNat_one, Nat.mod_eq_of_lt (by omega)]

theorem disciplined_concat (hpast : Disciplined arrival r steps) {e : RemoteStep}
    (htransmitted : (transmissionTimes r.requestId (steps ++ [e])).length ≤ 1 + r.maxRetries.toNat)
    (hspaced : ∀ t ∈ transmissionTimes r.requestId steps, 0 < e.output.countP (sentFor r.requestId) →
      t + nanoseconds r.timeoutMs < e.input.time)
    (honce : e.output.countP (sentFor r.requestId) ≤ 1)
    (hcounted : ∀ q, e.post.pendingRequests[r.requestId]? = some q → q.retryCount ≤ q.maxRetries)
    (hleaves : LeavesMap r.requestId e → failureResponses r.requestId e = 1 ∧
      arrival + (r.maxRetries.toNat + 1) * nanoseconds r.timeoutMs < e.input.time)
    (hstays : ¬ LeavesMap r.requestId e → failureResponses r.requestId e = 0) :
    Disciplined arrival r (steps ++ [e]) := by
  have hmem {s : RemoteStep} (hs : s ∈ steps ++ [e]) : s ∈ steps ∨ s = e :=
    (List.mem_append.mp hs).imp id List.mem_singleton.mp
  refine ⟨htransmitted, ?_, fun s hs => ?_, fun s hs => ?_, fun s hs => ?_⟩
  · rw [transmissionTimes_concat]
    refine List.pairwise_append.mpr ⟨hpast.spaced, ?_, fun t ht t' ht' => ?_⟩
    · exact List.pairwise_replicate.mpr (Or.inl honce)
    · obtain ⟨hpos, rfl⟩ := List.mem_replicate.mp ht'
      exact hspaced t ht (Nat.pos_of_ne_zero hpos)
  · rcases hmem hs with hs | rfl
    · exact hpast.counted s hs
    · exact hcounted
  · rcases hmem hs with hs | rfl
    · exact hpast.leaves s hs
    · exact hleaves
  · rcases hmem hs with hs | rfl
    · exact hpast.stays s hs
    · exact hstays

theorem transmissionTimes_silent {e : RemoteStep} (hsent : e.output.countP (sentFor k) = 0) :
    transmissionTimes k (steps ++ [e]) = transmissionTimes k steps := by
  rw [transmissionTimes_concat, hsent, List.replicate_zero, List.append_nil]

theorem disciplined_silent (hpast : Disciplined arrival r steps) {e : RemoteStep}
    (hsent : e.output.countP (sentFor r.requestId) = 0) (hfailure : failureResponses r.requestId e = 0)
    (hcounted : ∀ q, e.post.pendingRequests[r.requestId]? = some q → q.retryCount ≤ q.maxRetries)
    (hstays : ¬ LeavesMap r.requestId e) : Disciplined arrival r (steps ++ [e]) := by
  refine disciplined_concat hpast ?_ ?_ (hsent.trans_le (Nat.zero_le 1)) hcounted
    (fun hleaves => absurd hleaves hstays) fun _ => hfailure
  · rw [transmissionTimes_silent hsent]
    exact hpast.transmitted
  · intro t _ hpos
    exact absurd hsent hpos.ne'

/-- A run up to some state keeps the promises, and its pending entry tells of it. -/
def Tracked (arrival : ℕ) (r : DiagnosticRequest) (steps : List RemoteStep) (h : RemoteDiagnosticsHandler) :
    Prop :=
  Disciplined arrival r steps ∧ ∀ q, h.pendingRequests[r.requestId]? = some q →
    InFlight arrival r (transmissionTimes r.requestId steps) q

theorem countP_stepAt_sentFor : (remoteMachine.stepAt h c).output.countP (sentFor k) =
    (eventsAbout k (remoteMachine.step h c).2).countP (sentFor k) :=
  (countP_eventsAbout (fun _ hx => sentFor_about hx) _).symm

theorem failureResponses_stepAt : failureResponses k (remoteMachine.stepAt h c) =
    (eventsAbout k (remoteMachine.step h c).2).countP (failureFor k) :=
  (countP_eventsAbout (fun _ hx => failureFor_about hx) _).symm

theorem not_leavesMap_of_some (hpost : (remoteMachine.step h c).1.pendingRequests[k]? = some q) :
    ¬ LeavesMap k (remoteMachine.stepAt h c) := by
  rintro ⟨-, hleft⟩
  rw [Machine.stepAt_post, TreeMap.mem_iff_isSome_getElem?, hpost] at hleft
  exact hleft rfl

theorem not_leavesMap_of_none (hpre : h.pendingRequests[k]? = none) :
    ¬ LeavesMap k (remoteMachine.stepAt h c) := by
  rintro ⟨hpending, -⟩
  rw [Machine.stepAt_pre, TreeMap.mem_iff_isSome_getElem?, hpre] at hpending
  exact Bool.false_ne_true hpending

theorem silent_of_no_events (hevents : eventsAbout k (remoteMachine.step h c).2 = []) :
    (remoteMachine.stepAt h c).output.countP (sentFor k) = 0 ∧
      failureResponses k (remoteMachine.stepAt h c) = 0 := by
  rw [countP_stepAt_sentFor, failureResponses_stepAt, hevents]
  exact ⟨rfl, rfl⟩

/-- A call that leaves the entry as it is. -/
theorem tracked_kept (htracked : Tracked arrival r steps h)
    (hq : h.pendingRequests[r.requestId]? = some q)
    (hkept : (remoteMachine.step h c).1.pendingRequests[r.requestId]? = some q)
    (hevents : eventsAbout r.requestId (remoteMachine.step h c).2 = []) :
    Tracked arrival r (steps ++ [remoteMachine.stepAt h c]) (remoteMachine.step h c).1 := by
  have hflight := htracked.2 q hq
  obtain ⟨hsent, hfailure⟩ := silent_of_no_events hevents
  refine ⟨disciplined_silent htracked.1 hsent hfailure ?_ (not_leavesMap_of_some hkept), ?_⟩
  · intro q' hq'
    obtain rfl := Option.some.inj (hkept.symm.trans hq')
    exact hflight.counted
  · intro q' hq'
    obtain rfl := Option.some.inj (hkept.symm.trans hq')
    rw [transmissionTimes_silent hsent]
    exact hflight

/-- A call that finds no entry. -/
theorem tracked_absent (htracked : Tracked arrival r steps h)
    (hgone : h.pendingRequests[r.requestId]? = none)
    (hstill : (remoteMachine.step h c).1.pendingRequests[r.requestId]? = none)
    (hevents : eventsAbout r.requestId (remoteMachine.step h c).2 = []) :
    Tracked arrival r (steps ++ [remoteMachine.stepAt h c]) (remoteMachine.step h c).1 := by
  obtain ⟨hsent, hfailure⟩ := silent_of_no_events hevents
  refine ⟨disciplined_silent htracked.1 hsent hfailure ?_ (not_leavesMap_of_none hgone), ?_⟩
  · exact fun q hq => nomatch hstill.symm.trans hq
  · exact fun q hq => nomatch hstill.symm.trans hq

/-- The poll that sends the request again. -/
theorem tracked_retried (htracked : Tracked arrival r steps h)
    (hq : h.pendingRequests[r.requestId]? = some q) (hretries : Retries now q) (htime : c.time = now)
    (hretried : (remoteMachine.step h c).1.pendingRequests[r.requestId]? = some (retried now q))
    (hevents : eventsAbout r.requestId (remoteMachine.step h c).2 = (h.sendToECU (retried now q)).2) :
    Tracked arrival r (steps ++ [remoteMachine.stepAt h c]) (remoteMachine.step h c).1 := by
  have hflight := htracked.2 q hq
  have hlater : q.timestamp + nanoseconds r.timeoutMs < now := hflight.timeoutMs ▸ lt_of_timedOut hretries.1
  have hsucc := toNat_succ hretries.2
  have hbound := UInt8.lt_iff_toNat_lt.mp hretries.2
  rw [hflight.maxRetries] at hbound
  have honce : (remoteMachine.stepAt h c).output.countP (sentFor r.requestId) ≤ 1 := by
    rw [countP_stepAt_sentFor, hevents]
    exact countP_sentFor_sendToECU
  have hfailure : failureResponses r.requestId (remoteMachine.stepAt h c) = 0 := by
    rw [failureResponses_stepAt, hevents, countP_failureFor_sendToECU]
  have hcounted : (retried now q).retryCount ≤ (retried now q).maxRetries := by
    rw [UInt8.le_iff_toNat_le]
    show (q.retryCount + 1).toNat ≤ q.maxRetries.toNat
    rw [hsucc, hflight.maxRetries]
    exact hbound
  have htransmitted : (transmissionTimes r.requestId (steps ++ [remoteMachine.stepAt h c])).length ≤
      1 + (q.retryCount.toNat + 1) := by
    rw [transmissionTimes_concat, List.length_append, List.length_replicate]
    have hbefore := hflight.transmitted
    omega
  refine ⟨disciplined_concat htracked.1 (htransmitted.trans ?_) ?_ honce ?_ ?_ fun _ => hfailure, ?_⟩
  · omega
  · intro t ht _
    have hsent := hflight.sent t ht
    rw [Machine.stepAt_input, htime]
    omega
  · intro q' hq'
    obtain rfl := Option.some.inj (hretried.symm.trans hq')
    exact hcounted
  · exact fun hleaves => absurd hleaves (not_leavesMap_of_some hretried)
  · intro q' hq'
    obtain rfl := Option.some.inj (hretried.symm.trans hq')
    refine ⟨hflight.timeoutMs, hflight.maxRetries, hcounted, ?_, fun t ht => ?_, ?_⟩
    · show _ ≤ 1 + (q.retryCount + 1).toNat
      rw [hsucc]
      exact htransmitted
    · rw [transmissionTimes_concat, List.mem_append] at ht
      rcases ht with ht | ht
      · have hsent := hflight.sent t ht
        exact (hsent.trans (Nat.le_add_right _ _)).trans hlater.le
      · exact ((List.mem_replicate.mp ht).2.trans htime).le
    · have haged := hflight.aged
      show arrival + (q.retryCount + 1).toNat * _ ≤ now
      rw [hsucc, Nat.add_one_mul]
      omega

/-- The poll that gives the request up. -/
theorem tracked_expired (htracked : Tracked arrival r steps h)
    (hq : h.pendingRequests[r.requestId]? = some q) (hexpires : Expires now q) (htime : c.time = now)
    (hexpired : (remoteMachine.step h c).1.pendingRequests[r.requestId]? = none)
    (hevents : eventsAbout r.requestId (remoteMachine.step h c).2 =
      (h.sendResponse (timeoutResponse r.requestId q now)).2) :
    Tracked arrival r (steps ++ [remoteMachine.stepAt h c]) (remoteMachine.step h c).1 := by
  have hflight := htracked.2 q hq
  have hlater : q.timestamp + nanoseconds r.timeoutMs < now := hflight.timeoutMs ▸ lt_of_timedOut hexpires.1
  have hused : q.retryCount = r.maxRetries := by
    rw [← hflight.maxRetries]
    exact UInt8.le_antisymm hflight.counted (UInt8.not_lt.mp hexpires.2)
  have hsent : (remoteMachine.stepAt h c).output.countP (sentFor r.requestId) = 0 := by
    rw [countP_stepAt_sentFor, hevents, countP_timeoutResponse.1]
  have hfailure : failureResponses r.requestId (remoteMachine.stepAt h c) = 1 := by
    rw [failureResponses_stepAt, hevents, countP_timeoutResponse.2]
  have hleaves : LeavesMap r.requestId (remoteMachine.stepAt h c) := by
    rw [LeavesMap, TreeMap.mem_iff_isSome_getElem?, TreeMap.mem_iff_isSome_getElem?, Machine.stepAt_pre,
      Machine.stepAt_post, hq, hexpired]
    exact ⟨rfl, Bool.false_ne_true⟩
  refine ⟨disciplined_concat htracked.1 ?_ ?_ (hsent.trans_le (Nat.zero_le 1)) ?_ ?_ ?_, ?_⟩
  · rw [transmissionTimes_silent hsent]
    exact htracked.1.transmitted
  · exact fun t _ hpos => absurd hsent hpos.ne'
  · exact fun q' hq' => nomatch hexpired.symm.trans hq'
  · have haged := hflight.aged
    rw [hused] at haged
    refine fun _ => ⟨hfailure, ?_⟩
    rw [Machine.stepAt_input, htime, Nat.add_one_mul]
    omega
  · exact fun hstays => absurd hleaves hstays
  · exact fun q' hq' => nomatch hexpired.symm.trans hq'

/-- **One call that is not for the request.** -/
theorem tracked_step (hkeyed : Keyed h) (htracked : Tracked arrival r steps h)
    (harrives : c.arrives r.requestId = false) :
    Tracked arrival r (steps ++ [remoteMachine.stepAt h c]) (remoteMachine.step h c).1 := by
  cases hpending : h.pendingRequests[r.requestId]? with
  | none =>
    obtain ⟨hstill, hevents⟩ := step_absent hkeyed harrives hpending
    exact tracked_absent htracked hpending hstill hevents
  | some q =>
    rcases step_cases hkeyed harrives hpending with ⟨hkept, hevents⟩ |
      ⟨now, rfl, hretries, hretried, hevents⟩ | ⟨now, rfl, hexpires, hexpired, hevents⟩
    · exact tracked_kept htracked hpending hkept hevents
    · exact tracked_retried htracked hpending hretries rfl hretried hevents
    · exact tracked_expired htracked hpending hexpires rfl hexpired hevents

/-- The call that brings the request, when its ECU is registered. -/
theorem tracked_arrival (hpast : Disciplined c.time r steps)
    (hnever : transmissionTimes r.requestId steps = [])
    (hfree : h.pendingRequests[r.requestId]? = none) (hparsed : c.parsed = some r)
    (hregistered : r.ecuId ∈ h.ecuRouting) :
    Tracked c.time r (steps ++ [remoteMachine.stepAt h c]) (remoteMachine.step h c).1 := by
  obtain ⟨hstamp, hcount⟩ := RemoteCall.parsed_stamped hparsed
  rcases step_of_parsed h hparsed with ⟨routing, message, -, hstep⟩ | ⟨durationMs, responded, hrouting, -⟩
  · have hstored : (remoteMachine.step h c).1.pendingRequests[r.requestId]? = some r := by
      rw [hstep, TreeMap.getElem?_insert, if_pos ReflCmp.compare_self]
    have hfailure : failureResponses r.requestId (remoteMachine.stepAt h c) = 0 := by
      rw [failureResponses, Machine.stepAt_output, hstep]
      rfl
    have honce : (remoteMachine.stepAt h c).output.countP (sentFor r.requestId) = 1 := by
      have hfor : sentFor r.requestId (.sentToECU r routing message) = true := decide_eq_true rfl
      rw [Machine.stepAt_output, hstep, List.countP_singleton, if_pos hfor]
    have htimes : transmissionTimes r.requestId (steps ++ [remoteMachine.stepAt h c]) = [c.time] := by
      rw [transmissionTimes_concat, hnever, honce]
      rfl
    have hcounted : r.retryCount ≤ r.maxRetries := by
      rw [hcount, UInt8.le_iff_toNat_le]
      exact Nat.zero_le _
    refine ⟨disciplined_concat hpast ?_ ?_ honce.le ?_ ?_ fun _ => hfailure, ?_⟩
    · rw [htimes]
      exact Nat.le_add_right 1 _
    · rw [hnever]
      exact fun t ht => absurd ht List.not_mem_nil
    · intro q hq
      obtain rfl := Option.some.inj (hstored.symm.trans hq)
      exact hcounted
    · exact fun hleaves => absurd hleaves (not_leavesMap_of_none hfree)
    · intro q hq
      obtain rfl := Option.some.inj (hstored.symm.trans hq)
      rw [htimes]
      refine ⟨rfl, rfl, hcounted, Nat.le_add_right 1 _, fun t ht => ?_, ?_⟩
      · rw [List.mem_singleton.mp ht, hstamp]
      · rw [hcount, hstamp]
        exact (Nat.zero_mul _ ▸ Nat.add_zero _).le
  · rw [TreeMap.mem_iff_isSome_getElem?, hrouting] at hregistered
    exact absurd hregistered Bool.false_ne_true

end Steps

/-! ## The run -/

section Run
variable {callback : Bool} {past rest : List RemoteCall} {c : RemoteCall} {r : DiagnosticRequest} {k : Text}

/-- Before the request arrives, nothing is done for it. -/
theorem quiet_run (callback : Bool) (arrival : ℕ) (hpast : ∀ d ∈ past, d.arrives r.requestId = false) :
    Disciplined arrival r (remoteMachine.trace (freshHandler callback) past) ∧
      transmissionTimes r.requestId (remoteMachine.trace (freshHandler callback) past) = [] ∧
      (remoteMachine.run (freshHandler callback) past).pendingRequests[r.requestId]? = none := by
  induction past using List.reverseRecOn with
  | nil =>
    refine ⟨⟨Nat.zero_le _, List.Pairwise.nil, ?_, ?_, ?_⟩, rfl, freshHandler_pending callback _⟩ <;>
      exact fun s hs => absurd hs List.not_mem_nil
  | append_singleton past d ih =>
    obtain ⟨hquiet, hnever, hfree⟩ := ih fun d' hd' => hpast d' (List.mem_append_left _ hd')
    obtain ⟨hstill, hevents⟩ := step_absent (keyed_run callback past) (hpast d (by simp)) hfree
    have hnone : Tracked arrival r (remoteMachine.trace (freshHandler callback) past)
        (remoteMachine.run (freshHandler callback) past) :=
      ⟨hquiet, fun q hq => nomatch hfree.symm.trans hq⟩
    rw [Machine.trace_concat, Machine.run_concat, transmissionTimes_silent (silent_of_no_events hevents).1]
    exact ⟨(tracked_absent hnone hfree hstill hevents).1, hnever, hstill⟩

theorem tracked_run (hpast : ∀ d ∈ past, d.arrives r.requestId = false) (hparsed : c.parsed = some r)
    (hregistered : r.ecuId ∈ (remoteMachine.run (freshHandler callback) past).ecuRouting)
    (hrest : ∀ d ∈ rest, d.arrives r.requestId = false) :
    Tracked c.time r (remoteMachine.trace (freshHandler callback) (past ++ c :: rest))
      (remoteMachine.run (freshHandler callback) (past ++ c :: rest)) := by
  induction rest using List.reverseRecOn with
  | nil =>
    obtain ⟨hquiet, hnever, hfree⟩ := quiet_run callback c.time hpast
    rw [Machine.trace_concat, Machine.run_concat]
    exact tracked_arrival hquiet hnever hfree hparsed hregistered
  | append_singleton rest d ih =>
    have hbefore := ih fun d' hd' => hrest d' (List.mem_append_left _ hd')
    rw [← List.cons_append, ← List.append_assoc, Machine.trace_concat, Machine.run_concat]
    exact tracked_step (keyed_run callback _) hbefore (hrest d (by simp))

/-- In a run in which all identifiers differ, an identifier arrives once. -/
theorem arrives_once (hdistinct : (((past ++ c :: rest).filterMap RemoteCall.parsed).map (·.requestId)).Nodup)
    (hparsed : c.parsed = some r) :
    (∀ d ∈ past, d.arrives r.requestId = false) ∧ ∀ d ∈ rest, d.arrives r.requestId = false := by
  have hmem {calls : List RemoteCall} {d : RemoteCall} (hd : d ∈ calls)
      (harrives : d.arrives r.requestId = true) :
      r.requestId ∈ (calls.filterMap RemoteCall.parsed).map (·.requestId) := by
    obtain ⟨r', hparsed', hid⟩ := RemoteCall.parsed_of_arrives harrives
    exact List.mem_map.mpr ⟨r', List.mem_filterMap.mpr ⟨d, hd, hparsed'⟩, hid⟩
  rw [List.filterMap_append, List.filterMap_cons_some hparsed, List.map_append, List.map_cons,
    List.nodup_middle, List.nodup_cons, List.mem_append, not_or] at hdistinct
  obtain ⟨⟨hpast, hrest⟩, -⟩ := hdistinct
  exact ⟨fun d hd => Bool.eq_false_iff.mpr fun harrives => hpast (hmem hd harrives),
    fun d hd => Bool.eq_false_iff.mpr fun harrives => hrest (hmem hd harrives)⟩

end Run

/-- **Retries keep to their number and to their distance, and a request is given up only behind them.** -/
theorem retries_disciplined (callback : Bool) (calls : List RemoteCall)
    (hdistinct : ((calls.filterMap RemoteCall.parsed).map (·.requestId)).Nodup) :
    ∀ past c rest r, calls = past ++ c :: rest → c.parsed = some r →
      r.ecuId ∈ (remoteMachine.run (freshHandler callback) past).ecuRouting →
      Disciplined c.time r (remoteMachine.trace (freshHandler callback) calls) := by
  rintro past c rest r rfl hparsed hregistered
  obtain ⟨hpast, hrest⟩ := arrives_once hdistinct hparsed
  exact (tracked_run hpast hparsed hregistered hrest).1

/-- A silent ECU: three retries, and the fifth poll that comes late enough gives the request up. -/
theorem retries_silentEcu : Disciplined 7
    ⟨bytesOf "diag-12345", bytesOf "ECU_001", 0x22, [0xF1, 0x90], 7, 5000, 0, 3⟩
    (remoteMachine.trace (freshHandler true)
      [.registerECU (bytesOf "ECU_001") (bytesOf "ZG_1") 0x0201 (bytesOf "10.0.0.2") 13400,
        .handleRequest expectedFormat ⟨0, 0⟩ 7 7,
        .processPendingRequests 5000000007, .processPendingRequests 5001000007,
        .processPendingRequests 10002000007, .processPendingRequests 20000000000,
        .processPendingRequests 30000000000]) :=
  retries_disciplined true _ (by decide +kernel)
    [.registerECU (bytesOf "ECU_001") (bytesOf "ZG_1") 0x0201 (bytesOf "10.0.0.2") 13400]
    (.handleRequest expectedFormat ⟨0, 0⟩ 7 7) _ _ rfl (by decide +kernel) (by decide +kernel)

end Mcus.Vmg
