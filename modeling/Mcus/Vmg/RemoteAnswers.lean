import Mcus.Vmg.RemotePolling

/-! # Answers to remote diagnostics requests

A request owns the calls from its own on to the next one under the same identifier. Within them it is
pending until it is answered, and it is answered once. What it does not survive is that next call: the
entry is overwritten, and a request that was still pending is never answered.
-/

namespace Mcus.Vmg
open OrderedMap Runs Std RemoteDiagnosticsHandler DiagnosticRequest
set_option autoImplicit false

/-- The response callback is called with the identifiers of the request. -/
def callbackFor (r : DiagnosticRequest) : RemoteEvent → Bool
  | .responseCallback response => decide (response.requestId = r.requestId ∧ response.ecuId = r.ecuId)
  | .sentToECU .. => false
  | .sentResponse _ => false

/-- How often the callback was called for the request. -/
def timesAnswered (r : DiagnosticRequest) (steps : List RemoteStep) : ℕ :=
  (steps.flatMap (·.output)).countP (callbackFor r)

/-- The calls until the identifier arrives again. -/
def ownCalls (k : Text) (rest : List RemoteCall) : List RemoteCall := rest.takeWhile fun c => !c.arrives k

/-- The entry that the request made is in the map at the end: no later request took its place. -/
def StillPending (start : RemoteDiagnosticsHandler) (past : List RemoteCall) (c : RemoteCall)
    (rest : List RemoteCall) (r : DiagnosticRequest) : Prop :=
  ownCalls r.requestId rest = rest ∧
    r.requestId ∈ (remoteMachine.run start (past ++ c :: rest)).pendingRequests

/-- The request that the call `c` brought has its entry still pending, or it was answered once. -/
def Accounted (start : RemoteDiagnosticsHandler) (past : List RemoteCall) (c : RemoteCall)
    (rest : List RemoteCall) (r : DiagnosticRequest) : Prop :=
  let answers := timesAnswered r
    (remoteMachine.trace (remoteMachine.run start past) (c :: ownCalls r.requestId rest))
  (StillPending start past c rest r ∧ answers = 0) ∨ (¬ StillPending start past c rest r ∧ answers = 1)

/-- No request arrives under an identifier that is pending. -/
def FreshId (h : RemoteDiagnosticsHandler) (c : RemoteCall) : Prop :=
  ∀ r, c.parsed = some r → r.requestId ∉ h.pendingRequests

/-! ## Before the identifier arrives again -/

/-- A request is pending and unanswered, or answered and gone. -/
def Open (r : DiagnosticRequest) (steps : List RemoteStep) (h : RemoteDiagnosticsHandler) : Prop :=
  (∃ q, h.pendingRequests[r.requestId]? = some q ∧ q.ecuId = r.ecuId ∧ timesAnswered r steps = 0) ∨
    (h.pendingRequests[r.requestId]? = none ∧ timesAnswered r steps = 1)

section Steps
variable {h : RemoteDiagnosticsHandler} {c : RemoteCall} {r q : DiagnosticRequest} {k : Text}
  {steps : List RemoteStep}

theorem timesAnswered_concat (r : DiagnosticRequest) (steps : List RemoteStep) (e : RemoteStep) :
    timesAnswered r (steps ++ [e]) = timesAnswered r steps + e.output.countP (callbackFor r) := by
  unfold timesAnswered
  rw [List.flatMap_append, List.countP_append, List.flatMap_singleton]

theorem callbackFor_about {x : RemoteEvent} (hx : callbackFor r x = true) : x.about = r.requestId := by
  cases x with
  | sentToECU => cases hx
  | sentResponse => cases hx
  | responseCallback response => exact (of_decide_eq_true hx).1

theorem countP_sendToECU : (h.sendToECU q).2.countP (callbackFor r) = 0 := by
  refine List.countP_eq_zero.mpr fun x hx => ?_
  obtain ⟨routing, message, rfl⟩ := eq_of_mem_sendToECU hx
  exact Bool.false_ne_true

theorem countP_sendResponse {response : DiagnosticResponse} (hcallback : h.responseCallback = true)
    (hid : response.requestId = r.requestId) (hecu : response.ecuId = r.ecuId) :
    (h.sendResponse response).2.countP (callbackFor r) = 1 := by
  have hfor : callbackFor r (.responseCallback response) = true := decide_eq_true ⟨hid, hecu⟩
  rw [sendResponse_events, if_pos hcallback, List.countP_cons_of_neg Bool.false_ne_true,
    List.countP_cons_of_pos hfor, List.countP_nil]

theorem open_of_parsed (hcallback : h.responseCallback = true) (hparsed : c.parsed = some r) :
    Open r [remoteMachine.stepAt h c] (remoteMachine.step h c).1 := by
  have hone := timesAnswered_concat r [] (remoteMachine.stepAt h c)
  rw [List.nil_append, show timesAnswered r [] = 0 from rfl, Nat.zero_add] at hone
  rcases step_of_parsed h hparsed with ⟨routing, message, -, hstep⟩ | ⟨durationMs, responded, -, hstep⟩
  · refine Or.inl ⟨r, ?_, rfl, ?_⟩
    · rw [hstep, TreeMap.getElem?_insert, if_pos ReflCmp.compare_self]
    · rw [hone, Machine.stepAt_output, hstep]
      rfl
  · refine Or.inr ⟨?_, ?_⟩
    · rw [hstep, TreeMap.getElem?_erase, if_pos ReflCmp.compare_self]
    · rw [hone, Machine.stepAt_output, hstep]
      exact countP_sendResponse hcallback rfl rfl

theorem open_step (hkeyed : Keyed h) (hcallback : h.responseCallback = true)
    (hopen : Open r steps h) (harrives : c.arrives r.requestId = false) :
    Open r (steps ++ [remoteMachine.stepAt h c]) (remoteMachine.step h c).1 := by
  have hcount : (remoteMachine.stepAt h c).output.countP (callbackFor r) =
      (eventsAbout r.requestId (remoteMachine.step h c).2).countP (callbackFor r) :=
    (countP_eventsAbout (fun _ hx => callbackFor_about hx) _).symm
  unfold Open
  rw [timesAnswered_concat, hcount]
  rcases hopen with ⟨q, hq, hecu, hzero⟩ | ⟨hgone, hone⟩
  · rcases step_cases hkeyed harrives hq with ⟨hkept, hevents⟩ | ⟨now, -, -, hretried, hevents⟩ |
      ⟨now, -, -, hexpired, hevents⟩
    · rw [hevents, hzero]
      exact Or.inl ⟨q, hkept, hecu, rfl⟩
    · rw [hevents, hzero, countP_sendToECU]
      exact Or.inl ⟨_, hretried, hecu, rfl⟩
    · rw [hevents, hzero, countP_sendResponse hcallback rfl hecu]
      exact Or.inr ⟨hexpired, rfl⟩
  · obtain ⟨hstill, hevents⟩ := step_absent hkeyed harrives hgone
    rw [hevents, hone]
    exact Or.inr ⟨hstill, rfl⟩

end Steps

section Run
variable {start : RemoteDiagnosticsHandler} {past own rest : List RemoteCall} {c : RemoteCall}
  {r : DiagnosticRequest} {k : Text}

theorem run_responseCallback (h : RemoteDiagnosticsHandler) (calls : List RemoteCall) :
    (remoteMachine.run h calls).responseCallback = h.responseCallback := by
  induction calls generalizing h with
  | nil => rfl
  | cons c calls ih => exact (ih _).trans step_responseCallback

/-- Until its identifier arrives again, a request is pending and unanswered, or answered and gone. -/
theorem open_run (past : List RemoteCall) (hparsed : c.parsed = some r)
    (hown : ∀ c' ∈ own, c'.arrives r.requestId = false) :
    Open r (remoteMachine.trace (remoteMachine.run (freshHandler true) past) (c :: own))
      (remoteMachine.run (freshHandler true) (past ++ c :: own)) := by
  induction own using List.reverseRecOn with
  | nil =>
    rw [Machine.run_append]
    exact open_of_parsed (run_responseCallback _ past) hparsed
  | append_singleton own c' ih =>
    have hbefore := ih fun d hd => hown d (List.mem_append_left _ hd)
    rw [← List.cons_append, Machine.trace_concat, ← List.append_assoc, Machine.run_concat,
      ← Machine.run_append]
    exact open_step (keyed_run true _) (run_responseCallback _ _) hbefore (hown c' (by simp))

theorem arrives_of_mem_ownCalls (rest : List RemoteCall) : ∀ c' ∈ ownCalls k rest, c'.arrives k = false := by
  intro c' hc'
  have hc := List.mem_takeWhile_imp hc'
  rwa [Bool.not_eq_true'] at hc

/-- Where the own calls end, the identifier arrives again. -/
theorem ownCalls_split (hends : ownCalls k rest ≠ rest) :
    ∃ c' later, rest = ownCalls k rest ++ c' :: later ∧ c'.arrives k = true := by
  have hsplit := List.takeWhile_append_dropWhile (p := fun c' : RemoteCall => !c'.arrives k) (l := rest)
  cases hlater : rest.dropWhile fun c' => !c'.arrives k with
  | nil =>
    rw [hlater, List.append_nil] at hsplit
    exact absurd hsplit hends
  | cons c' later =>
    rw [hlater] at hsplit
    refine ⟨c', later, hsplit.symm, ?_⟩
    have hhead := List.head_dropWhile_not (fun c' : RemoteCall => !c'.arrives k) (l := rest)
      (by simp [hlater])
    simpa [hlater] using hhead

theorem ownCalls_append {c' : RemoteCall} (later : List RemoteCall)
    (hown : ∀ d ∈ own, d.arrives k = false) (harrives : c'.arrives k = true) :
    ownCalls k (own ++ c' :: later) = own := by
  unfold ownCalls
  have hall : ∀ d ∈ own, (!d.arrives k) = true := fun d hd => by rw [hown d hd]; rfl
  rw [List.takeWhile_append_of_pos hall, List.takeWhile_cons_of_neg (by simp [harrives]), List.append_nil]

/-- Who is pending arrived, and was not overwritten since. -/
theorem exists_arrival (hk : k ∈ (remoteMachine.run (freshHandler true) past).pendingRequests) :
    ∃ before c own, past = before ++ c :: own ∧ c.arrives k = true ∧ ∀ d ∈ own, d.arrives k = false := by
  induction past using List.reverseRecOn with
  | nil =>
    rw [TreeMap.mem_iff_isSome_getElem?, Machine.run_nil, freshHandler_pending] at hk
    exact absurd hk Bool.false_ne_true
  | append_singleton past c' ih =>
    cases harrives : c'.arrives k with
    | true => exact ⟨past, c', [], rfl, harrives, fun d hd => absurd hd List.not_mem_nil⟩
    | false =>
      rw [Machine.run_concat, TreeMap.mem_iff_isSome_getElem?, step_pending harrives] at hk
      have hbefore := TreeMap.mem_iff_isSome_getElem?.mpr (Option.isSome_of_isSome_bind hk)
      obtain ⟨before, c, own, rfl, hc, hown⟩ := ih hbefore
      refine ⟨before, c, own ++ [c'], by rw [List.append_assoc, List.cons_append], hc, fun d hd => ?_⟩
      rcases List.mem_append.mp hd with hd | hd
      · exact hown d hd
      · rw [List.mem_singleton.mp hd]
        exact harrives

/-- What is pending was not answered, and what is not was answered once. -/
theorem Open.cases {steps : List RemoteStep} {h : RemoteDiagnosticsHandler} (hopen : Open r steps h) :
    (r.requestId ∈ h.pendingRequests ∧ timesAnswered r steps = 0) ∨
      (r.requestId ∉ h.pendingRequests ∧ timesAnswered r steps = 1) := by
  rw [TreeMap.mem_iff_isSome_getElem?]
  rcases hopen with ⟨q, hq, -, hzero⟩ | ⟨hgone, hone⟩
  · rw [hq]
    exact Or.inl ⟨rfl, hzero⟩
  · rw [hgone]
    exact Or.inr ⟨Bool.false_ne_true, hone⟩

/-- A request is accounted for if it was answered when its identifier arrived again. -/
theorem accounted_iff (hparsed : c.parsed = some r) : Accounted (freshHandler true) past c rest r ↔
    ∀ c' later, rest = ownCalls r.requestId rest ++ c' :: later → c'.arrives r.requestId = true →
      r.requestId ∉ (remoteMachine.run (freshHandler true)
        (past ++ c :: ownCalls r.requestId rest)).pendingRequests := by
  have hopen := (open_run past hparsed (arrives_of_mem_ownCalls rest)).cases
  unfold Accounted
  by_cases hends : ownCalls r.requestId rest = rest
  · have hpending : StillPending (freshHandler true) past c rest r ↔ r.requestId ∈
        (remoteMachine.run (freshHandler true) (past ++ c :: ownCalls r.requestId rest)).pendingRequests := by
      rw [StillPending, and_iff_right hends, hends]
    refine iff_of_true ?_ fun c' later hrest _ => ?_
    · dsimp only
      rw [hpending]
      exact hopen
    · rw [hends] at hrest
      exact absurd hrest (by simp)
  · have hpending : ¬ StillPending (freshHandler true) past c rest r := fun hstill => hends hstill.1
    obtain ⟨c', later, hrest, harrives⟩ := ownCalls_split hends
    have hfree : (∀ c' later, rest = ownCalls r.requestId rest ++ c' :: later →
        c'.arrives r.requestId = true → r.requestId ∉ (remoteMachine.run (freshHandler true)
          (past ++ c :: ownCalls r.requestId rest)).pendingRequests) ↔
        r.requestId ∉ (remoteMachine.run (freshHandler true)
          (past ++ c :: ownCalls r.requestId rest)).pendingRequests :=
      ⟨fun hall => hall c' later hrest harrives, fun hnot _ _ _ _ => hnot⟩
    rw [hfree]
    dsimp only
    rw [or_iff_right fun hstill => hpending hstill.1, and_iff_right hpending]
    rcases hopen with ⟨hin, hzero⟩ | ⟨hout, hone⟩
    · exact iff_of_false (by rw [hzero]; exact Nat.zero_ne_one) (not_not.mpr hin)
    · exact iff_of_true hone hout

end Run

/-- **Every request is pending or was answered once, exactly if none arrives under an identifier that is
pending.** -/
theorem requests_accounted_iff (calls : List RemoteCall) :
    (∀ past c rest r, calls = past ++ c :: rest → c.parsed = some r →
      Accounted (freshHandler true) past c rest r) ↔
    remoteMachine.Admits (fun _ h c => FreshId h c) (freshHandler true) calls := by
  constructor
  · -- the request whose entry would be overwritten is the last arrival of the identifier
    intro hall past c' later hcalls r hparsed hpending
    obtain ⟨before, c, own, rfl, harrives, hown⟩ := exists_arrival hpending
    obtain ⟨r', hparsed', hid⟩ := RemoteCall.parsed_of_arrives harrives
    have hsplit : calls = before ++ c :: (own ++ c' :: later) := by
      rw [hcalls, List.append_assoc, List.cons_append]
    have harrives' : c'.arrives r'.requestId = true := hid ▸ RemoteCall.arrives_of_parsed hparsed
    have howncalls := ownCalls_append later (hid ▸ hown) harrives'
    have hfree := (accounted_iff hparsed').mp (hall before c _ r' hsplit hparsed') c' later
    rw [howncalls] at hfree
    exact hfree rfl harrives' (hid ▸ hpending)
  · intro hadmits past c rest r hcalls hparsed
    rw [accounted_iff hparsed]
    intro c' later hrest harrives
    obtain ⟨r', hparsed', hid⟩ := RemoteCall.parsed_of_arrives harrives
    rw [← hid]
    refine hadmits _ c' later ?_ r' hparsed'
    rw [hcalls, List.append_assoc, List.cons_append, hid]
    exact congrArg (past ++ c :: ·) hrest

/-- The same request twice while its ECU is silent: the first is neither pending nor ever answered. -/
theorem reused_id_unanswered : ¬ ∀ past c rest r,
    [.registerECU (bytesOf "ECU_001") (bytesOf "ZG_1") 0x0201 (bytesOf "10.0.0.2") 13400,
      .handleRequest expectedFormat ⟨0, 0⟩ 7 7, .handleRequest expectedFormat ⟨0, 0⟩ 8 8] =
      past ++ c :: rest → c.parsed = some r → Accounted (freshHandler true) past c rest r := by
  intro hall
  have hlost := hall
    [.registerECU (bytesOf "ECU_001") (bytesOf "ZG_1") 0x0201 (bytesOf "10.0.0.2") 13400]
    (.handleRequest expectedFormat ⟨0, 0⟩ 7 7) [.handleRequest expectedFormat ⟨0, 0⟩ 8 8]
    ⟨bytesOf "diag-12345", bytesOf "ECU_001", 0x22, [0xF1, 0x90], 7, 5000, 0, 3⟩ rfl (by decide +kernel)
  rcases hlost with ⟨⟨hown, -⟩, -⟩ | ⟨-, hone⟩
  · have hends : ownCalls (bytesOf "diag-12345") [.handleRequest expectedFormat ⟨0, 0⟩ 8 8] = [] := by
      decide +kernel
    exact nomatch hends.symm.trans hown
  · revert hone
    decide +kernel

end Mcus.Vmg
