import Mcus.Vmg.RemoteDiagnostics

/-! # What one call does to a pending request

`processPendingRequests` walks over all pending requests, changes some on the way and removes others at
its end. Seen from one request it is `afterPoll`: the request waits on, is sent again or expires. A call
for another request does nothing to it.
-/

namespace Mcus.Vmg
open OrderedMap Runs Std RemoteDiagnosticsHandler
set_option autoImplicit false

/-! ## One entry -/

namespace DiagnosticRequest

abbrev TimedOut (now : ℕ) (r : DiagnosticRequest) : Prop := elapsedMs now r.timestamp > r.timeoutMs.toNat

def Retries (now : ℕ) (r : DiagnosticRequest) : Prop := TimedOut now r ∧ r.retryCount < r.maxRetries

def Expires (now : ℕ) (r : DiagnosticRequest) : Prop := TimedOut now r ∧ ¬ r.retryCount < r.maxRetries

instance (now : ℕ) (r : DiagnosticRequest) : Decidable (Retries now r) :=
  inferInstanceAs (Decidable (_ ∧ _))

instance (now : ℕ) (r : DiagnosticRequest) : Decidable (Expires now r) :=
  inferInstanceAs (Decidable (_ ∧ _))

def retried (now : ℕ) (r : DiagnosticRequest) : DiagnosticRequest :=
  { r with retryCount := r.retryCount + 1, timestamp := now }

def polled (now : ℕ) (r : DiagnosticRequest) : DiagnosticRequest := if Retries now r then retried now r else r

/-- What is left of a pending request behind `processPendingRequests`. -/
def afterPoll (now : ℕ) (r : DiagnosticRequest) : Option DiagnosticRequest :=
  if Expires now r then none else some (polled now r)

theorem cases_of_poll (now : ℕ) (r : DiagnosticRequest) :
    Retries now r ∨ Expires now r ∨ (¬ Retries now r ∧ ¬ Expires now r ∧ ¬ TimedOut now r) := by
  by_cases htime : TimedOut now r
  · by_cases hcount : r.retryCount < r.maxRetries
    · exact Or.inl ⟨htime, hcount⟩
    · exact Or.inr (Or.inl ⟨htime, hcount⟩)
  · exact Or.inr (Or.inr ⟨fun h => htime h.1, fun h => htime h.1, htime⟩)

theorem Retries.not_expires {now : ℕ} {r : DiagnosticRequest} (h : Retries now r) : ¬ Expires now r :=
  fun hexpires => hexpires.2 h.2

theorem Expires.not_retries {now : ℕ} {r : DiagnosticRequest} (h : Expires now r) : ¬ Retries now r :=
  fun hretries => h.2 hretries.2

/-- A retry refreshes the time stamp and counts; everything else stays. -/
theorem polled_keeps (now : ℕ) (r : DiagnosticRequest) : (polled now r).requestId = r.requestId ∧
    (polled now r).ecuId = r.ecuId ∧ (polled now r).timeoutMs = r.timeoutMs ∧
      (polled now r).maxRetries = r.maxRetries := by
  unfold polled
  split <;> exact ⟨rfl, rfl, rfl, rfl⟩

end DiagnosticRequest

open DiagnosticRequest

namespace RemoteDiagnosticsHandler
variable {h h' : RemoteDiagnosticsHandler} {now : ℕ} {id : Text} {r : DiagnosticRequest}

/-- The events of one pass of the loop. -/
def pollEvents (h : RemoteDiagnosticsHandler) (now : ℕ) (entry : Text × DiagnosticRequest) :
    List RemoteEvent :=
  if Retries now entry.2 then (h.sendToECU (retried now entry.2)).2
  else if Expires now entry.2 then (h.sendResponse (timeoutResponse entry.1 entry.2 now)).2
  else []

theorem sendToECU_congr (hrouting : h'.ecuRouting = h.ecuRouting) (r : DiagnosticRequest) :
    h'.sendToECU r = h.sendToECU r := by
  rw [sendToECU, sendToECU, findECURouting, findECURouting, hrouting]

theorem sendResponse_events (h : RemoteDiagnosticsHandler) (response : DiagnosticResponse) :
    (h.sendResponse response).2 =
      .sentResponse response :: if h.responseCallback then [.responseCallback response] else [] := by
  unfold sendResponse
  cases response.success <;> rfl

theorem pollEvents_congr (hrouting : h'.ecuRouting = h.ecuRouting)
    (hcallback : h'.responseCallback = h.responseCallback) : h'.pollEvents now = h.pollEvents now := by
  funext entry
  rw [pollEvents, pollEvents, sendToECU_congr hrouting, sendResponse_events, sendResponse_events, hcallback]

theorem processEntry_retries (hretries : Retries now r) : h.processEntry now id r =
    ({ h with
      pendingRequests := h.pendingRequests.insert id (retried now r)
      retryRequests := h.retryRequests + 1 }, false, h.pollEvents now (id, r)) := by
  rw [processEntry, if_pos hretries.1, if_pos hretries.2, pollEvents, if_pos hretries]
  rfl

theorem processEntry_expires (hexpires : Expires now r) : h.processEntry now id r =
    ({ h with
      failedRequests := h.failedRequests + 1
      timeoutRequests := h.timeoutRequests + 1 }, true, h.pollEvents now (id, r)) := by
  rw [processEntry, if_pos hexpires.1, if_neg hexpires.2, pollEvents, if_neg hexpires.not_retries,
    if_pos hexpires]
  rfl

theorem processEntry_waits (htime : ¬ TimedOut now r) : h.processEntry now id r =
    (h, false, h.pollEvents now (id, r)) := by
  rw [processEntry, if_neg htime, pollEvents, if_neg fun hr => htime hr.1, if_neg fun he => htime he.1]

/-! ## The loop -/

theorem processEntries_cons (entries : List (Text × DiagnosticRequest)) :
    h.processEntries now ((id, r) :: entries) =
      let entry := h.processEntry now id r
      let rest := entry.1.processEntries now entries
      (rest.1, if entry.2.1 then id :: rest.2.1 else rest.2.1, entry.2.2 ++ rest.2.2) := rfl

/-- What the loop leaves alone. -/
structure SameSetup (h h' : RemoteDiagnosticsHandler) : Prop where
  ecuRouting : h'.ecuRouting = h.ecuRouting
  responseCallback : h'.responseCallback = h.responseCallback
  totalRequests : h'.totalRequests = h.totalRequests
  successfulRequests : h'.successfulRequests = h.successfulRequests

theorem SameSetup.trans {h'' : RemoteDiagnosticsHandler} (hfirst : SameSetup h h')
    (hsecond : SameSetup h' h'') : SameSetup h h'' :=
  ⟨hsecond.1.trans hfirst.1, hsecond.2.trans hfirst.2, hsecond.3.trans hfirst.3, hsecond.4.trans hfirst.4⟩

theorem processEntry_sameSetup (h : RemoteDiagnosticsHandler) (now : ℕ) (id : Text) (r : DiagnosticRequest) :
    SameSetup h (h.processEntry now id r).1 := by
  rcases cases_of_poll now r with hretries | hexpires | ⟨-, -, htime⟩
  · rw [processEntry_retries hretries]
    exact ⟨rfl, rfl, rfl, rfl⟩
  · rw [processEntry_expires hexpires]
    exact ⟨rfl, rfl, rfl, rfl⟩
  · rw [processEntry_waits htime]
    exact ⟨rfl, rfl, rfl, rfl⟩

theorem processEntry_events (h : RemoteDiagnosticsHandler) (now : ℕ) (id : Text) (r : DiagnosticRequest) :
    (h.processEntry now id r).2 = (decide (Expires now r), h.pollEvents now (id, r)) := by
  rcases cases_of_poll now r with hretries | hexpires | ⟨-, hwaits, htime⟩
  · rw [processEntry_retries hretries, decide_eq_false hretries.not_expires]
  · rw [processEntry_expires hexpires, decide_eq_true hexpires]
  · rw [processEntry_waits htime, decide_eq_false hwaits]

theorem processEntries_sameSetup (h : RemoteDiagnosticsHandler) (now : ℕ)
    (entries : List (Text × DiagnosticRequest)) : SameSetup h (h.processEntries now entries).1 := by
  induction entries generalizing h with
  | nil => exact ⟨rfl, rfl, rfl, rfl⟩
  | cons entry entries ih => exact (processEntry_sameSetup h now entry.1 entry.2).trans (ih _)

theorem processEntries_events (h : RemoteDiagnosticsHandler) (now : ℕ)
    (entries : List (Text × DiagnosticRequest)) :
    (h.processEntries now entries).2.2 = entries.flatMap (h.pollEvents now) := by
  induction entries generalizing h with
  | nil => rfl
  | cons entry entries ih =>
    have hsetup := processEntry_sameSetup h now entry.1 entry.2
    rw [List.flatMap_cons, ← pollEvents_congr hsetup.ecuRouting hsetup.responseCallback, ← ih]
    rw [processEntries_cons]
    dsimp only
    rw [processEntry_events, pollEvents_congr hsetup.ecuRouting hsetup.responseCallback]

/-- The keys of the requests that expire. -/
def expiring (now : ℕ) (entries : List (Text × DiagnosticRequest)) : List Text :=
  (entries.filter fun entry => decide (Expires now entry.2)).map Prod.fst

theorem processEntries_toRemove (h : RemoteDiagnosticsHandler) (now : ℕ)
    (entries : List (Text × DiagnosticRequest)) :
    (h.processEntries now entries).2.1 = expiring now entries := by
  induction entries generalizing h with
  | nil => rfl
  | cons entry entries ih =>
    rw [processEntries_cons]
    dsimp only
    rw [ih, processEntry_events]
    unfold expiring
    rw [List.filter_cons]
    split <;> rfl

/-! ### The map behind the loop -/

variable {k : Text} {entries : List (Text × DiagnosticRequest)}

theorem processEntry_other (hne : id ≠ k) :
    (h.processEntry now id r).1.pendingRequests[k]? = h.pendingRequests[k]? := by
  rcases cases_of_poll now r with hretries | hexpires | ⟨-, -, htime⟩
  · rw [processEntry_retries hretries, TreeMap.getElem?_insert, if_neg (cmp_ne_eq hne)]
  · rw [processEntry_expires hexpires]
  · rw [processEntry_waits htime]

theorem processEntry_self (hid : h.pendingRequests[id]? = some r) :
    (h.processEntry now id r).1.pendingRequests[id]? = some (polled now r) := by
  rcases cases_of_poll now r with hretries | hexpires | ⟨hcounts, -, htime⟩
  · rw [processEntry_retries hretries, TreeMap.getElem?_insert, if_pos ReflCmp.compare_self, polled,
      if_pos hretries]
  · rw [processEntry_expires hexpires, polled, if_neg hexpires.not_retries, hid]
  · rw [processEntry_waits htime, polled, if_neg hcounts, hid]

theorem processEntry_size (hid : id ∈ h.pendingRequests) :
    (h.processEntry now id r).1.pendingRequests.size = h.pendingRequests.size := by
  rcases cases_of_poll now r with hretries | hexpires | ⟨-, -, htime⟩
  · rw [processEntry_retries hretries, TreeMap.size_insert, if_pos (TreeMap.contains_iff_mem.mpr hid)]
  · rw [processEntry_expires hexpires]
  · rw [processEntry_waits htime]

theorem processEntry_mem (hk : k ∈ h.pendingRequests) : k ∈ (h.processEntry now id r).1.pendingRequests := by
  rcases cases_of_poll now r with hretries | hexpires | ⟨-, -, htime⟩
  · rw [processEntry_retries hretries]
    exact TreeMap.mem_insert.mpr (Or.inr hk)
  · rwa [processEntry_expires hexpires]
  · rwa [processEntry_waits htime]

theorem processEntries_other (hk : k ∉ entries.map Prod.fst) :
    (h.processEntries now entries).1.pendingRequests[k]? = h.pendingRequests[k]? := by
  induction entries generalizing h with
  | nil => rfl
  | cons entry entries ih =>
    have hne : entry.1 ≠ k := fun he => hk (he ▸ List.mem_cons_self)
    rw [processEntries_cons]
    exact (ih fun hmem => hk (List.mem_cons_of_mem _ hmem)).trans (processEntry_other hne)

/-- The loop meets the entry once, with the value that the map held at its start. -/
theorem processEntries_entry (hnodup : (entries.map Prod.fst).Nodup) (hmem : (k, r) ∈ entries)
    (hk : h.pendingRequests[k]? = some r) :
    (h.processEntries now entries).1.pendingRequests[k]? = some (polled now r) := by
  induction entries generalizing h with
  | nil => exact absurd hmem List.not_mem_nil
  | cons entry entries ih =>
    obtain ⟨hentry, hnodup⟩ := List.nodup_cons.mp hnodup
    rw [processEntries_cons]
    rcases List.mem_cons.mp hmem with rfl | hmem
    · exact (processEntries_other hentry).trans (processEntry_self hk)
    · have hne : entry.1 ≠ k := fun he => hentry (he ▸ List.mem_map_of_mem hmem)
      exact ih hnodup hmem ((processEntry_other hne).trans hk)

theorem processEntries_size (hentries : ∀ k ∈ entries.map Prod.fst, k ∈ h.pendingRequests) :
    (h.processEntries now entries).1.pendingRequests.size = h.pendingRequests.size := by
  induction entries generalizing h with
  | nil => rfl
  | cons entry entries ih =>
    have hrest : ∀ k ∈ entries.map Prod.fst, k ∈ (h.processEntry now entry.1 entry.2).1.pendingRequests :=
      fun k hk => processEntry_mem (hentries k (List.mem_cons_of_mem _ hk))
    exact (ih hrest).trans (processEntry_size (hentries entry.1 List.mem_cons_self))

theorem processEntries_mem (hk : k ∈ h.pendingRequests) :
    k ∈ (h.processEntries now entries).1.pendingRequests := by
  induction entries generalizing h with
  | nil => exact hk
  | cons entry entries ih => exact ih (processEntry_mem hk)

/-! ### The counters behind the loop -/

theorem expiring_cons (entry : Text × DiagnosticRequest) : expiring now (entry :: entries) =
    if Expires now entry.2 then entry.1 :: expiring now entries else expiring now entries := by
  unfold expiring
  rw [List.filter_cons]
  by_cases hexpires : Expires now entry.2
  · rw [if_pos (decide_eq_true hexpires), if_pos hexpires, List.map_cons]
  · rw [if_neg (by simpa using hexpires), if_neg hexpires]

/-- A request that expires counts as failed and as timed out. -/
theorem processEntries_counters : (h.processEntries now entries).1.failedRequests =
      h.failedRequests + UInt64.ofNat (expiring now entries).length ∧
    (h.processEntries now entries).1.timeoutRequests =
      h.timeoutRequests + UInt64.ofNat (expiring now entries).length := by
  induction entries generalizing h with
  | nil => exact ⟨(UInt64.add_zero _).symm, (UInt64.add_zero _).symm⟩
  | cons entry entries ih =>
    rw [processEntries_cons, expiring_cons]
    dsimp only
    rw [ih.1, ih.2]
    rcases cases_of_poll now entry.2 with hretries | hexpires | ⟨-, hwaits, htime⟩
    · rw [processEntry_retries hretries, if_neg hretries.not_expires]
      exact ⟨rfl, rfl⟩
    · rw [processEntry_expires hexpires, if_pos hexpires, List.length_cons, UInt64.ofNat_add]
      constructor <;> (dsimp only; rw [UInt64.add_assoc, UInt64.add_comm 1]; rfl)
    · rw [processEntry_waits htime, if_neg hwaits]
      exact ⟨rfl, rfl⟩

/-! ## All pending requests -/

theorem mem_expiring : k ∈ expiring now h.pendingRequests.toList ↔
    ∃ r, h.pendingRequests[k]? = some r ∧ Expires now r := by
  unfold expiring
  rw [List.mem_map]
  constructor
  · rintro ⟨⟨k, r⟩, hentry, rfl⟩
    obtain ⟨hmem, hexpires⟩ := List.mem_filter.mp hentry
    exact ⟨r, TreeMap.mem_toList_iff_getElem?_eq_some.mp hmem, of_decide_eq_true hexpires⟩
  · rintro ⟨r, hk, hexpires⟩
    refine ⟨(k, r), List.mem_filter.mpr ⟨?_, decide_eq_true hexpires⟩, rfl⟩
    exact TreeMap.mem_toList_iff_getElem?_eq_some.mpr hk

theorem processPendingRequests_eq (h : RemoteDiagnosticsHandler) (now : ℕ) :
    h.processPendingRequests now =
      let loop := h.processEntries now h.pendingRequests.toList
      ({ loop.1 with
        pendingRequests := eraseAll loop.1.pendingRequests (expiring now h.pendingRequests.toList) },
        h.pendingRequests.toList.flatMap (h.pollEvents now)) := by
  have htoRemove := processEntries_toRemove h now h.pendingRequests.toList
  have hevents := processEntries_events h now h.pendingRequests.toList
  rw [← htoRemove, ← hevents]
  rfl

/-- `processPendingRequests` from the view of one identifier. -/
theorem processPendingRequests_pending (h : RemoteDiagnosticsHandler) (now : ℕ) (k : Text) :
    (h.processPendingRequests now).1.pendingRequests[k]? = (h.pendingRequests[k]?).bind (afterPoll now) := by
  rw [processPendingRequests_eq]
  dsimp only
  cases hk : h.pendingRequests[k]? with
  | none =>
    have hkeys : k ∉ h.pendingRequests.toList.map Prod.fst := by
      rw [TreeMap.map_fst_toList_eq_keys, TreeMap.mem_keys, TreeMap.mem_iff_isSome_getElem?, hk]
      exact Bool.false_ne_true
    rw [getElem?_eraseAll_of_not_mem fun hmem => ?_, processEntries_other hkeys, hk]
    · rfl
    · obtain ⟨r, hr, -⟩ := mem_expiring.mp hmem
      exact nomatch hk.symm.trans hr
  | some r =>
    rw [Option.bind_some, afterPoll]
    by_cases hexpires : Expires now r
    · rw [if_pos hexpires, getElem?_eraseAll_of_mem (mem_expiring.mpr ⟨r, hk, hexpires⟩)]
    · rw [if_neg hexpires, getElem?_eraseAll_of_not_mem fun hmem => ?_]
      · exact processEntries_entry (nodup_keys_toList _) (TreeMap.mem_toList_iff_getElem?_eq_some.mpr hk) hk
      · obtain ⟨r', hr', hexpires'⟩ := mem_expiring.mp hmem
        obtain rfl := Option.some.inj (hk.symm.trans hr')
        exact hexpires hexpires'

theorem processPendingRequests_sameSetup (h : RemoteDiagnosticsHandler) (now : ℕ) :
    SameSetup h (h.processPendingRequests now).1 := by
  have hloop := processEntries_sameSetup h now h.pendingRequests.toList
  rw [processPendingRequests_eq]
  exact ⟨hloop.1, hloop.2, hloop.3, hloop.4⟩

theorem processPendingRequests_size (h : RemoteDiagnosticsHandler) (now : ℕ) :
    (h.processPendingRequests now).1.pendingRequests.size + (expiring now h.pendingRequests.toList).length =
      h.pendingRequests.size := by
  have hkeys : ∀ k ∈ h.pendingRequests.toList.map Prod.fst, k ∈ h.pendingRequests := by
    intro k hk
    rwa [TreeMap.map_fst_toList_eq_keys, TreeMap.mem_keys] at hk
  have hsub : (expiring now h.pendingRequests.toList).Sublist (h.pendingRequests.toList.map Prod.fst) :=
    List.filter_sublist.map _
  rw [processPendingRequests_eq]
  dsimp only
  rw [size_eraseAll (hsub.nodup (nodup_keys_toList _)) fun k hk => ?_, processEntries_size hkeys]
  exact processEntries_mem (hkeys k (hsub.subset hk))

/-! ## One request -/

theorem acceptRequest_registered {routing : ECURouting} (hrouting : h.ecuRouting[r.ecuId]? = some routing)
    (durationMs : UInt32) (responded : ℕ) : h.acceptRequest r durationMs responded =
      ({ h with
        totalRequests := h.totalRequests + 1
        pendingRequests := h.pendingRequests.insert r.requestId r }, true,
        [.sentToECU r routing
          (Doip.buildDoIPDiagnosticMessage 0x0E00 routing.logicalAddress (r.serviceId :: r.data))]) := by
  unfold acceptRequest sendToECU findECURouting
  dsimp only
  rw [hrouting]

/-- The response counts one failure, and the handler another. -/
theorem acceptRequest_unregistered (hrouting : h.ecuRouting[r.ecuId]? = none) (durationMs : UInt32)
    (responded : ℕ) : h.acceptRequest r durationMs responded =
      ({ h with
        totalRequests := h.totalRequests + 1
        pendingRequests := (h.pendingRequests.insert r.requestId r).erase r.requestId
        failedRequests := h.failedRequests + 1 + 1 }, false,
        (h.sendResponse (routingFailure r durationMs responded)).2) := by
  unfold acceptRequest sendToECU findECURouting
  dsimp only
  rw [hrouting]
  rfl

end RemoteDiagnosticsHandler

namespace RemoteCall
variable {c : RemoteCall} {r : DiagnosticRequest} {k : Text}

/-- A request with this identifier was parsed. -/
def arrives (k : Text) (c : RemoteCall) : Bool := decide (c.parsed.map (·.requestId) = some k)

theorem arrives_of_parsed (hparsed : c.parsed = some r) : c.arrives r.requestId = true :=
  decide_eq_true (congrArg (Option.map (·.requestId)) hparsed)

theorem parsed_of_arrives (harrives : c.arrives k = true) : ∃ r, c.parsed = some r ∧ r.requestId = k :=
  Option.map_eq_some_iff.mp (of_decide_eq_true harrives)

theorem requestId_ne (hparsed : c.parsed = some r) (harrives : c.arrives k = false) : r.requestId ≠ k := by
  rintro rfl
  exact nomatch harrives.symm.trans (arrives_of_parsed hparsed)

theorem parseRequest_keeps {jsonPayload : Text} {request : DiagnosticRequest}
    (hparse : parseRequest jsonPayload request = some r) : r.requestId ≠ [] ∧ r.ecuId ≠ [] ∧
      r.timeoutMs = request.timeoutMs ∧ r.retryCount = request.retryCount ∧
        r.maxRetries = request.maxRetries := by
  unfold parseRequest at hparse
  obtain ⟨serviceId, -, hparse⟩ := Option.bind_eq_some_iff.mp hparse
  obtain ⟨data, -, hparse⟩ := Option.bind_eq_some_iff.mp hparse
  split at hparse
  case isTrue hids =>
    obtain rfl := Option.some.inj hparse
    exact ⟨hids.1, hids.2, rfl, rfl, rfl⟩
  case isFalse => cases hparse

/-- A request arrives with the time of its call and without retries. -/
theorem parsed_stamped (hparsed : c.parsed = some r) : r.timestamp = c.time ∧ r.retryCount = 0 := by
  cases c with
  | registerECU => cases hparsed
  | processPendingRequests => cases hparsed
  | handleRequest jsonPayload locals received responded =>
    obtain ⟨request, hparse, rfl⟩ := Option.map_eq_some_iff.mp hparsed
    exact ⟨rfl, (parseRequest_keeps hparse).2.2.2.1⟩

/-- What is left of a pending request behind a call for another one. -/
def keeps : RemoteCall → DiagnosticRequest → Option DiagnosticRequest
  | registerECU .. => some
  | handleRequest .. => some
  | processPendingRequests now => afterPoll now

/-- What such a call does for it. -/
def eventsFor (h : RemoteDiagnosticsHandler) (k : Text) (r : DiagnosticRequest) :
    RemoteCall → List RemoteEvent
  | registerECU .. => []
  | handleRequest .. => []
  | processPendingRequests now => h.pollEvents now (k, r)

end RemoteCall

section Steps
variable {h : RemoteDiagnosticsHandler} {c : RemoteCall} {r : DiagnosticRequest} {k : Text}

/-- A request that was parsed is pending and sent, or it is answered at once. -/
theorem step_of_parsed (h : RemoteDiagnosticsHandler) (hparsed : c.parsed = some r) :
    (∃ routing message, h.ecuRouting[r.ecuId]? = some routing ∧ remoteMachine.step h c =
      ({ h with
        totalRequests := h.totalRequests + 1
        pendingRequests := h.pendingRequests.insert r.requestId r }, [.sentToECU r routing message])) ∨
    (∃ durationMs responded, h.ecuRouting[r.ecuId]? = none ∧ remoteMachine.step h c =
      ({ h with
        totalRequests := h.totalRequests + 1
        pendingRequests := (h.pendingRequests.insert r.requestId r).erase r.requestId
        failedRequests := h.failedRequests + 1 + 1 },
        (h.sendResponse (routingFailure r durationMs responded)).2)) := by
  cases c with
  | registerECU => cases hparsed
  | processPendingRequests => cases hparsed
  | handleRequest jsonPayload locals received responded =>
    have hstep : remoteMachine.step h (.handleRequest jsonPayload locals received responded) =
        ((h.acceptRequest r locals.durationMs responded).1,
          (h.acceptRequest r locals.durationMs responded).2.2) := by
      have hhandle : h.handleRequest jsonPayload locals received responded =
          h.acceptRequest r locals.durationMs responded := by
        rw [handleRequest, show receivedRequest jsonPayload locals received = some r from hparsed]
      rw [← hhandle]
      rfl
    cases hrouting : h.ecuRouting[r.ecuId]? with
    | some routing =>
      rw [acceptRequest_registered hrouting] at hstep
      exact Or.inl ⟨routing, _, rfl, hstep⟩
    | none =>
      rw [acceptRequest_unregistered hrouting] at hstep
      exact Or.inr ⟨_, _, rfl, hstep⟩

/-- A payload that is not parsed changes nothing. -/
theorem step_of_not_parsed {jsonPayload : Text} {locals : Uninitialised} {received responded : ℕ}
    (hparsed : (RemoteCall.handleRequest jsonPayload locals received responded).parsed = none) :
    remoteMachine.step h (.handleRequest jsonPayload locals received responded) = (h, []) := by
  have hhandle : h.handleRequest jsonPayload locals received responded = (h, false, []) := by
    rw [handleRequest, show receivedRequest jsonPayload locals received = none from hparsed]
  show (((h.handleRequest _ _ _ _).1, (h.handleRequest _ _ _ _).2.2) : _ × _) = _
  rw [hhandle]

/-- The map behind a call, at any identifier that does not arrive. -/
theorem step_pending (harrives : c.arrives k = false) :
    (remoteMachine.step h c).1.pendingRequests[k]? = (h.pendingRequests[k]?).bind c.keeps := by
  cases c with
  | registerECU => exact (Option.bind_fun_some _).symm
  | processPendingRequests now => exact processPendingRequests_pending h now k
  | handleRequest jsonPayload locals received responded =>
    show _ = (h.pendingRequests[k]?).bind some
    rw [Option.bind_fun_some]
    cases hparsed : (RemoteCall.handleRequest jsonPayload locals received responded).parsed with
    | none => rw [step_of_not_parsed hparsed]
    | some r =>
      have hne := RemoteCall.requestId_ne hparsed harrives
      rcases step_of_parsed h hparsed with ⟨routing, message, -, hstep⟩ | ⟨durationMs, responded, -, hstep⟩
      · rw [hstep, TreeMap.getElem?_insert, if_neg (cmp_ne_eq hne)]
      · rw [hstep, TreeMap.getElem?_erase, if_neg (cmp_ne_eq hne), TreeMap.getElem?_insert,
          if_neg (cmp_ne_eq hne)]

/-! ## Events and identifiers -/

/-- The identifier that an event carries. -/
def RemoteEvent.about : RemoteEvent → Text
  | sentToECU request _ _ => request.requestId
  | sentResponse response => response.requestId
  | responseCallback response => response.requestId

/-- The events of one identifier. -/
def eventsAbout (k : Text) (events : List RemoteEvent) : List RemoteEvent :=
  events.filter fun x => decide (x.about = k)

/-- Events of a kind that only the identifier has are found among its own. -/
theorem countP_eventsAbout {p : RemoteEvent → Bool} (habout : ∀ x, p x = true → x.about = k)
    (events : List RemoteEvent) : (eventsAbout k events).countP p = events.countP p := by
  rw [eventsAbout, List.countP_filter]
  refine List.countP_congr fun x _ => ?_
  rw [Bool.and_eq_true, decide_eq_true_iff]
  exact and_iff_left_of_imp (habout x)

theorem eq_of_mem_sendToECU {x : RemoteEvent} (hx : x ∈ (h.sendToECU r).2) :
    ∃ routing message, x = .sentToECU r routing message := by
  unfold sendToECU at hx
  split at hx
  case h_1 => exact absurd hx List.not_mem_nil
  case h_2 routing hrouting => exact ⟨routing, _, List.mem_singleton.mp hx⟩

theorem about_sendResponse {x : RemoteEvent} {response : DiagnosticResponse}
    (hx : x ∈ (h.sendResponse response).2) : x.about = response.requestId := by
  rw [sendResponse_events] at hx
  rcases List.mem_cons.mp hx with rfl | hx
  · rfl
  · split at hx
    case isTrue =>
      obtain rfl := List.mem_singleton.mp hx
      rfl
    case isFalse => exact absurd hx List.not_mem_nil

theorem about_pollEvents {now : ℕ} (hkey : r.requestId = k) :
    ∀ x ∈ h.pollEvents now (k, r), x.about = k := by
  intro x hx
  unfold pollEvents at hx
  split at hx
  case isTrue =>
    obtain ⟨routing, message, rfl⟩ := eq_of_mem_sendToECU hx
    exact hkey
  case isFalse =>
    split at hx
    case isTrue => exact about_sendResponse hx
    case isFalse => exact absurd hx List.not_mem_nil

/-- Every request is stored under its identifier. -/
def Keyed (h : RemoteDiagnosticsHandler) : Prop :=
  ∀ (k : Text) (r : DiagnosticRequest), h.pendingRequests[k]? = some r → r.requestId = k

theorem afterPoll_requestId {now : ℕ} {q : DiagnosticRequest} (hpoll : afterPoll now r = some q) :
    q.requestId = r.requestId := by
  unfold afterPoll at hpoll
  split at hpoll
  case isTrue => cases hpoll
  case isFalse =>
    obtain rfl := Option.some.inj hpoll
    exact (polled_keeps now r).1

theorem keeps_requestId {q : DiagnosticRequest} (hkeeps : c.keeps r = some q) :
    q.requestId = r.requestId := by
  cases c with
  | registerECU => exact congrArg _ (Option.some.inj hkeeps).symm
  | handleRequest => exact congrArg _ (Option.some.inj hkeeps).symm
  | processPendingRequests now => exact afterPoll_requestId hkeeps

theorem keyed_step (hkeyed : Keyed h) : Keyed (remoteMachine.step h c).1 := by
  intro k q hq
  cases harrives : c.arrives k with
  | false =>
    rw [step_pending harrives] at hq
    obtain ⟨r, hr, hkeeps⟩ := Option.bind_eq_some_iff.mp hq
    exact (keeps_requestId hkeeps).trans (hkeyed k r hr)
  | true =>
    obtain ⟨r, hparsed, rfl⟩ := RemoteCall.parsed_of_arrives harrives
    rcases step_of_parsed h hparsed with ⟨routing, message, -, hstep⟩ | ⟨durationMs, responded, -, hstep⟩
    · rw [hstep, TreeMap.getElem?_insert, if_pos ReflCmp.compare_self] at hq
      rw [← Option.some.inj hq]
    · rw [hstep, TreeMap.getElem?_erase, if_pos ReflCmp.compare_self] at hq
      cases hq

/-- What a call does for an identifier that does not arrive. -/
theorem step_events (hkeyed : Keyed h) (harrives : c.arrives k = false) :
    eventsAbout k (remoteMachine.step h c).2 =
      (h.pendingRequests[k]?).elim [] fun r => c.eventsFor h k r := by
  unfold eventsAbout
  cases c with
  | registerECU =>
    show [] = _
    cases h.pendingRequests[k]? <;> rfl
  | processPendingRequests now =>
    have hevents : (remoteMachine.step h (.processPendingRequests now)).2 =
        h.pendingRequests.toList.flatMap (h.pollEvents now) :=
      congrArg Prod.snd (processPendingRequests_eq h now)
    rw [hevents, filter_flatMap_toList]
    · rfl
    · rintro ⟨k, r⟩ hentry x hx
      exact about_pollEvents (hkeyed k r (TreeMap.mem_toList_iff_getElem?_eq_some.mp hentry)) x hx
  | handleRequest jsonPayload locals received responded =>
    have hnone : (h.pendingRequests[k]?).elim [] (fun r => RemoteCall.eventsFor h k r
        (.handleRequest jsonPayload locals received responded)) = [] := by
      cases h.pendingRequests[k]? <;> rfl
    rw [hnone]
    cases hparsed : (RemoteCall.handleRequest jsonPayload locals received responded).parsed with
    | none => rw [step_of_not_parsed hparsed, List.filter_nil]
    | some r =>
      have hne := RemoteCall.requestId_ne hparsed harrives
      refine List.filter_eq_nil_iff.mpr fun x hx => ?_
      rw [decide_eq_true_iff]
      rcases step_of_parsed h hparsed with ⟨routing, message, -, hstep⟩ | ⟨durationMs, responded, -, hstep⟩
      · rw [hstep, List.mem_singleton] at hx
        rw [hx]
        exact hne
      · rw [hstep] at hx
        rw [about_sendResponse hx]
        exact hne

theorem step_absent (hkeyed : Keyed h) (harrives : c.arrives k = false) (hk : h.pendingRequests[k]? = none) :
    (remoteMachine.step h c).1.pendingRequests[k]? = none ∧
      eventsAbout k (remoteMachine.step h c).2 = [] := by
  rw [step_pending harrives, step_events hkeyed harrives, hk]
  exact ⟨rfl, rfl⟩

/-- What a call does to a pending request, if it is not for its identifier. -/
theorem step_cases (hkeyed : Keyed h) (harrives : c.arrives k = false)
    (hk : h.pendingRequests[k]? = some r) :
    ((remoteMachine.step h c).1.pendingRequests[k]? = some r ∧
      eventsAbout k (remoteMachine.step h c).2 = []) ∨
    (∃ now, c = .processPendingRequests now ∧ Retries now r ∧
      (remoteMachine.step h c).1.pendingRequests[k]? = some (retried now r) ∧
      eventsAbout k (remoteMachine.step h c).2 = (h.sendToECU (retried now r)).2) ∨
    (∃ now, c = .processPendingRequests now ∧ Expires now r ∧
      (remoteMachine.step h c).1.pendingRequests[k]? = none ∧
      eventsAbout k (remoteMachine.step h c).2 = (h.sendResponse (timeoutResponse k r now)).2) := by
  rw [step_pending harrives, step_events hkeyed harrives, hk]
  cases c with
  | registerECU => exact Or.inl ⟨rfl, rfl⟩
  | handleRequest => exact Or.inl ⟨rfl, rfl⟩
  | processPendingRequests now =>
    show (afterPoll now r = _ ∧ h.pollEvents now (k, r) = _) ∨ (∃ now', _ ∧ _ ∧ afterPoll now r = _ ∧
      h.pollEvents now (k, r) = _) ∨ (∃ now', _ ∧ _ ∧ afterPoll now r = _ ∧ h.pollEvents now (k, r) = _)
    rw [afterPoll, pollEvents, polled]
    rcases cases_of_poll now r with hretries | hexpires | ⟨hcounts, hwaits, -⟩
    · rw [if_neg hretries.not_expires, if_pos hretries, if_pos hretries]
      exact Or.inr (Or.inl ⟨now, rfl, hretries, rfl, rfl⟩)
    · rw [if_pos hexpires, if_neg hexpires.not_retries, if_pos hexpires]
      exact Or.inr (Or.inr ⟨now, rfl, hexpires, rfl, rfl⟩)
    · rw [if_neg hwaits, if_neg hcounts, if_neg hcounts, if_neg hwaits]
      exact Or.inl ⟨rfl, rfl⟩

theorem step_responseCallback : (remoteMachine.step h c).1.responseCallback = h.responseCallback := by
  cases c with
  | registerECU => rfl
  | processPendingRequests now => exact (processPendingRequests_sameSetup h now).responseCallback
  | handleRequest jsonPayload locals received responded =>
    cases hparsed : (RemoteCall.handleRequest jsonPayload locals received responded).parsed with
    | none => rw [step_of_not_parsed hparsed]
    | some r =>
      rcases step_of_parsed h hparsed with ⟨_, _, -, hstep⟩ | ⟨_, _, -, hstep⟩ <;> rw [hstep]

/-! ## Runs -/

/-- A handler behind its constructor, and behind `setResponseCallback` if a callback is set. -/
def freshHandler (callback : Bool) : RemoteDiagnosticsHandler :=
  if callback then constructed.setResponseCallback else constructed

theorem freshHandler_pending (callback : Bool) (k : Text) :
    (freshHandler callback).pendingRequests[k]? = none := by
  cases callback <;> exact TreeMap.getElem?_emptyc

theorem keyed_run (callback : Bool) (calls : List RemoteCall) :
    Keyed (remoteMachine.run (freshHandler callback) calls) := by
  refine Machine.induction (P := fun _ h => Keyed h) ?_ (fun _ _ _ hkeyed => keyed_step hkeyed) calls
  intro k r hr
  exact nomatch (freshHandler_pending callback k).symm.trans hr

end Steps
end Mcus.Vmg
