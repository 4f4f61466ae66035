import Mcus.Foundations.RateLimit
import Mcus.Nodes.Reconnect

/-! # How long the reconnecting client waits

Calls are made at real times, in milliseconds, and `GET_TIME_MS` shows such a time modulo `2 ^ 32`. The wait
in front of the next attempt doubles with each one that fails, and a call of
`doip_client_reconnect_start` moves the reference time on but never back.
-/

namespace Mcus.Nodes
open RateLimit Runs
set_option autoImplicit false

/-! ## Timed calls -/

structure TimedCall where
  time : ℕ
  call : ReconnectCall

/-- What a call reads off the clock, if it looks at it. -/
def ReconnectCall.now : ReconnectCall → Option UInt32
  | .start now => some now
  | .process now _ => some now
  | _ => none

abbrev TimedReconnectStep := Step DoIPClientReconnect TimedCall Int

def timedReconnectMachine : Machine DoIPClientReconnect TimedCall Int :=
  ⟨fun client t => reconnectMachine.step client t.call⟩

/-- Time never runs backwards, and the clock shows it modulo `2 ^ 32`. -/
structure ClockedCalls (calls : List TimedCall) : Prop where
  ordered : calls.Pairwise fun s t => s.time ≤ t.time
  readings : ∀ t ∈ calls, ∀ now, t.call.now = some now → now = tickAt t.time

/-- What `attempt_connection` returns in the call, if the call comes to it. -/
def attemptResult (client : DoIPClientReconnect) : ReconnectCall → Option Int
  | .process now attempt =>
    if (client.state = .connecting ∨ client.state = .reconnecting) ∧
        ¬ now - client.lastAttemptTimeMs < client.backoffMs then some attempt
    else none
  | _ => none

def attempted (e : TimedReconnectStep) : Bool := (attemptResult e.pre e.input.call).isSome

def succeeded (e : TimedReconnectStep) : Bool := attemptResult e.pre e.input.call == some 0

def failed (e : TimedReconnectStep) : Bool := attempted e && !succeeded e

def isReset (e : TimedReconnectStep) : Bool := e.input.call == .reset

/-- A success or a reset. -/
def startsOver (e : TimedReconnectStep) : Bool := succeeded e || isReset e

/-- How many attempts failed since the last success or reset. -/
def failures (past : List TimedReconnectStep) : ℕ := ((sinceLast startsOver past).filter failed).length

/-- Neither an attempt nor a reset. -/
def Quiet (e : TimedReconnectStep) : Prop := attempted e = false ∧ isReset e = false

/-- Since an attempt with only quiet steps behind it the backoff is what it left, and a further attempt comes
no earlier than that. -/
def SpacedBehind (past : List TimedReconnectStep) (e : TimedReconnectStep) : Prop :=
  attempted e = true → ∀ before e₁ between, past = before ++ e₁ :: between → attempted e₁ = true →
    (∀ f ∈ between, Quiet f) →
      (∀ f ∈ between, f.post.backoffMs = e₁.post.backoffMs) ∧
        e₁.input.time + e₁.post.backoffMs.toNat ≤ e.input.time

def AttemptsSpaced (steps : List TimedReconnectStep) : Prop :=
  ∀ before e after, steps = before ++ e :: after → SpacedBehind before e

/-! ## One call -/

section Calls
variable {client : DoIPClientReconnect}

theorem attemptResult_process (client : DoIPClientReconnect) (now : UInt32) (attempt : Int) :
    attemptResult client (.process now attempt) =
      if (client.state = .connecting ∨ client.state = .reconnecting) ∧
          ¬ now - client.lastAttemptTimeMs < client.backoffMs then some attempt
      else none := rfl

/-- What a call does to the state, the backoff and the reference time. -/
inductive BackoffEffect (client : DoIPClientReconnect) (call : ReconnectCall)
    (client' : DoIPClientReconnect) : Prop
  | failure (now : UInt32) (attempt : Int) (hread : call.now = some now)
      (hresult : attemptResult client call = some attempt) (hfailed : attempt ≠ 0)
      (hbackoff : client'.backoffMs = nextBackoff client.backoffMs)
      (hreference : client'.lastAttemptTimeMs = now)
  | success (hresult : attemptResult client call = some 0) (hbackoff : client'.backoffMs = doipInitialBackoffMs)
      (hstate : client'.state = .connected)
  | reset (hcall : call = .reset) (hbackoff : client'.backoffMs = doipInitialBackoffMs)
  | restart (now : UInt32) (hread : call.now = some now) (hresult : attemptResult client call = none)
      (hcall : call ≠ .reset) (hbackoff : client'.backoffMs = client.backoffMs)
      (hreference : client'.lastAttemptTimeMs = now)
  | idle (hresult : attemptResult client call = none) (hcall : call ≠ .reset)
      (hbackoff : client'.backoffMs = client.backoffMs)
      (hreference : client'.lastAttemptTimeMs = client.lastAttemptTimeMs)
      (hstate : client'.state = client.state)

theorem backoffEffect_idle {call : ReconnectCall} (hresult : attemptResult client call = none)
    (hcall : call ≠ .reset) : BackoffEffect client call client :=
  .idle hresult hcall rfl rfl rfl

theorem backoffEffect_start (client : DoIPClientReconnect) (now : UInt32) :
    BackoffEffect client (.start now) (doipClientReconnectStart client now).1 := by
  unfold doipClientReconnectStart
  split
  case isTrue => exact backoffEffect_idle rfl nofun
  case isFalse => exact .restart now rfl rfl nofun rfl rfl

theorem backoffEffect_process (client : DoIPClientReconnect) (now : UInt32) (attempt : Int) :
    BackoffEffect client (.process now attempt) (doipClientReconnectProcess client now attempt).1 := by
  by_cases hstate : client.state = .connecting ∨ client.state = .reconnecting
  · rw [process_waiting hstate]
    split
    case isTrue hsoon =>
      exact backoffEffect_idle (by rw [attemptResult_process, if_neg fun h => h.2 hsoon]) nofun
    case isFalse hsoon =>
      have hresult : attemptResult client (.process now attempt) = some attempt := if_pos ⟨hstate, hsoon⟩
      split
      case isTrue hzero => exact .success (hzero ▸ hresult) rfl rfl
      case isFalse hnonzero => exact .failure now attempt rfl hresult hnonzero rfl rfl
  · have hresult : attemptResult client (.process now attempt) = none := if_neg fun h => hstate h.1
    cases h : client.state with
    | connecting => exact absurd (Or.inl h) hstate
    | reconnecting => exact absurd (Or.inr h) hstate
    | disconnected =>
      rw [process_disconnected h]
      exact backoffEffect_idle hresult nofun
    | connected =>
      rw [process_connected h]
      split
      case isTrue => exact .idle hresult nofun rfl rfl rfl
      case isFalse => exact backoffEffect_idle hresult nofun

theorem backoffEffect_step (client : DoIPClientReconnect) (call : ReconnectCall) :
    BackoffEffect client call (reconnectMachine.step client call).1 := by
  cases call with
  | start now => exact backoffEffect_start client now
  | process now attempt => exact backoffEffect_process client now attempt
  | reset => exact .reset rfl rfl
  | send data => exact backoffEffect_idle rfl nofun
  | recv buf cap timeoutMs => exact backoffEffect_idle rfl nofun
  | cleanup => exact .idle rfl nofun rfl rfl rfl

end Calls

/-! ## The failures since the last success or reset -/

section Failures
variable {e : TimedReconnectStep}

theorem attempted_none (h : attemptResult e.pre e.input.call = none) : attempted e = false := by
  rw [attempted, h]
  rfl

theorem succeeded_none (h : attemptResult e.pre e.input.call = none) : succeeded e = false := by
  rw [succeeded, h]
  rfl

theorem isReset_eq_false (h : e.input.call ≠ .reset) : isReset e = false := by
  rw [isReset]
  exact beq_false_of_ne h

theorem failures_startsOver (past : List TimedReconnectStep) (h : startsOver e = true) :
    failures (past ++ [e]) = 0 := by
  rw [failures, sinceLast_concat_pos h]
  rfl

theorem failures_failed (past : List TimedReconnectStep) (hover : startsOver e = false)
    (hfailed : failed e = true) : failures (past ++ [e]) = failures past + 1 := by
  simp [failures, sinceLast_concat_neg hover, List.filter_append, hfailed]

theorem failures_quiet (past : List TimedReconnectStep) (hover : startsOver e = false)
    (hfailed : failed e = false) : failures (past ++ [e]) = failures past := by
  simp [failures, sinceLast_concat_neg hover, List.filter_append, hfailed]

theorem startsOver_failure {attempt : Int} (hresult : attemptResult e.pre e.input.call = some attempt)
    (hfailed : attempt ≠ 0) : startsOver e = false ∧ failed e = true := by
  have hnot : succeeded e = false := by
    rw [succeeded, hresult]
    exact beq_false_of_ne fun h => hfailed (Option.some.inj h)
  have hreset : isReset e = false := by
    refine isReset_eq_false fun hcall => ?_
    rw [hcall] at hresult
    exact absurd hresult nofun
  have hattempted : attempted e = true := by
    rw [attempted, hresult]
    rfl
  rw [startsOver, failed, hnot, hreset, hattempted]
  exact ⟨rfl, rfl⟩

theorem startsOver_none (hresult : attemptResult e.pre e.input.call = none) (hcall : e.input.call ≠ .reset) :
    startsOver e = false ∧ failed e = false := by
  rw [startsOver, failed, attempted_none hresult, succeeded_none hresult, isReset_eq_false hcall]
  exact ⟨rfl, rfl⟩

end Failures

/-- Doubling and clamping moves on to the next power. -/
theorem nextBackoff_toNat {backoffMs : UInt32} {k : ℕ} (h : backoffMs.toNat = min 30000 (1000 * 2 ^ k)) :
    (nextBackoff backoffMs).toNat = min 30000 (1000 * 2 ^ (k + 1)) := by
  have hdouble : (backoffMs * 2).toNat = backoffMs.toNat * 2 := by
    rw [UInt32.toNat_mul]
    exact Nat.mod_eq_of_lt (by change backoffMs.toNat * 2 < 2 ^ 32; omega)
  have hclamp : (nextBackoff backoffMs).toNat = min 30000 (backoffMs.toNat * 2) := by
    rw [nextBackoff, ← hdouble]
    split
    case isTrue hgt => exact (min_eq_left (Nat.le_of_lt (UInt32.lt_iff_toNat_lt.mp hgt))).symm
    case isFalse hle => exact (min_eq_right (UInt32.not_lt.mp hle)).symm
  rw [hclamp, h, pow_succ]
  omega

/-- The backoff in force after a history. -/
def BackoffIs (past : List TimedReconnectStep) (client : DoIPClientReconnect) : Prop :=
  client.backoffMs.toNat = min 30000 (1000 * 2 ^ failures past)

section Step
variable {past : List TimedReconnectStep} {client : DoIPClientReconnect} {t : TimedCall}

theorem backoffIs_initial (h : client.backoffMs = doipInitialBackoffMs) (hzero : failures past = 0) :
    BackoffIs past client := by
  rw [BackoffIs, h, hzero]
  rfl

theorem backoffIs_step (h : BackoffIs past client)
    (heffect : BackoffEffect client t.call (timedReconnectMachine.stepAt client t).post) :
    BackoffIs (past ++ [timedReconnectMachine.stepAt client t])
      (timedReconnectMachine.stepAt client t).post := by
  have hkept {e : TimedReconnectStep} (hresult : attemptResult e.pre e.input.call = none)
      (hcall : e.input.call ≠ .reset) (hbackoff : e.post.backoffMs = client.backoffMs) :
      BackoffIs (past ++ [e]) e.post := by
    obtain ⟨hover, hfailed⟩ := startsOver_none hresult hcall
    rw [BackoffIs, failures_quiet past hover hfailed, hbackoff]
    exact h
  cases heffect with
  | failure now attempt _ hresult hne hbackoff _ =>
    obtain ⟨hover, hfailed⟩ := startsOver_failure (e := timedReconnectMachine.stepAt client t) hresult hne
    rw [BackoffIs, failures_failed past hover hfailed, hbackoff]
    exact nextBackoff_toNat h
  | success hresult hbackoff _ =>
    refine backoffIs_initial hbackoff (failures_startsOver past ?_)
    rw [startsOver, succeeded, Machine.stepAt_pre, Machine.stepAt_input, hresult]
    rfl
  | reset hcall hbackoff =>
    refine backoffIs_initial hbackoff (failures_startsOver past ?_)
    rw [startsOver, isReset, Machine.stepAt_input, hcall]
    exact Bool.or_true _
  | restart now _ hresult hcall hbackoff _ => exact hkept hresult hcall hbackoff
  | idle hresult hcall hbackoff _ _ => exact hkept hresult hcall hbackoff

end Step

/-! ## The wait between two attempts -/

/-- Since the attempt `e`, with the quiet steps `between` behind it, the backoff is as it left it, and the
client is connected or waits from a time at or after the attempt. -/
structure WaitsSince (times : List ℕ) (e : TimedReconnectStep) (between : List TimedReconnectStep)
    (client : DoIPClientReconnect) : Prop where
  kept : ∀ f ∈ between, f.post.backoffMs = e.post.backoffMs
  backoff : client.backoffMs = e.post.backoffMs
  reference : client.state = .connected ∨
    ∃ since ∈ times, e.input.time ≤ since ∧ client.lastAttemptTimeMs = tickAt since

/-- What the state says about the attempts of a history. -/
structure BackoffLedger (past : List TimedReconnectStep) (client : DoIPClientReconnect) : Prop where
  backoff : BackoffIs past client
  waits : ∀ before e between, past = before ++ e :: between → attempted e = true →
    (∀ f ∈ between, Quiet f) → WaitsSince (past.map (·.input.time)) e between client
  spaced : AttemptsSpaced past

/-- The clock shows the time of the call, which no earlier call exceeds. -/
structure OnTime (times : List ℕ) (t : TimedCall) : Prop where
  reading : ∀ now, t.call.now = some now → now = tickAt t.time
  latest : ∀ p ∈ times, p ≤ t.time

section Ledger
variable {past : List TimedReconnectStep} {client : DoIPClientReconnect} {t : TimedCall}

/-- An attempt that is made. -/
theorem waits_of_attempt {times : List ℕ} {e : TimedReconnectStep} (htime : OnTime times e.input)
    (heffect : BackoffEffect e.pre e.input.call e.post) (hattempted : attempted e = true) :
    WaitsSince (times ++ [e.input.time]) e [] e.post := by
  have hlast : e.input.time ∈ times ++ [e.input.time] := by simp
  refine ⟨fun f hf => absurd hf List.not_mem_nil, rfl, ?_⟩
  cases heffect with
  | failure now attempt hread _ _ _ hreference =>
    exact Or.inr ⟨_, hlast, le_rfl, hreference.trans (htime.reading now hread)⟩
  | success _ _ hstate => exact Or.inl hstate
  | reset hcall _ =>
    rw [attempted, hcall] at hattempted
    exact absurd hattempted Bool.false_ne_true
  | restart _ _ hresult _ _ _ => exact absurd hattempted (by simp [attempted_none hresult])
  | idle hresult _ _ _ _ => exact absurd hattempted (by simp [attempted_none hresult])

/-- A quiet step moves the reference time on, if at all. -/
theorem WaitsSince.quiet {times : List ℕ} {e f : TimedReconnectStep} {between : List TimedReconnectStep}
    (h : WaitsSince times e between f.pre) (hmem : e.input.time ∈ times) (htime : OnTime times f.input)
    (heffect : BackoffEffect f.pre f.input.call f.post) (hquiet : Quiet f) :
    WaitsSince (times ++ [f.input.time]) e (between ++ [f]) f.post := by
  obtain ⟨hattempted, hreset⟩ := hquiet
  have hkeeps (hbackoff : f.post.backoffMs = f.pre.backoffMs)
      (hreference : f.post.state = .connected ∨ ∃ since ∈ times ++ [f.input.time], e.input.time ≤ since ∧
        f.post.lastAttemptTimeMs = tickAt since) :
      WaitsSince (times ++ [f.input.time]) e (between ++ [f]) f.post := by
    have hpost : f.post.backoffMs = e.post.backoffMs := hbackoff.trans h.backoff
    refine ⟨fun g hg => ?_, hpost, hreference⟩
    rcases List.mem_append.mp hg with hg | hg
    · exact h.kept g hg
    · rw [List.mem_singleton.mp hg, hpost]
  cases heffect with
  | failure _ _ _ hresult _ _ _ => exact absurd hattempted (by simp [attempted, hresult])
  | success hresult _ _ => exact absurd hattempted (by simp [attempted, hresult])
  | reset hcall _ => exact absurd hreset (by simp [isReset, hcall])
  | restart now hread _ _ hbackoff hreference =>
    refine hkeeps hbackoff (Or.inr ⟨f.input.time, by simp, htime.latest _ hmem, ?_⟩)
    exact hreference.trans (htime.reading now hread)
  | idle _ _ hbackoff hreference hstate =>
    refine hkeeps hbackoff ?_
    rcases h.reference with hconnected | ⟨since, hsince, hle, htick⟩
    · exact Or.inl (hstate.trans hconnected)
    · exact Or.inr ⟨since, List.mem_append_left _ hsince, hle, hreference.trans htick⟩

/-- An attempt is only made when the backoff has passed on the clock, and so has in real time. -/
theorem WaitsSince.spaced {times : List ℕ} {e f : TimedReconnectStep} {between : List TimedReconnectStep}
    (h : WaitsSince times e between f.pre) (htime : OnTime times f.input) (hattempted : attempted f = true) :
    e.input.time + e.post.backoffMs.toNat ≤ f.input.time := by
  obtain ⟨attempt, hresult⟩ := Option.isSome_iff_exists.mp hattempted
  generalize hcall : f.input.call = call at hresult
  cases call with
  | process now attempt' =>
    rw [attemptResult_process] at hresult
    split at hresult
    case isFalse => exact absurd hresult nofun
    case isTrue hdue =>
      obtain ⟨hstate, hsoon⟩ := hdue
      rcases h.reference with hconnected | ⟨since, hsince, hle, htick⟩
      · rw [hconnected] at hstate
        exact absurd hstate (by decide)
      · have hnow : now = tickAt f.input.time := htime.reading now (by rw [hcall]; rfl)
        rw [hnow, htick, h.backoff] at hsoon
        have hdue := UInt32.le_iff_toNat_le.mp (UInt32.not_lt.mp hsoon)
        have hpassed := elapsed_of_le (htime.latest since hsince) hdue
        omega
  | _ => exact absurd hresult nofun

theorem backoffLedger_step (h : BackoffLedger past client) (htime : OnTime (past.map (·.input.time)) t) :
    BackoffLedger (past ++ [timedReconnectMachine.stepAt client t])
      (timedReconnectMachine.stepAt client t).post := by
  have heffect : BackoffEffect client t.call (timedReconnectMachine.stepAt client t).post :=
    backoffEffect_step client t.call
  refine ⟨backoffIs_step h.backoff heffect, ?_, ?_⟩
  · intro before e between hsplit hattempted hquiet
    rw [List.map_append, List.map_singleton]
    rcases List.eq_nil_or_concat between with rfl | ⟨between, f, rfl⟩
    · obtain ⟨-, he⟩ := List.append_inj' hsplit rfl
      obtain rfl := (List.cons.inj he).1
      exact waits_of_attempt htime heffect hattempted
    · rw [List.concat_eq_append, ← List.cons_append, ← List.append_assoc] at hsplit
      obtain ⟨hpast, hf⟩ := List.append_inj' hsplit rfl
      obtain rfl := (List.cons.inj hf).1
      rw [List.concat_eq_append] at hquiet ⊢
      have hbefore := h.waits before e between hpast hattempted fun g hg => hquiet g (by simp [hg])
      refine hbefore.quiet ?_ htime heffect (hquiet _ (by simp))
      rw [hpast]
      simp
  · refine forall_split_concat.mpr ⟨h.spaced, ?_⟩
    intro hdue before e between hpast hattempted hquiet
    have hwaits := h.waits before e between hpast hattempted hquiet
    exact ⟨hwaits.kept, hwaits.spaced htime hdue⟩

end Ledger

/-! ## Over a run -/

theorem ClockedCalls.onTime {calls : List TimedCall} (hclock : ClockedCalls calls)
    {client : DoIPClientReconnect} :
    timedReconnectMachine.Admits (fun past _ t => OnTime (past.map (·.input.time)) t) client calls := by
  intro past t rest hcalls
  refine ⟨hclock.readings t (by simp [hcalls]), ?_⟩
  intro p hp
  obtain ⟨e, he, rfl⟩ := List.mem_map.mp hp
  have hordered := hclock.ordered
  rw [hcalls, List.pairwise_append] at hordered
  exact hordered.2.2 _ (timedReconnectMachine.input_mem_of_mem_trace he) t List.mem_cons_self

theorem backoffLedger_init {serverHost : Option (List UInt8)} {serverPort : UInt16}
    {certFile keyFile caFile : Option (List UInt8)} {client : DoIPClientReconnect}
    (hinit : doipClientReconnectInit serverHost serverPort certFile keyFile caFile = some client) :
    BackoffLedger [] client := by
  obtain ⟨host, -, rfl⟩ := Option.map_eq_some_iff.mp hinit
  refine ⟨backoffIs_initial rfl rfl, fun before e between hpast => ?_, fun before e after hpast => ?_⟩
  · exact absurd hpast (by simp)
  · exact absurd hpast (by simp)

/-- **Backing off.** After `k` failed attempts in a row the client waits `min 30000 (1000 * 2 ^ k)`
milliseconds, and two attempts in a row lie at least that far apart, however the clock wraps and whatever is
called in between, unless it is a reset. -/
theorem reconnect_backoff {serverHost : Option (List UInt8)} {serverPort : UInt16}
    {certFile keyFile caFile : Option (List UInt8)} {client : DoIPClientReconnect}
    (hinit : doipClientReconnectInit serverHost serverPort certFile keyFile caFile = some client)
    {calls : List TimedCall} (hclock : ClockedCalls calls) :
    BackoffIs (timedReconnectMachine.trace client calls) (timedReconnectMachine.run client calls) ∧
      AttemptsSpaced (timedReconnectMachine.trace client calls) := by
  have hledger := Machine.induction_of_admits (backoffLedger_init hinit)
    (fun _ _ _ h htime => backoffLedger_step h htime) calls hclock.onTime
  exact ⟨hledger.backoff, hledger.spaced⟩

/-- Two failures across a wrap of the clock. -/
def wrappingCalls : List TimedCall :=
  [⟨2 ^ 32 - 1500, .start (tickAt (2 ^ 32 - 1500))⟩, ⟨2 ^ 32 - 500, .process (tickAt (2 ^ 32 - 500)) 1⟩,
    ⟨2 ^ 32 + 1500, .process (tickAt (2 ^ 32 + 1500)) 1⟩]

theorem reconnect_backoff_wrapping :
    BackoffIs (timedReconnectMachine.trace initialClient wrappingCalls)
        (timedReconnectMachine.run initialClient wrappingCalls) ∧
      AttemptsSpaced (timedReconnectMachine.trace initialClient wrappingCalls) := by
  have hinit : doipClientReconnectInit (some [0x67]) 13400 none none none = some initialClient := rfl
  refine reconnect_backoff hinit ⟨?_, ?_⟩
  · simp [wrappingCalls]
  · intro t ht now hnow
    simp only [wrappingCalls, List.mem_cons, List.not_mem_nil, or_false] at ht
    rcases ht with rfl | rfl | rfl <;> exact (Option.some.inj hnow).symm

end Mcus.Nodes
