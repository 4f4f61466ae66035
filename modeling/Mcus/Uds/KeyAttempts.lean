import Mcus.Foundations.RateLimit
import Mcus.Uds.Security

/-! # How fast keys can be tried

Requests arrive at real times, and `uds_platform_get_tick_ms` shows such a time modulo `2 ^ 32`. The
attempt counter holds the number of wrong keys since the last accepted one modulo three, with a
full three while the lockout lasts; whatever the counter no longer holds lies at least
`UDS_SECURITY_ACCESS_DELAY_MS` back. Both halves of the brute-force bound follow from this ledger.
-/

namespace Mcus.Uds
open RateLimit Runs
set_option autoImplicit false

/-! ## Timed runs -/

/-- A request and the real time, in milliseconds, at which it is served. -/
structure TimedRequest where
  time : ℕ
  request : Request

abbrev TimedStep := Step UDSHandler TimedRequest Reply

def timedMachine (calculateKey : UInt32 → UInt32) : Machine UDSHandler TimedRequest Reply :=
  ⟨fun h t => udsHandlerProcess calculateKey h t.request⟩

theorem timedMachine_step (calculateKey : UInt32 → UInt32) (h : UDSHandler) (t : TimedRequest) :
    (timedMachine calculateKey).step h t = udsHandlerProcess calculateKey h t.request := rfl

def untimed (e : TimedStep) : UDSStep := ⟨e.pre, e.input.request, e.output, e.post⟩

/-- Time never runs backwards, and the tick shows it modulo `2 ^ 32`. -/
structure Clocked (ts : List TimedRequest) : Prop where
  ordered : ts.Pairwise fun s t => s.time ≤ t.time
  ticks : ∀ t ∈ ts, t.request.platform.tickMs = tickAt t.time

variable (calculateKey : UInt32 → UInt32)

abbrev timedHistory (ts : List TimedRequest) : List TimedStep :=
  (timedMachine calculateKey).trace udsHandlerInit ts

abbrev timedRecord (ts : List TimedRequest) : UDSHandler :=
  (timedMachine calculateKey).run udsHandlerInit ts

def acceptedAt (e : TimedStep) : Bool := acceptedKey calculateKey (untimed e)

def wrongAt (e : TimedStep) : Bool := wrongKey calculateKey (untimed e)

/-- When the wrong keys since the last accepted key were compared. -/
def failureTimes (past : List TimedStep) : List ℕ :=
  ((sinceLast (acceptedAt calculateKey) past).filter (wrongAt calculateKey)).map (·.input.time)

variable {calculateKey} {h : UDSHandler} {past : List TimedStep}

section FailureTimes
variable {e : TimedStep}

theorem failureTimes_accepted (ha : acceptedAt calculateKey e = true) :
    failureTimes calculateKey (past ++ [e]) = [] := by
  rw [failureTimes, sinceLast_concat_pos ha]
  rfl

theorem failureTimes_idle (ha : acceptedAt calculateKey e = false) (hw : wrongAt calculateKey e = false) :
    failureTimes calculateKey (past ++ [e]) = failureTimes calculateKey past := by
  simp [failureTimes, sinceLast_concat_neg ha, List.filter_append, hw]

theorem failureTimes_wrong (ha : acceptedAt calculateKey e = false) (hw : wrongAt calculateKey e = true) :
    failureTimes calculateKey (past ++ [e]) = failureTimes calculateKey past ++ [e.input.time] := by
  simp [failureTimes, sinceLast_concat_neg ha, List.filter_append, hw]

theorem acceptedAt_of_key (hcmp : comparesKey (untimed e) = true)
    (hkey : receivedKey e.input.request = calculateKey e.pre.seed) :
    acceptedAt calculateKey e = true := by
  rw [acceptedAt, acceptedKey, hcmp, Bool.true_and]
  exact decide_eq_true hkey

theorem wrongAt_of_key (hcmp : comparesKey (untimed e) = true)
    (hkey : receivedKey e.input.request ≠ calculateKey e.pre.seed) :
    acceptedAt calculateKey e = false ∧ wrongAt calculateKey e = true := by
  rw [acceptedAt, acceptedKey, wrongAt, wrongKey, hcmp, Bool.true_and, Bool.true_and]
  exact ⟨decide_eq_false hkey, decide_eq_true hkey⟩

theorem failureTimes_quiet (hcmp : comparesKey (untimed e) = false) :
    failureTimes calculateKey (past ++ [e]) = failureTimes calculateKey past :=
  failureTimes_idle (by rw [acceptedAt, acceptedKey, hcmp, Bool.false_and])
    (by rw [wrongAt, wrongKey, hcmp, Bool.false_and])

end FailureTimes

/-! ## The ledger of wrong keys -/

/-- What the attempt counter and the lockout time say about the times of the wrong keys since the
last accepted one, given the times of all past requests. -/
structure AttemptLedger (past failures : List ℕ) (h : UDSHandler) : Prop where
  attempts : h.securityAttempts.toNat ≤ 3
  count : failures.length % 3 = h.securityAttempts.toNat % 3
  expired : ∀ w ∈ failures.take (failures.length - h.securityAttempts.toNat), ∃ t ∈ past, w + 10000 ≤ t
  lockout : h.securityAttempts.toNat = 3 → ∃ last, failures.getLast? = some last ∧
    h.securityLockoutTime = tickAt last ∧ last ∈ past ∧ ∀ w ∈ failures, w ≤ last
  known : ∀ w ∈ failures, w ∈ past
  spaced : Spaced 3 10000 failures

theorem attempts_lt_iff : h.securityAttempts < securityAccessAttempts ↔ h.securityAttempts.toNat < 3 :=
  UInt8.lt_iff_toNat_lt

theorem attemptLedger_fresh (hzero : h.securityAttempts.toNat = 0) (ps : List ℕ) :
    AttemptLedger ps [] h where
  attempts := by omega
  count := by rw [hzero]; rfl
  expired _ hw := absurd hw (by simp)
  lockout hthree := by omega
  known _ hw := absurd hw (by simp)
  spaced := spaced_nil 3 10000

theorem AttemptLedger.of_same {ps fs : List ℕ} {h' : UDSHandler} (hl : AttemptLedger ps fs h)
    (hsame : SameAttempts h h') : AttemptLedger ps fs h' := by
  obtain ⟨ha, ht⟩ := hsame
  obtain ⟨h1, h2, h3, h4, h5, h6⟩ := hl
  rw [← ha] at h1 h2 h3 h4
  rw [← ht] at h4
  exact ⟨h1, h2, h3, h4, h5, h6⟩

theorem AttemptLedger.later {ps fs : List ℕ} {now : ℕ} (hl : AttemptLedger ps fs h) :
    AttemptLedger (ps ++ [now]) fs h where
  attempts := hl.attempts
  count := hl.count
  expired := by
    intro w hw
    obtain ⟨t, ht, hwt⟩ := hl.expired w hw
    exact ⟨t, List.mem_append_left _ ht, hwt⟩
  lockout := by
    intro hthree
    obtain ⟨last, hlast, htime, hmem, hmax⟩ := hl.lockout hthree
    exact ⟨last, hlast, htime, List.mem_append_left _ hmem, hmax⟩
  known w hw := List.mem_append_left _ (hl.known w hw)
  spaced := hl.spaced

/-- A passed lockout check clears a full counter only when all wrong keys lie far enough back. -/
theorem AttemptLedger.cleared {ps fs : List ℕ} {now : ℕ} {r : Request} (hl : AttemptLedger ps fs h)
    (hpassed : LockoutPassed h r) (htick : r.platform.tickMs = tickAt now) (hnow : ∀ t ∈ ps, t ≤ now) :
    AttemptLedger (ps ++ [now]) fs (clearExpired h) := by
  by_cases hfull : h.securityAttempts ≥ securityAccessAttempts
  · have hzero : (clearExpired h).securityAttempts.toNat = 0 := by
      rw [clearExpired, if_pos hfull]
      rfl
    have hdelay := hpassed.resolve_left (UInt8.not_lt.mpr hfull)
    have hthree : h.securityAttempts.toNat = 3 := by
      have hge : 3 ≤ h.securityAttempts.toNat := UInt8.le_iff_toNat_le.mp hfull
      have hle := hl.attempts
      omega
    obtain ⟨last, hlast, htime, hmem, hmax⟩ := hl.lockout hthree
    have hago : last + 10000 ≤ now := by
      rw [htick, htime] at hdelay
      exact elapsed_of_le (hnow last hmem) (UInt32.le_iff_toNat_le.mp hdelay)
    refine ⟨by omega, ?_, ?_, fun habs => by omega, hl.later.known, hl.spaced⟩
    · rw [hl.count, hthree, hzero]
    · intro w hw
      have hle := hmax w (List.mem_of_mem_take hw)
      exact ⟨now, by simp, by omega⟩
  · have hkeep : clearExpired h = h := if_neg hfull
    rw [hkeep]
    exact hl.later

theorem AttemptLedger.wrong {ps fs : List ℕ} {now : ℕ} (hl : AttemptLedger (ps ++ [now]) fs h)
    (hlt : h.securityAttempts < securityAccessAttempts) (hnow : ∀ t ∈ ps, t ≤ now) :
    AttemptLedger (ps ++ [now]) (fs ++ [now]) (countFailure h (tickAt now)) := by
  have hsmall := attempts_lt_iff.mp hlt
  have hnow' : ∀ t ∈ ps ++ [now], t ≤ now := by
    intro t ht
    rcases List.mem_append.mp ht with ht | ht
    · exact hnow t ht
    · exact le_of_eq (List.mem_singleton.mp ht)
  have hsucc : (countFailure h (tickAt now)).securityAttempts.toNat = h.securityAttempts.toNat + 1 := by
    have hadd : (h.securityAttempts + 1).toNat = (h.securityAttempts.toNat + 1) % 2 ^ 8 :=
      UInt8.toNat_add _ _
    have hfield : (countFailure h (tickAt now)).securityAttempts = h.securityAttempts + 1 := rfl
    rw [hfield, hadd]
    omega
  have hlen : (fs ++ [now]).length = fs.length + 1 := by simp
  constructor
  · omega
  · have hcount := hl.count
    omega
  · rw [hsucc, hlen, Nat.add_sub_add_right, List.take_append_of_le_length (Nat.sub_le _ _)]
    exact hl.expired
  · intro hthree
    have hfull : h.securityAttempts + 1 ≥ securityAccessAttempts :=
      UInt8.le_iff_toNat_le.mpr (le_of_eq hthree.symm)
    refine ⟨now, by simp, if_pos hfull, by simp, ?_⟩
    intro w hw
    rcases List.mem_append.mp hw with hw | hw
    · exact hnow' w (hl.known w hw)
    · exact le_of_eq (List.mem_singleton.mp hw)
  · intro w hw
    rcases List.mem_append.mp hw with hw | hw
    · exact hl.known w hw
    · exact List.mem_append_right _ hw
  · refine spaced_concat hl.spaced ?_
    intro w hw
    have hin : w ∈ fs.take (fs.length - h.securityAttempts.toNat) :=
      (List.take_subset_take_left fs (by omega)) hw
    obtain ⟨t, ht, hwt⟩ := hl.expired w hin
    exact le_trans hwt (hnow' t ht)

/-! ## Over a run -/

theorem timed_step (calculateKey : UInt32 → UInt32) (h : UDSHandler) (t : TimedRequest) :
    ∃ h' reply, KeyEffect calculateKey h t.request h' reply ∧
      (timedMachine calculateKey).stepAt h t = ⟨h, t, reply, h'⟩ := by
  obtain ⟨h', reply, heff, he⟩ := key_step calculateKey h t.request
  have hp : udsHandlerProcess calculateKey h t.request = (h', reply) :=
    Prod.ext (congrArg (·.post) he) (congrArg (·.output) he)
  refine ⟨h', reply, heff, ?_⟩
  rw [Machine.stepAt, timedMachine_step, hp]

/-- The tick shows the time of the request, which no past request exceeds. -/
def OnTime (past : List TimedStep) (_ : UDSHandler) (t : TimedRequest) : Prop :=
  t.request.platform.tickMs = tickAt t.time ∧ ∀ p ∈ past.map (·.input.time), p ≤ t.time

theorem onTime_of_clocked {ts : List TimedRequest} (hclock : Clocked ts) :
    (timedMachine calculateKey).Admits OnTime udsHandlerInit ts := by
  intro past t rest hts
  refine ⟨hclock.ticks t (by simp [hts]), ?_⟩
  intro p hp
  obtain ⟨e, he, rfl⟩ := List.mem_map.mp hp
  have hord := hclock.ordered
  rw [hts, List.pairwise_append] at hord
  exact hord.2.2 _ ((timedMachine calculateKey).input_mem_of_mem_trace he) t List.mem_cons_self

theorem attemptLedger_step (past : List TimedStep) (h : UDSHandler) (t : TimedRequest)
    (hinv : AttemptLedger (past.map (·.input.time)) (failureTimes calculateKey past) h)
    (htime : OnTime past h t) :
    AttemptLedger ((past ++ [(timedMachine calculateKey).stepAt h t]).map (·.input.time))
      (failureTimes calculateKey (past ++ [(timedMachine calculateKey).stepAt h t]))
      ((timedMachine calculateKey).stepAt h t).post := by
  obtain ⟨htick, hpast⟩ := htime
  obtain ⟨h', reply, heff, he⟩ := timed_step calculateKey h t
  generalize (timedMachine calculateKey).stepAt h t = e at he ⊢
  have hpre : e.pre = h := by rw [he]
  have hinput : e.input = t := by rw [he]
  have houtput : (untimed e).output = reply := by rw [he]; rfl
  have hpost : e.post = h' := by rw [he]
  rw [List.map_append, List.map_singleton, hinput, hpost]
  cases heff with
  | other _ _ hkeeps _ _ hattempts =>
    rw [failureTimes_quiet (comparesKey_none (houtput ▸ hkeeps))]
    rcases hattempts with hsame | ⟨hpassed, hsame⟩
    · exact hinv.later.of_same hsame
    · exact (hinv.cleared hpassed htick hpast).of_same hsame
  | seed _ _ hpassed =>
    have hcalls := congrArg (·.calls) houtput
    rw [failureTimes_quiet (generatedSeed_seed hcalls).2]
    exact (hinv.cleared hpassed htick hpast).of_same ⟨rfl, rfl⟩
  | keyAccepted hchecked hkey =>
    have hcmp := (comparesKey_keyAccepted (congrArg (·.calls) houtput)).1
    rw [failureTimes_accepted (acceptedAt_of_key hcmp (by rw [hinput, hpre, hkey]))]
    exact attemptLedger_fresh rfl _
  | keyWrong _ hchecked hkey hcalls =>
    have hcmp := (comparesKey_keyWrong (houtput ▸ hcalls)).1
    obtain ⟨haccepted, hwrong⟩ := wrongAt_of_key hcmp (by rw [hinput, hpre]; exact hkey)
    rw [failureTimes_wrong haccepted hwrong, htick, hinput]
    exact (hinv.cleared hchecked.passed htick hpast).wrong (clearExpired_attempts_lt h) hpast

theorem attemptLedger_run {ts : List TimedRequest} (hclock : Clocked ts) :
    AttemptLedger (ts.map (·.time)) (failureTimes calculateKey (timedHistory calculateKey ts))
      (timedRecord calculateKey ts) := by
  have hrun := Machine.induction_of_admits
    (P := fun past h => AttemptLedger (past.map (·.input.time)) (failureTimes calculateKey past) h)
    (attemptLedger_fresh rfl []) attemptLedger_step ts (onTime_of_clocked hclock)
  have htimes : (timedHistory calculateKey ts).map (·.input.time) = ts.map (·.time) := by
    have hinputs := congrArg (List.map (·.time))
      ((timedMachine calculateKey).trace_map_input udsHandlerInit ts)
    rwa [List.map_map] at hinputs
  rwa [htimes] at hrun

/-! ## The brute-force bound -/

/-- Any four wrong keys without an accepted key between them span at least the security delay. -/
def WrongKeysSpaced (calculateKey : UInt32 → UInt32) (steps : List TimedStep) : Prop :=
  ∀ before mid after, steps = before ++ mid ++ after → (∀ f ∈ mid, acceptedAt calculateKey f = false) →
    ∀ e₁ e₂ e₃ e₄, [e₁, e₂, e₃, e₄].Sublist mid →
      (∀ e ∈ [e₁, e₂, e₃, e₄], wrongAt calculateKey e = true) → e₁.input.time + 10000 ≤ e₄.input.time

/-- Within the security delay of every third wrong key, a SecurityAccess request of at least two
bytes is answered `0x37`; only the tick is read and the record stays as it was. -/
def LockedOut (calculateKey : UInt32 → UInt32) (past : List TimedStep) (e : TimedStep) : Prop :=
  ∀ last, (failureTimes calculateKey past).getLast? = some last →
    3 ∣ (failureTimes calculateKey past).length → e.input.time < last + 10000 →
    e.input.request.Asks Sid.securityAccess → 2 ≤ e.input.request.bytes.length →
      e.post = e.pre ∧ e.output =
        ⟨udsBuildNegativeResponse Sid.securityAccess Nrc.requiredTimeDelayNotExpired
            e.input.request.respCap, [.getTickMs e.input.request.platform.tickMs]⟩

theorem Clocked.take {ts : List TimedRequest} (hclock : Clocked ts) (k : ℕ) : Clocked (ts.take k) where
  ordered := hclock.ordered.sublist (List.take_sublist k ts)
  ticks t ht := hclock.ticks t (List.mem_of_mem_take ht)

theorem wrongKeysSpaced_run {ts : List TimedRequest} (hclock : Clocked ts) :
    WrongKeysSpaced calculateKey (timedHistory calculateKey ts) := by
  intro before mid after hsteps hno e₁ e₂ e₃ e₄ hsub hwrong
  -- the run up to the end of `mid`
  have hfront : timedHistory calculateKey (ts.take (before ++ mid).length) = before ++ mid := by
    have htake : timedHistory calculateKey (ts.take (before ++ mid).length) =
        (timedHistory calculateKey ts).take (before ++ mid).length := Machine.trace_take _ _ ts _
    rw [htake, hsteps, List.take_left]
  have hspaced := (@attemptLedger_run calculateKey _ (hclock.take (before ++ mid).length)).spaced
  rw [hfront, failureTimes, sinceLast_append hno, List.filter_append, List.map_append] at hspaced
  have hkeep : [e₁, e₂, e₃, e₄].filter (wrongAt calculateKey) = [e₁, e₂, e₃, e₄] :=
    List.filter_eq_self.mpr hwrong
  have hfour : [e₁, e₂, e₃, e₄].Sublist (mid.filter (wrongAt calculateKey)) :=
    hkeep ▸ hsub.filter (wrongAt calculateKey)
  have htimes := hfour.map fun e => e.input.time
  exact hspaced e₁.input.time [e₂.input.time, e₃.input.time] e₄.input.time
    (htimes.trans (List.sublist_append_right _ _)) rfl

theorem lockedOut_of_ledger {past : List TimedStep} {ps : List ℕ} {t : TimedRequest}
    (hinv : AttemptLedger ps (failureTimes calculateKey past) h)
    (htick : t.request.platform.tickMs = tickAt t.time) (hnow : ∀ p ∈ ps, p ≤ t.time) :
    LockedOut calculateKey past ((timedMachine calculateKey).stepAt h t) := by
  intro last hlast hthird hsoon hasks hlen
  have hcount := hinv.count
  have hle := hinv.attempts
  have hmem : last ∈ failureTimes calculateKey past := List.mem_of_getLast? hlast
  -- an empty counter would mean that the delay is over
  have hthree : h.securityAttempts.toNat = 3 := by
    by_contra hne
    have hzero : h.securityAttempts.toNat = 0 := by omega
    obtain ⟨p, hp, hago⟩ := hinv.expired last (by rwa [hzero, Nat.sub_zero, List.take_length])
    have hpast := hnow p hp
    exact absurd hsoon (by simp only [Machine.stepAt_input]; omega)
  obtain ⟨last', hlast', htime, hpast, -⟩ := hinv.lockout hthree
  obtain rfl : last = last' := Option.some.inj (hlast.symm.trans hlast')
  have hlocked : ¬ LockoutPassed h t.request := by
    intro hpassed
    have hdelay := hpassed.resolve_left fun hlt => by
      have hsmall := attempts_lt_iff.mp hlt
      omega
    rw [htick, htime] at hdelay
    have hshort := elapsed_of_lt (hnow last hpast) hsoon (by norm_num)
    exact absurd (UInt32.le_iff_toNat_le.mp hdelay) (Nat.not_le.mpr hshort)
  have hserved := @process_locked calculateKey h t.request hasks hlen hlocked
  rw [Machine.stepAt, timedMachine_step, hserved]
  exact ⟨rfl, rfl⟩

/-- **Brute-force bound.** -/
theorem bruteForce_bound (calculateKey : UInt32 → UInt32) (ts : List TimedRequest) (hclock : Clocked ts) :
    WrongKeysSpaced calculateKey (timedHistory calculateKey ts) ∧
    (timedMachine calculateKey).Admits
      (fun past h t => LockedOut calculateKey past ((timedMachine calculateKey).stepAt h t))
      udsHandlerInit ts := by
  refine ⟨wrongKeysSpaced_run hclock, ?_⟩
  intro past t rest hts
  have hfront : past = ts.take past.length := by rw [hts, List.take_left]
  have hpast : Clocked past := by
    rw [hfront]
    exact hclock.take _
  refine lockedOut_of_ledger (attemptLedger_run hpast) (hclock.ticks t (by simp [hts])) ?_
  intro p hp
  obtain ⟨s, hs, rfl⟩ := List.mem_map.mp hp
  have hord := hclock.ordered
  rw [hts, List.pairwise_append] at hord
  exact hord.2.2 s hs t List.mem_cons_self

/-- Three wrong keys around a wrap of the tick, and a fourth attempt within the delay. -/
def wrongKeyRun : List TimedRequest :=
  [2 ^ 32 - 20, 2 ^ 32 - 10, 2 ^ 32 + 5, 2 ^ 32 + 9000].map fun time =>
    ⟨time, [0x27, 0x02, 0, 0, 0, 0], 64, ⟨tickAt time, 0, 0⟩⟩

theorem bruteForce_bound_wrapped :
    failureTimes udsPlatformCalculateKey (timedHistory udsPlatformCalculateKey wrongKeyRun) =
      [2 ^ 32 - 20, 2 ^ 32 - 10, 2 ^ 32 + 5] ∧
    WrongKeysSpaced udsPlatformCalculateKey (timedHistory udsPlatformCalculateKey wrongKeyRun) ∧
    (timedMachine udsPlatformCalculateKey).Admits
      (fun past h t => LockedOut udsPlatformCalculateKey past
        ((timedMachine udsPlatformCalculateKey).stepAt h t)) udsHandlerInit wrongKeyRun :=
  ⟨by decide, bruteForce_bound udsPlatformCalculateKey wrongKeyRun ⟨by decide, by decide⟩⟩

end Mcus.Uds
