import Mcus.Uds.TemplatePlatform

/-! # The lockout of the template platform counts requests

The delay behind the third wrong key is one of ticks, and a tick passes when it is read. While the lockout
lasts only SecurityAccess requests of two bytes or more read it, once each, so it ends behind 9999 of them,
whatever time and whatever other requests lie in between.
-/

namespace Mcus.Uds
open ByteOrder Runs
set_option autoImplicit false

/-- A SecurityAccess request long enough for the lockout check. -/
def TemplateRequest.triesAccess (q : TemplateRequest) : Bool :=
  decide (q.bytes.head? = some Sid.securityAccess) && decide (2 ≤ q.bytes.length)

theorem triesAccess_iff {q : TemplateRequest} :
    q.triesAccess = true ↔ q.bytes.head? = some Sid.securityAccess ∧ 2 ≤ q.bytes.length := by
  rw [TemplateRequest.triesAccess, Bool.and_eq_true, decide_eq_true_iff, decide_eq_true_iff]

theorem templateMachine_step (d : TemplateDevice) (q : TemplateRequest) :
    templateMachine.step d q = templateStep d q := rfl

/-- The third wrong key was compared at the tick `start`. -/
structure LockedSince (start : ℕ) (d : TemplateDevice) : Prop where
  running : d.resetting = false
  attempts : securityAccessAttempts ≤ d.handler.securityAttempts
  time : d.handler.securityLockoutTime = UInt32.ofNat start
  later : start < d.reads

section Calls
variable {calculateKey : UInt32 → UInt32} {h : UDSHandler} {r : Request}

/-- Only SecurityAccess reads the tick. -/
theorem reads_of_entry {entry : UDSServiceEntry} (he : entry ∈ serviceTable calculateKey)
    (hsid : entry.sid ≠ Sid.securityAccess) : (entry.handler h r).calls.countP readsTick = 0 := by
  simp only [serviceTable, List.mem_cons, List.not_mem_nil, or_false] at he
  rcases he with rfl | rfl | rfl | rfl | rfl | rfl | rfl | rfl | rfl <;> dsimp only
  · unfold udsServiceDiagnosticSessionControl
    dsimp only
    repeat' split
    all_goals rfl
  · unfold udsServiceEcuReset
    dsimp only
    repeat' split
    all_goals rfl
  · exact absurd rfl hsid
  · unfold udsServiceTesterPresent
    split <;> rfl
  · unfold udsServiceReadDataById
    dsimp only
    repeat' split
    all_goals rfl
  · unfold udsServiceWriteDataById
    repeat' split
    all_goals rfl
  · unfold udsServiceRequestDownload
    repeat' split
    all_goals rfl
  · unfold udsServiceTransferData
    dsimp only
    repeat' split
    all_goals rfl
  · unfold udsServiceRequestTransferExit
    repeat' split
    all_goals rfl

theorem reads_of_not_access (hnot : ¬ r.Asks Sid.securityAccess) :
    (udsHandlerProcess calculateKey h r).2.calls.countP readsTick = 0 := by
  unfold udsHandlerProcess
  split
  case h_1 => rfl
  case h_2 sid rest hbytes =>
    split
    case h_1 => rfl
    case h_2 entry hfound =>
      refine reads_of_entry (List.mem_of_find?_eq_some hfound) fun hsid => hnot ?_
      have hmatch : entry.sid = sid := by simpa using List.find?_some hfound
      rw [Request.Asks, hbytes, ← hsid, hmatch]
      rfl

theorem sameAttempts_of_not_access (hnot : ¬ r.Asks Sid.securityAccess) :
    SameAttempts h (udsHandlerProcess calculateKey h r).1 := by
  obtain ⟨h', reply, heffect, hstep⟩ := step_effect calculateKey h r
  have hpost : (udsHandlerProcess calculateKey h r).1 = h' := congrArg Step.post hstep
  rw [hpost]
  cases heffect with
  | quiet => exact .refl h
  | session => exact ⟨enterSession_securityAttempts h _, enterSession_securityLockoutTime h _⟩
  | security _ hasks => exact absurd hasks hnot
  | seed hasks => exact absurd hasks hnot
  | keyAccepted hchecked => exact absurd hchecked.asks hnot
  | keyWrong _ hchecked => exact absurd hchecked.asks hnot
  | download => exact ⟨rfl, rfl⟩
  | block => exact ⟨rfl, rfl⟩
  | blockFailed => exact .refl h
  | exit => exact ⟨rfl, rfl⟩

/-- A SecurityAccess request of one byte is refused before the lockout check. -/
theorem process_shortAccess (hasks : r.Asks Sid.securityAccess) (hshort : r.bytes.length < 2) :
    udsHandlerProcess calculateKey h r =
      (h, ⟨udsBuildNegativeResponse Sid.securityAccess Nrc.incorrectMessageLength r.respCap, []⟩) := by
  have hserved : udsServiceSecurityAccess calculateKey h r = refuse h Nrc.incorrectMessageLength := if_pos hshort
  exact process_served (by simp [serviceTable]) hasks hserved

theorem process_keyWrong (hchecked : KeyChecked h r) (hkey : receivedKey r ≠ calculateKey h.seed)
    (hthird : securityAccessAttempts ≤ (clearExpired h).securityAttempts + 1) :
    udsHandlerProcess calculateKey h r = (countFailure (clearExpired h) r.platform.tickMs,
      ⟨udsBuildNegativeResponse Sid.securityAccess Nrc.exceedNumberOfAttempts r.respCap,
        lockoutCalls h r ++ [.calculateKey h.seed, .getTickMs r.platform.tickMs]⟩) := by
  have hlen := hchecked.length
  have hn : ¬ r.bytes.length < 6 := by omega
  have hbranch : ¬ securityLevel2 = securityLevel1 := by decide
  have hserved : udsServiceSecurityAccess calculateKey h r =
      ⟨countFailure (clearExpired h) r.platform.tickMs, .error Nrc.exceedNumberOfAttempts,
        lockoutCalls h r ++ [.calculateKey h.seed, .getTickMs r.platform.tickMs]⟩ := by
    rw [securityAccess_passed (by omega) hchecked.passed, securityAccessBody, hchecked.subFunction,
      if_neg hbranch, if_pos rfl, sendKey, if_neg hn, clearExpired_seed, if_neg hkey]
    dsimp only
    rw [if_pos hthird, countFailure, if_pos hthird, clearExpired_seed]
  exact process_served (by simp [serviceTable]) hchecked.asks hserved

theorem securityAccessBody_attempts {calls : List PlatformCall} (hzero : h.securityAttempts = 0) :
    (securityAccessBody calculateKey h r calls).handler.securityAttempts ≤ 1 := by
  unfold securityAccessBody requestSeed sendKey
  dsimp only
  repeat' split
  all_goals simp [hzero]

/-- Only a wrong key brings the attempts to the limit. -/
theorem KeyEffect.keyWrong_of_third {h' : UDSHandler} {reply : Reply} (heffect : KeyEffect calculateKey h r h' reply)
    (hfree : h.securityAttempts < securityAccessAttempts) (hlocks : securityAccessAttempts ≤ h'.securityAttempts) :
    KeyChecked h r ∧ receivedKey r ≠ calculateKey h.seed ∧
      securityAccessAttempts ≤ (clearExpired h).securityAttempts + 1 := by
  cases heffect with
  | other _ _ _ _ _ hattempts =>
    have hlt : h'.securityAttempts < securityAccessAttempts := by
      rcases hattempts with hsame | ⟨-, hsame⟩
      · rwa [hsame.attempts]
      · rw [hsame.attempts]
        exact clearExpired_attempts_lt h
    exact absurd hlocks (UInt8.not_le.mpr hlt)
  | seed => exact absurd hlocks (UInt8.not_le.mpr (clearExpired_attempts_lt h))
  | keyAccepted =>
    have hzero : ¬ securityAccessAttempts ≤ 0 := by decide
    exact absurd hlocks hzero
  | keyWrong _ hchecked hkey => exact ⟨hchecked, hkey, hlocks⟩

end Calls

section Lockout
variable {d : TemplateDevice} {q : TemplateRequest} {start : ℕ}

/-- The tick at which the lockout begins is read once. -/
theorem lockedSince_of_third (hfree : d.handler.securityAttempts < securityAccessAttempts)
    (hlocks : securityAccessAttempts ≤ (templateStep d q).1.handler.securityAttempts) :
    LockedSince d.reads (templateStep d q).1 ∧ (templateStep d q).1.reads = d.reads + 1 := by
  have hrunning : d.resetting = false := by
    by_contra hresetting
    rw [templateStep, if_pos (by simpa using hresetting)] at hlocks
    exact absurd hlocks (UInt8.not_le.mpr hfree)
  have htick : (d.request q).platform.tickMs = UInt32.ofNat d.reads := rfl
  obtain ⟨h', reply, heffect, hstep⟩ := key_step udsPlatformCalculateKey d.handler (d.request q)
  have hserved : udsHandlerProcess udsPlatformCalculateKey d.handler (d.request q) = (h', reply) :=
    congrArg (fun e => (e.post, e.output)) hstep
  rw [(templateStep_running hrunning hserved).1] at hlocks
  obtain ⟨hchecked, hkey, hthird⟩ := heffect.keyWrong_of_third hfree hlocks
  have hnone : lockoutCalls d.handler (d.request q) = [] := if_neg (UInt8.not_le.mpr hfree)
  rw [(templateStep_running hrunning (process_keyWrong hchecked hkey hthird)).1, hnone, htick]
  exact ⟨⟨rfl, hthird, if_pos hthird, Nat.lt_succ_self _⟩, rfl⟩

theorem lockoutPassed_iff (hlocked : LockedSince start d) (hsoon : d.reads ≤ start + 10000) (q : TemplateRequest) :
    LockoutPassed d.handler (d.request q) ↔ d.reads = start + 10000 := by
  have hlater := hlocked.later
  have hdelay : securityAccessDelayMs.toNat = 10000 := rfl
  have helapsed : (UInt32.ofNat d.reads - UInt32.ofNat start).toNat = d.reads - start := by
    rw [UInt32.toNat_sub, UInt32.toNat_ofNat', UInt32.toNat_ofNat']
    omega
  have htick : (d.request q).platform.tickMs = UInt32.ofNat d.reads := rfl
  rw [LockoutPassed, or_iff_right (UInt8.not_lt.mpr hlocked.attempts), hlocked.time, htick,
    UInt32.le_iff_toNat_le, helapsed, hdelay]
  omega

theorem locked_step (hlocked : LockedSince start d) {q : TemplateRequest}
    (hsoon : q.triesAccess = true → d.reads < start + 10000)
    (hrunning : (templateStep d q).1.resetting = false) :
    LockedSince start (templateStep d q).1 ∧
      (templateStep d q).1.reads = d.reads + if q.triesAccess then 1 else 0 := by
  have hlater := hlocked.later
  by_cases hasks : (d.request q).Asks Sid.securityAccess
  · by_cases hlen : 2 ≤ q.bytes.length
    · have htries : q.triesAccess = true := triesAccess_iff.mpr ⟨hasks, hlen⟩
      have hnot : ¬ LockoutPassed d.handler (d.request q) := by
        rw [lockoutPassed_iff hlocked (Nat.le_of_lt (hsoon htries))]
        exact Nat.ne_of_lt (hsoon htries)
      have hpost := (templateStep_running hlocked.running (process_locked hasks hlen hnot)).1
      rw [hpost, if_pos htries]
      exact ⟨⟨rfl, hlocked.attempts, hlocked.time, Nat.lt_succ_of_lt hlater⟩, rfl⟩
    · have htries : ¬ q.triesAccess = true := fun htries => hlen (triesAccess_iff.mp htries).2
      have hpost := (templateStep_running hlocked.running
        (process_shortAccess hasks (Nat.lt_of_not_le hlen))).1
      rw [hpost, if_neg htries]
      exact ⟨⟨rfl, hlocked.attempts, hlocked.time, hlater⟩, rfl⟩
  · have htries : ¬ q.triesAccess = true := fun htries => hasks (triesAccess_iff.mp htries).1
    obtain ⟨hpost, -, -⟩ := templateStep_running hlocked.running (Prod.eta _).symm
    have hsame := @sameAttempts_of_not_access udsPlatformCalculateKey d.handler (d.request q) hasks
    rw [hpost] at hrunning ⊢
    rw [reads_of_not_access hasks, if_neg htries]
    refine ⟨⟨hrunning, ?_, ?_, hlater⟩, rfl⟩
    · exact hsame.attempts ▸ hlocked.attempts
    · exact hsame.lockoutTime.trans hlocked.time

theorem run_resetting (hresetting : d.resetting = true) (qs : List TemplateRequest) :
    templateMachine.run d qs = d := by
  induction qs with
  | nil => rfl
  | cons q qs ih =>
    have hstep : (templateMachine.step d q).1 = d := by
      change (templateStep d q).1 = d
      rw [templateStep, if_pos hresetting]
    rw [Machine.run_cons, hstep, ih]

theorem locked_run (hlocked : LockedSince start d) (qs : List TemplateRequest)
    (hsoon : d.reads + qs.countP TemplateRequest.triesAccess ≤ start + 10000)
    (hrunning : (templateMachine.run d qs).resetting = false) :
    LockedSince start (templateMachine.run d qs) ∧
      (templateMachine.run d qs).reads = d.reads + qs.countP TemplateRequest.triesAccess := by
  induction qs generalizing d with
  | nil => exact ⟨hlocked, rfl⟩
  | cons q qs ih =>
    rw [Machine.run_cons, templateMachine_step] at hrunning ⊢
    rw [List.countP_cons] at hsoon ⊢
    have hkeeps : (templateStep d q).1.resetting = false := by
      by_contra hresetting
      rw [Bool.not_eq_false] at hresetting
      rw [run_resetting hresetting, hresetting] at hrunning
      exact absurd hrunning (by decide)
    have hsoon' : q.triesAccess = true → d.reads < start + 10000 := fun htries => by
      rw [if_pos htries] at hsoon
      omega
    obtain ⟨hlocked', hreads⟩ := locked_step hlocked hsoon' hkeeps
    obtain ⟨hlast, htotal⟩ := ih hlocked' (by rw [← Nat.add_assoc] at hsoon; omega) hrunning
    refine ⟨hlast, ?_⟩
    rw [htotal, hreads]
    omega

/-- An expired lockout forgets the attempts. -/
theorem restarts_of_passed (hrunning : d.resetting = false) (htries : q.triesAccess = true)
    (hpassed : LockoutPassed d.handler (d.request q)) (hthird : securityAccessAttempts ≤ d.handler.securityAttempts) :
    (templateStep d q).1.handler.securityAttempts ≤ 1 := by
  obtain ⟨hasks, hlen⟩ := triesAccess_iff.mp htries
  have hserved := @securityAccess_passed udsPlatformCalculateKey _ _ hlen hpassed
  have hentry : ⟨Sid.securityAccess, udsServiceSecurityAccess udsPlatformCalculateKey⟩ ∈
      serviceTable udsPlatformCalculateKey := by simp [serviceTable]
  rw [(templateStep_running hrunning (process_served hentry hasks hserved)).1]
  refine securityAccessBody_attempts ?_
  rw [clearExpired, if_pos hthird]

/-- **Lockout of the template platform.** Behind the third wrong key the next 9999 SecurityAccess requests of two
bytes or more are refused, with nothing but their tick read, whatever else is asked in between; the one after
them is let through with the attempts forgotten. -/
theorem template_lockout_counts {d d' : TemplateDevice} {q : TemplateRequest}
    (hfree : d.handler.securityAttempts < securityAccessAttempts)
    (hlocks : securityAccessAttempts ≤ (templateStep d q).1.handler.securityAttempts)
    {rs : List TemplateRequest} (hrun : templateMachine.run (templateStep d q).1 rs = d')
    (hrunning : d'.resetting = false) {next : TemplateRequest} (hnext : next.triesAccess = true) :
    (rs.countP TemplateRequest.triesAccess < 9999 →
      templateStep d' next = ({ d' with reads := d'.reads + 1 },
        ⟨udsBuildNegativeResponse Sid.securityAccess Nrc.requiredTimeDelayNotExpired next.respCap,
          [.getTickMs (UInt32.ofNat d'.reads)]⟩)) ∧
    (rs.countP TemplateRequest.triesAccess = 9999 →
      (templateStep d' next).1.handler.securityAttempts ≤ 1) := by
  obtain ⟨hlocked, hstart⟩ := lockedSince_of_third hfree hlocks
  have hafter : rs.countP TemplateRequest.triesAccess ≤ 9999 →
      LockedSince d.reads d' ∧ d'.reads = d.reads + 1 + rs.countP TemplateRequest.triesAccess := fun hcount => by
    subst hrun
    rw [← hstart]
    exact locked_run hlocked rs (by omega) hrunning
  obtain ⟨hasks, hlen⟩ := triesAccess_iff.mp hnext
  constructor
  · intro hcount
    obtain ⟨hlocked', hreads⟩ := hafter (Nat.le_of_lt hcount)
    have hnot : ¬ LockoutPassed d'.handler (d'.request next) := by
      rw [lockoutPassed_iff hlocked' (by omega)]
      omega
    obtain ⟨hpost, -, hreply⟩ := templateStep_running hrunning (process_locked hasks hlen hnot)
    refine Prod.ext (hpost.trans ?_) (hreply rfl)
    exact congrArg (TemplateDevice.mk d'.handler (d'.reads + 1)) hrunning.symm
  · intro hcount
    obtain ⟨hlocked', hreads⟩ := hafter (Nat.le_of_eq hcount)
    refine restarts_of_passed hrunning hnext ?_ hlocked'.attempts
    rw [lockoutPassed_iff hlocked' (by omega)]
    omega

/-- Three wrong keys, a TesterPresent and a first refused request for a seed; the second one is refused too. -/
theorem template_lockout_counts_second :
    let wrongKey : TemplateRequest := ⟨[0x27, 0x02, 0, 0, 0, 1], 64⟩
    let next : TemplateRequest := ⟨[0x27, 0x01], 64⟩
    let d := templateMachine.run .init [wrongKey, wrongKey]
    let d' := templateMachine.run (templateStep d wrongKey).1 [⟨[0x3E, 0x00], 64⟩, next]
    templateStep d' next = ({ d' with reads := d'.reads + 1 },
      ⟨some [0x7F, 0x27, 0x37], [.getTickMs (UInt32.ofNat d'.reads)]⟩) := by
  intro wrongKey next d d'
  exact (@template_lockout_counts d d' wrongKey (by decide) (by decide) [⟨[0x3E, 0x00], 64⟩, next] rfl
    (by decide) next (by decide)).1 (by decide)

end Lockout
end Mcus.Uds
