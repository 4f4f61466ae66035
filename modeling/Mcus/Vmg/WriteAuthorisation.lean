import Mcus.Vmg.ServiceRuns

/-! # What authorises a write

A session change is meant to reset the security, but `handleDiagnosticSessionControl` locks for the
default session only, and no session change touches the seed. So an unlock outlives the change to
another session, the key of an old seed fits again in a new session, and the initial seed zero has a key
before any seed was issued.
-/

namespace Mcus.Vmg
open ByteOrder Runs UDSServiceHandler
set_option autoImplicit false

/-- The key computed from an issued seed was sent. -/
structure KeyOfSeed (seedStep keyStep : ServiceStep) : Prop where
  issued : seedIssued seedStep = true
  sent : SendsKey keyStep.input.request
  complete : 6 ≤ keyStep.input.request.length
  key : receivedKey keyStep.input.request = keyOf seedStep.input.seed.value

/-- Since the last session change a seed was issued, and later its key was sent. -/
def Authorised (past : List ServiceStep) : Prop :=
  ∃ before seedStep between keyStep after,
    sinceLast sessionStarted past = before ++ seedStep :: (between ++ keyStep :: after) ∧
      KeyOfSeed seedStep keyStep

/-- Whatever write comes next, it is answered positively only if it is authorised. -/
def WritesAuthorised (past : List ServiceStep) (h : UDSServiceHandler) : Prop :=
  ∀ seed request, request.getD 0 0 = Sid.writeDataByIdentifier →
    (h.processRequest seed request).2.head? = some (Sid.writeDataByIdentifier + 0x40) → Authorised past

/-- A session other than the default one is started only while the handler is locked, and the key that
fits its seed is sent only if a seed was issued since the last session change. -/
structure KeepsAuthority (past : List ServiceStep) (h : UDSServiceHandler) (i : ServiceInput) : Prop where
  session : StartsSession i.request → i.request.getD 1 0 ≠ 0x01 → h.securityUnlocked = false
  key : SendsKey i.request → h.Fits i.request → ∃ e ∈ sinceLast sessionStarted past, seedIssued e = true

/-- The seed of the handler is the last one issued. -/
def HoldsLastSeed (past : List ServiceStep) (h : UDSServiceHandler) : Prop :=
  ∀ e, lastWhere seedIssued past = some e → h.securitySeed = e.input.seed.value

section Step
variable {past : List ServiceStep} {h : UDSServiceHandler} {i : ServiceInput}

theorem writesAuthorised_iff :
    WritesAuthorised past h ↔ (h.securityUnlocked = true → Authorised past) := by
  constructor
  · intro hwrites hunlocked
    refine hwrites ⟨0x10000000, by decide⟩ [Sid.writeDataByIdentifier, 0xF1, 0x90, 0x41] rfl ?_
    exact (write_positive_iff rfl).mpr ⟨by decide, hunlocked⟩
  · intro hauthorised seed request hsid hpositive
    exact hauthorised ((write_positive_iff hsid).mp hpositive).2

theorem holdsLastSeed_step (hseed : HoldsLastSeed past h) :
    HoldsLastSeed (past ++ [serviceMachine.stepAt h i]) (serviceMachine.stepAt h i).post := by
  intro e he
  rw [seed_step]
  by_cases hissues : IssuesSeed h i.request
  · rw [lastWhere_concat_pos (seedIssued_iff.mpr hissues)] at he
    obtain rfl := Option.some.inj he
    rw [if_pos hissues]
    rfl
  · rw [lastWhere_concat_neg (eq_false_of_ne_true (mt seedIssued_iff.mp hissues))] at he
    rw [if_neg hissues]
    exact hseed e he

theorem holdsLastSeed_run (data : EcuData) (inputs : List ServiceInput) :
    HoldsLastSeed (serviceMachine.trace (.construct data) inputs)
      (serviceMachine.run (.construct data) inputs) :=
  Machine.induction (P := HoldsLastSeed) (fun _ he => nomatch he) (fun _ _ _ => holdsLastSeed_step) inputs

theorem not_authorised_of_started {e : ServiceStep} (hstarted : sessionStarted e = true) :
    ¬ Authorised (past ++ [e]) := by
  rintro ⟨before, seedStep, between, keyStep, after, hsplit, -⟩
  rw [sinceLast_concat_pos hstarted] at hsplit
  simp at hsplit

theorem Authorised.concat {e : ServiceStep} (hstarted : sessionStarted e = false)
    (h : Authorised past) : Authorised (past ++ [e]) := by
  obtain ⟨before, seedStep, between, keyStep, after, hsplit, hkey⟩ := h
  refine ⟨before, seedStep, between, keyStep, after ++ [e], ?_, hkey⟩
  rw [sinceLast_concat_neg hstarted, hsplit]
  simp

/-- Behind a key that fits, a write is authorised if a seed was issued since the session began. -/
theorem authorised_concat_iff (hseed : HoldsLastSeed past h) (hsends : SendsKey i.request)
    (hfits : h.Fits i.request) : Authorised (past ++ [serviceMachine.stepAt h i]) ↔
      ∃ e ∈ sinceLast sessionStarted past, seedIssued e = true := by
  have hstarted : sessionStarted (serviceMachine.stepAt h i) = false :=
    eq_false_of_ne_true fun hstarted =>
      absurd ((sessionStarted_iff.mp hstarted).1.symm.trans hsends.1) (by decide)
  constructor
  · rintro ⟨before, seedStep, between, keyStep, after, hsplit, hkey⟩
    rw [sinceLast_concat_neg hstarted] at hsplit
    -- the key came behind the seed, so the seed is not the last step
    have hinit := congrArg List.dropLast hsplit
    rw [List.dropLast_concat, List.dropLast_append_of_ne_nil (by simp),
      List.dropLast_cons_of_ne_nil (by simp)] at hinit
    exact ⟨seedStep, by rw [hinit]; simp, hkey.issued⟩
  · rintro ⟨e, he, hissued⟩
    obtain ⟨seedStep, hmem, hlast⟩ := exists_lastWhere_sinceLast (p := sessionStarted) he hissued
    obtain ⟨before, between, hsplit⟩ := List.append_of_mem hmem
    refine ⟨before, seedStep, between, serviceMachine.stepAt h i, [], ?_,
      (mem_of_lastWhere hlast).2, hsends, hfits.1, ?_⟩
    · rw [sinceLast_concat_neg hstarted, hsplit]
      simp
    · rw [← hseed seedStep hlast]
      exact hfits.2

theorem keepsAuthority_iff (hseed : HoldsLastSeed past h) (hpast : WritesAuthorised past h) :
    WritesAuthorised (past ++ [serviceMachine.stepAt h i]) (serviceMachine.stepAt h i).post ↔
      KeepsAuthority past h i := by
  rw [writesAuthorised_iff, unlocked_after]
  by_cases hstarts : StartsSession i.request
  · have hsends : ¬ SendsKey i.request := fun hsends => absurd (hstarts.1.symm.trans hsends.1) (by decide)
    have hnever : ¬ Authorised (past ++ [serviceMachine.stepAt h i]) :=
      not_authorised_of_started (sessionStarted_iff.mpr hstarts)
    by_cases hdefault : i.request.getD 1 0 = 0x01
    · rw [if_pos ⟨hstarts.1, hdefault⟩]
      exact iff_of_true (fun hfalse => nomatch hfalse)
        ⟨fun _ hother => absurd hdefault hother, fun hkey => absurd hkey hsends⟩
    · rw [if_neg fun henters => hdefault henters.2, if_neg fun hkey => hsends hkey.1]
      constructor
      · intro hkeeps
        exact ⟨fun _ _ => eq_false_of_ne_true fun hunlocked => hnever (hkeeps hunlocked),
          fun hkey => absurd hkey hsends⟩
      · intro hkeeps hunlocked
        exact absurd hunlocked (by rw [hkeeps.session hstarts hdefault]; decide)
  have henters : ¬ EntersDefault i.request := fun henters =>
    hstarts ⟨henters.1, by rw [henters.2]; decide⟩
  rw [if_neg henters]
  by_cases hkey : SendsKey i.request ∧ h.Fits i.request
  · rw [if_pos hkey]
    constructor
    · intro hkeeps
      exact ⟨fun h => absurd h hstarts, fun _ _ => (authorised_concat_iff hseed hkey.1 hkey.2).mp (hkeeps rfl)⟩
    · intro hkeeps _
      exact (authorised_concat_iff hseed hkey.1 hkey.2).mpr (hkeeps.key hkey.1 hkey.2)
  · rw [if_neg hkey]
    have hstarted : sessionStarted (serviceMachine.stepAt h i) = false :=
      eq_false_of_ne_true (mt sessionStarted_iff.mp hstarts)
    exact iff_of_true (fun hunlocked => (writesAuthorised_iff.mp hpast hunlocked).concat hstarted)
      ⟨fun h => absurd h hstarts, fun hsends hfits => absurd ⟨hsends, hfits⟩ hkey⟩

end Step

/-- **Write authorisation.** At every point of a run only an authorised write is answered positively,
exactly when no session but the default one is ever started unlocked and no key is ever accepted for a
seed that was issued before the last session change, or never. -/
theorem write_authorisation_iff (data : EcuData) (inputs : List ServiceInput) :
    (∀ past, past <+: inputs → WritesAuthorised (serviceMachine.trace (.construct data) past)
      (serviceMachine.run (.construct data) past)) ↔
      serviceMachine.Admits KeepsAuthority (.construct data) inputs := by
  refine Machine.admits_iff_forall_prefix (writesAuthorised_iff.mpr fun hunlocked => nomatch hunlocked) ?_
  intro past i _ _ _ hpast
  rw [Machine.trace_concat, Machine.run_concat]
  exact keepsAuthority_iff (holdsLastSeed_run data past) hpast

/-- The key of the seed zero, sent to a handler that never issued a seed. -/
theorem unissued_seed_authorises :
    ¬ ∀ past, past <+: [(⟨⟨0x10000000, by decide⟩, [0x27, 0x02, 0xAB, 0xCD, 0x12, 0x34]⟩ : ServiceInput)] →
      WritesAuthorised (serviceMachine.trace (.construct ⟨[], [], [], [], fun _ => none⟩) past)
        (serviceMachine.run (.construct ⟨[], [], [], [], fun _ => none⟩) past) := by
  intro hall
  obtain ⟨before, seedStep, between, keyStep, after, hsplit, hkey⟩ :=
    writesAuthorised_iff.mp (hall _ (List.prefix_refl _)) (by decide)
  have hmem := mem_of_mem_sinceLast (hsplit ▸ List.mem_append_right before List.mem_cons_self)
  obtain rfl := List.mem_singleton.mp hmem
  exact absurd hkey.issued (by decide)

end Mcus.Vmg
