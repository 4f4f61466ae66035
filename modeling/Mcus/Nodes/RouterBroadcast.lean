import Mcus.Nodes.DiagnosticRouter

/-! # Whom a broadcast reaches

A broadcast goes to the connected entries. Activity connects the first entry of an address only, so that
an address registered several times is reached once, and one without activity since its registration not
at all.
-/

namespace Mcus.Nodes
open FirstMatch Runs
set_option autoImplicit false

/-- `update_activity` of the address, or an accepted `route_to_vmg` from it. -/
def names (logicalAddress : UInt16) (e : RouterStep) : Bool :=
  match e.input with
  | .updateActivity address => address == logicalAddress
  | .routeToVmg source _ _ => source == logicalAddress && e.output.code == 0
  | _ => false

def Registered (past : List RouterStep) (logicalAddress : UInt16) : Prop :=
  ∃ e ∈ past, registers logicalAddress e = true

/-- Behind a registration of the address, something named it. -/
def ActiveSince (past : List RouterStep) (logicalAddress : UInt16) : Prop :=
  ∃ before e after, past = before ++ e :: after ∧ names logicalAddress e = true ∧ Registered before logicalAddress

/-- What a broadcast of some data does. -/
structure ReachesActive (past : List RouterStep) (router : DiagnosticRouter)
    (r : DiagnosticRouter × RouterResult) : Prop where
  once : (r.2.targets.map (·.logicalAddress)).Nodup
  active : ∀ logicalAddress, logicalAddress ∈ r.2.targets.map (·.logicalAddress) ↔ ActiveSince past logicalAddress
  code : r.2.code = r.2.targets.length
  counted : r.1.routedToEcu = router.routedToEcu + UInt32.ofNat r.2.targets.length

section History
variable {past : List RouterStep} {x : RouterStep} {logicalAddress : UInt16}

theorem registered_concat : Registered (past ++ [x]) logicalAddress ↔
    Registered past logicalAddress ∨ registers logicalAddress x = true := by
  simp [Registered, or_and_right, exists_or]

theorem activeSince_concat : ActiveSince (past ++ [x]) logicalAddress ↔
    ActiveSince past logicalAddress ∨ names logicalAddress x = true ∧ Registered past logicalAddress := by
  have hsplit := forall_split_concat (l := past) (x := x)
    (P := fun before e => ¬ (names logicalAddress e = true ∧ Registered before logicalAddress))
  have hactive : ∀ past, ActiveSince past logicalAddress ↔ ¬ ∀ before e after, past = before ++ e :: after →
      ¬ (names logicalAddress e = true ∧ Registered before logicalAddress) := by
    intro past
    unfold ActiveSince
    push Not
    rfl
  rw [hactive, hactive, hsplit, not_and_or, not_not]

theorem ActiveSince.registered (h : ActiveSince past logicalAddress) : Registered past logicalAddress := by
  obtain ⟨before, e, after, rfl, -, r, hr, hregisters⟩ := h
  exact ⟨r, List.mem_append_left _ hr, hregisters⟩

end History

/-! ## The invariant -/

/-- The table holds the registered addresses, and connected are the first entries of the active ones. -/
structure TracksActivity (past : List RouterStep) (router : DiagnosticRouter) : Prop where
  keys : ∀ logicalAddress, logicalAddress ∈ router.ecus.map (·.logicalAddress) ↔ Registered past logicalAddress
  flags : FlagsFirsts (·.logicalAddress) (·.isConnected) (ActiveSince past) router.ecus

section Invariant
variable {past : List RouterStep} {router router' : DiagnosticRouter} {x : RouterStep}

/-- A call that neither registers nor names an address, and leaves the table alone. -/
theorem TracksActivity.of_kept (h : TracksActivity past router)
    (hregisters : ∀ logicalAddress, registers logicalAddress x = false)
    (hnames : ∀ logicalAddress, names logicalAddress x = false) (hecus : router'.ecus = router.ecus) :
    TracksActivity (past ++ [x]) router' where
  keys logicalAddress := by
    rw [hecus, h.keys, registered_concat, hregisters, or_iff_left Bool.false_ne_true]
  flags := by
    rw [hecus]
    refine h.flags.congr fun logicalAddress _ => ?_
    rw [activeSince_concat, hnames]
    exact (or_iff_left fun hnamed => Bool.false_ne_true hnamed.1).symm

/-- A call that appends an entry. Its address may be one that is active already. -/
theorem TracksActivity.of_appended {entry : ECURoutingEntry} (h : TracksActivity past router)
    (hecus : router'.ecus = router.ecus ++ [entry]) (hnames : ∀ logicalAddress, names logicalAddress x = false)
    (hregisters : ∀ logicalAddress, registers logicalAddress x = true ↔ entry.logicalAddress = logicalAddress)
    (hentry : entry.isConnected = false) : TracksActivity (past ++ [x]) router' where
  keys logicalAddress := by
    rw [hecus, List.map_append, List.mem_append, h.keys, List.map_singleton, List.mem_singleton,
      registered_concat, hregisters, eq_comm]
  flags := by
    have hsame (logicalAddress : UInt16) :
        ActiveSince (past ++ [x]) logicalAddress ↔ ActiveSince past logicalAddress := by
      rw [activeSince_concat, hnames]
      exact or_iff_left fun hnamed => Bool.false_ne_true hnamed.1
    rw [hecus, flagsFirsts_concat]
    refine ⟨h.flags.congr fun logicalAddress _ => (hsame logicalAddress).symm, iff_of_false ?_ ?_⟩
    · rw [hentry]
      exact Bool.false_ne_true
    · rintro ⟨hnew, hactive⟩
      exact hnew ((h.keys _).mpr ((hsame _).mp hactive).registered)

/-- A call that names an address. Where no entry has it, nothing happens. -/
theorem TracksActivity.of_touched {logicalAddress : UInt16} (h : TracksActivity past router)
    (hecus : router'.ecus = (diagnosticRouterUpdateActivity router logicalAddress).ecus)
    (hregisters : ∀ address, registers address x = false)
    (hnames : ∀ address, names address x = true ↔ logicalAddress = address) :
    TracksActivity (past ++ [x]) router' := by
  have hkeys : router'.ecus.map (·.logicalAddress) = router.ecus.map (·.logicalAddress) := by
    rw [hecus]
    exact updateFirst_keys fun _ => rfl
  constructor
  · intro address
    rw [hkeys, h.keys, registered_concat, hregisters, or_iff_left Bool.false_ne_true]
  · have hflags := h.flags.updateFirst (k := logicalAddress) (f := ECURoutingEntry.active)
      (fun _ => rfl) fun _ => rfl
    rw [hecus]
    refine hflags.congr fun address haddress => ?_
    have hregistered : Registered past address := (h.keys address).mp (hkeys ▸ hecus ▸ haddress)
    rw [activeSince_concat, hnames, and_iff_left hregistered, eq_comm]

theorem tracksActivity_step (past : List RouterStep) (router : DiagnosticRouter) (call : RouterCall)
    (h : TracksActivity past router) :
    TracksActivity (past ++ [routerMachine.stepAt router call]) (routerMachine.stepAt router call).post := by
  have heffect := tableEffect router call
  change TracksActivity
    (past ++ [⟨router, call, (routerMachine.step router call).2, (routerMachine.step router call).1⟩])
    (routerMachine.step router call).1
  generalize routerMachine.step router call = r at heffect ⊢
  cases heffect with
  | registered ecuId logicalAddress router' hroom hecus =>
    refine h.of_appended hecus (fun _ => rfl) (fun address => ?_) rfl
    simp [registers]
  | refused ecuId logicalAddress hfull =>
    exact h.of_kept (registers_eq_false_of_refused (show (-1 : Int) ≠ 0 by decide)) (fun _ => rfl) rfl
  | touched call logicalAddress r hcall hcode hecus =>
    refine h.of_touched hecus (registers_eq_false (ne_registerEcu hcall)) fun address => ?_
    rcases hcall with rfl | ⟨target, uds, rfl, -⟩
    · simp [names]
    · simp [names, hcode]
  | kept call r hcall hupdate hroute hecus =>
    refine h.of_kept (registers_eq_false hcall) (fun logicalAddress => ?_) hecus
    unfold names
    split
    case h_1 address hinput => exact absurd hinput (hupdate address)
    case h_2 source target uds hinput =>
      rw [beq_eq_false_iff_ne.mpr (hroute source target uds hinput), Bool.and_false]
    case h_3 => rfl

theorem tracksActivity_run (calls : List RouterCall) :
    TracksActivity (routerMachine.trace diagnosticRouterInit calls)
      (routerMachine.run diagnosticRouterInit calls) :=
  Machine.induction ⟨fun _ => by simp [Registered, diagnosticRouterInit], flagsFirsts_nil⟩
    tracksActivity_step calls

theorem TracksActivity.reachesActive {uds : List UInt8} (h : TracksActivity past router)
    (sourceAddress : UInt16) (huds : uds ≠ []) :
    ReachesActive past router (diagnosticRouterBroadcast router sourceAddress (some uds)) := by
  obtain ⟨hnodup, hmem⟩ := h.flags.flagged
  have hsent : diagnosticRouterBroadcast router sourceAddress (some uds) =
      ({ router with
          routedToEcu := router.routedToEcu + UInt32.ofNat (router.ecus.filter (·.isConnected)).length },
        ⟨(router.ecus.filter (·.isConnected)).length, router.ecus.filter (·.isConnected)⟩) := by
    unfold diagnosticRouterBroadcast
    rw [noData_some huds, if_neg Bool.false_ne_true]
  rw [hsent]
  refine ⟨hnodup, fun logicalAddress => ?_, rfl, rfl⟩
  rw [hmem, h.keys]
  exact and_iff_right_of_imp ActiveSince.registered

end Invariant

/-- **Broadcast.** Behind any run, data that are not empty go once to each address that was active since
its first registration, and to no other. -/
theorem broadcast_reachesActive (calls : List RouterCall) (sourceAddress : UInt16) (uds : List UInt8)
    (huds : uds ≠ []) :
    ReachesActive (routerMachine.trace diagnosticRouterInit calls) (routerMachine.run diagnosticRouterInit calls)
      (diagnosticRouterBroadcast (routerMachine.run diagnosticRouterInit calls) sourceAddress (some uds)) :=
  (tracksActivity_run calls).reachesActive sourceAddress huds

/-- Two registrations of one address, which speaks, and one of an address that does not. -/
def duplicateCalls : List RouterCall :=
  [.registerEcu (some [0x41]) 0x0301, .registerEcu (some [0x42]) 0x0301, .registerEcu (some [0x43]) 0x0302,
    .updateActivity 0x0301]

theorem broadcast_reachesActive_duplicate :
    ReachesActive (routerMachine.trace diagnosticRouterInit duplicateCalls)
      (routerMachine.run diagnosticRouterInit duplicateCalls)
      (diagnosticRouterBroadcast (routerMachine.run diagnosticRouterInit duplicateCalls) 0x0E80
        (some [0x3E, 0x00])) ∧
    (diagnosticRouterBroadcast (routerMachine.run diagnosticRouterInit duplicateCalls) 0x0E80
      (some [0x3E, 0x00])).2.code = 1 :=
  ⟨broadcast_reachesActive duplicateCalls 0x0E80 [0x3E, 0x00] (by decide), by decide⟩

end Mcus.Nodes
