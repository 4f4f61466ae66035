import Mcus.Foundations.FirstMatch

/-! # The diagnostic router

`diagnostic_router.c` of the zonal gateway. The table is the entries in use, in order of registration; an
identifier is its bytes up to the terminator. The clock of the source always reads 0, and sending is left
to a comment, so a result lists the entries that a message goes to. A null router, the data of a pending
request and the messages printed are left out.
-/

namespace Mcus.Nodes
open FirstMatch Runs
set_option autoImplicit false

abbrev diagRouterMaxEcus : ℕ := 32
abbrev diagRouterTimeoutMs : UInt32 := 5000
abbrev diagRouterMaxPending : ℕ := 16

/-- `ECURoutingEntry_t`. -/
structure ECURoutingEntry where
  ecuId : List UInt8
  logicalAddress : UInt16
  isConnected : Bool
  lastActivityTimeMs : UInt32
  deriving DecidableEq, Repr

/-- `PendingDiagRequest_t`. -/
structure PendingDiagRequest where
  sourceAddress : UInt16
  targetAddress : UInt16
  timestampMs : UInt32
  isActive : Bool
  deriving DecidableEq, Repr

/-- `DiagnosticRouter_t`. -/
structure DiagnosticRouter where
  ecus : List ECURoutingEntry
  pending : List PendingDiagRequest
  totalRequests : UInt32
  routedToEcu : UInt32
  routedToVmg : UInt32
  routingErrors : UInt32
  deriving DecidableEq, Repr

/-- The return value, 0 where there is none, and the entries that a message goes to. -/
structure RouterResult where
  code : Int
  targets : List ECURoutingEntry
  deriving DecidableEq, Repr

def getCurrentTimeMs : UInt32 := 0

def diagnosticRouterInit : DiagnosticRouter :=
  ⟨[], List.replicate diagRouterMaxPending ⟨0, 0, 0, false⟩, 0, 0, 0, 0⟩

def ECURoutingEntry.active (entry : ECURoutingEntry) : ECURoutingEntry :=
  { entry with
    lastActivityTimeMs := getCurrentTimeMs
    isConnected := true }

section Operations
variable (router : DiagnosticRouter)

def diagnosticRouterFindEcu (logicalAddress : UInt16) : Option ECURoutingEntry :=
  find (·.logicalAddress) logicalAddress router.ecus

def diagnosticRouterUpdateActivity (logicalAddress : UInt16) : DiagnosticRouter :=
  { router with ecus := updateFirst (·.logicalAddress) logicalAddress ECURoutingEntry.active router.ecus }

def diagnosticRouterRegisterEcu (ecuId : Option (List UInt8)) (logicalAddress : UInt16) :
    DiagnosticRouter × RouterResult :=
  match ecuId with
  | none => (router, ⟨-1, []⟩)
  | some ecuId =>
    if diagRouterMaxEcus ≤ router.ecus.length then (router, ⟨-1, []⟩)
    else ({ router with ecus := router.ecus ++ [⟨ecuId.take 31, logicalAddress, false, 0⟩] }, ⟨0, []⟩)

/-- `!uds_data || uds_len == 0`. -/
def noData (uds : Option (List UInt8)) : Bool := uds.all (·.isEmpty)

def diagnosticRouterRouteToEcu (_sourceAddress targetAddress : UInt16) (uds : Option (List UInt8)) :
    DiagnosticRouter × RouterResult :=
  if noData uds then (router, ⟨-1, []⟩)
  else
    let router := { router with totalRequests := router.totalRequests + 1 }
    match diagnosticRouterFindEcu router targetAddress with
    | none => ({ router with routingErrors := router.routingErrors + 1 }, ⟨-1, []⟩)
    | some ecu => ({ router with routedToEcu := router.routedToEcu + 1 }, ⟨0, [ecu]⟩)

def diagnosticRouterRouteToVmg (sourceAddress _targetAddress : UInt16) (uds : Option (List UInt8)) :
    DiagnosticRouter × RouterResult :=
  if noData uds then (router, ⟨-1, []⟩)
  else
    let router := diagnosticRouterUpdateActivity router sourceAddress
    ({ router with routedToVmg := router.routedToVmg + 1 }, ⟨0, []⟩)

def diagnosticRouterBroadcast (_sourceAddress : UInt16) (uds : Option (List UInt8)) :
    DiagnosticRouter × RouterResult :=
  if noData uds then (router, ⟨-1, []⟩)
  else
    let targets := router.ecus.filter (·.isConnected)
    let sentCount := targets.length
    ({ router with routedToEcu := router.routedToEcu + UInt32.ofNat sentCount }, ⟨sentCount, targets⟩)

def timedOut (req : PendingDiagRequest) : Bool :=
  req.isActive && decide (getCurrentTimeMs - req.timestampMs > diagRouterTimeoutMs)

def diagnosticRouterCheckTimeouts : DiagnosticRouter :=
  { router with
    pending := router.pending.map fun req => if timedOut req then { req with isActive := false } else req
    routingErrors := router.routingErrors + UInt32.ofNat (router.pending.countP timedOut) }

end Operations

inductive RouterCall
  | registerEcu (ecuId : Option (List UInt8)) (logicalAddress : UInt16)
  | routeToEcu (sourceAddress targetAddress : UInt16) (uds : Option (List UInt8))
  | routeToVmg (sourceAddress targetAddress : UInt16) (uds : Option (List UInt8))
  | broadcast (sourceAddress : UInt16) (uds : Option (List UInt8))
  | findEcu (logicalAddress : UInt16)
  | updateActivity (logicalAddress : UInt16)
  | checkTimeouts

def routerMachine : Machine DiagnosticRouter RouterCall RouterResult where
  step router
    | .registerEcu ecuId logicalAddress => diagnosticRouterRegisterEcu router ecuId logicalAddress
    | .routeToEcu source target uds => diagnosticRouterRouteToEcu router source target uds
    | .routeToVmg source target uds => diagnosticRouterRouteToVmg router source target uds
    | .broadcast source uds => diagnosticRouterBroadcast router source uds
    | .findEcu _ => (router, ⟨0, []⟩)
    | .updateActivity logicalAddress => (diagnosticRouterUpdateActivity router logicalAddress, ⟨0, []⟩)
    | .checkTimeouts => (diagnosticRouterCheckTimeouts router, ⟨0, []⟩)

abbrev RouterStep := Step DiagnosticRouter RouterCall RouterResult

/-- A registration under the address that returned 0. -/
def registers (logicalAddress : UInt16) (e : RouterStep) : Bool :=
  match e.input with
  | .registerEcu _ address => address == logicalAddress && e.output.code == 0
  | _ => false

/-- The ECU registered last under an address is found there, and reached by a request. -/
def FindsLast (past : List RouterStep) (router : DiagnosticRouter) : Prop :=
  ∀ logicalAddress e ecuId, lastWhere (registers logicalAddress) past = some e →
    e.input = .registerEcu (some ecuId) logicalAddress →
      ∃ entry, diagnosticRouterFindEcu router logicalAddress = some entry ∧ entry.ecuId = ecuId.take 31 ∧
        ∀ source uds, uds ≠ [] →
          (diagnosticRouterRouteToEcu router source logicalAddress (some uds)).2 = ⟨0, [entry]⟩

/-- While there is room, an address that is taken is registered only with the identifier found there. -/
def RepeatsIdentifier (router : DiagnosticRouter) : RouterCall → Prop
  | .registerEcu (some ecuId) logicalAddress => router.ecus.length < diagRouterMaxEcus →
      ∀ entry, diagnosticRouterFindEcu router logicalAddress = some entry → entry.ecuId = ecuId.take 31
  | _ => True

/-! ## What a call does to the table -/

/-- The kinds of call, by what they do to the table. -/
inductive TableEffect (router : DiagnosticRouter) : RouterCall → DiagnosticRouter × RouterResult → Prop
  | registered (ecuId : List UInt8) (logicalAddress : UInt16) (router' : DiagnosticRouter)
      (hroom : router.ecus.length < diagRouterMaxEcus)
      (hecus : router'.ecus = router.ecus ++ [⟨ecuId.take 31, logicalAddress, false, 0⟩]) :
      TableEffect router (.registerEcu (some ecuId) logicalAddress) (router', ⟨0, []⟩)
  | refused (ecuId : Option (List UInt8)) (logicalAddress : UInt16)
      (hfull : ecuId = none ∨ diagRouterMaxEcus ≤ router.ecus.length) :
      TableEffect router (.registerEcu ecuId logicalAddress) (router, ⟨-1, []⟩)
  | touched (call : RouterCall) (logicalAddress : UInt16) (r : DiagnosticRouter × RouterResult)
      (hcall : call = .updateActivity logicalAddress ∨
        ∃ target uds, call = .routeToVmg logicalAddress target uds ∧ noData uds = false)
      (hcode : r.2.code = 0)
      (hecus : r.1.ecus = (diagnosticRouterUpdateActivity router logicalAddress).ecus) : TableEffect router call r
  | kept (call : RouterCall) (r : DiagnosticRouter × RouterResult)
      (hcall : ∀ ecuId logicalAddress, call ≠ .registerEcu ecuId logicalAddress)
      (hupdate : ∀ logicalAddress, call ≠ .updateActivity logicalAddress)
      (hroute : ∀ source target uds, call = .routeToVmg source target uds → r.2.code ≠ 0)
      (hecus : r.1.ecus = router.ecus) : TableEffect router call r

theorem tableEffect (router : DiagnosticRouter) (call : RouterCall) :
    TableEffect router call (routerMachine.step router call) := by
  cases call with
  | registerEcu ecuId logicalAddress =>
    change TableEffect router _ (diagnosticRouterRegisterEcu router ecuId logicalAddress)
    cases ecuId with
    | none => exact .refused none logicalAddress (Or.inl rfl)
    | some ecuId =>
      unfold diagnosticRouterRegisterEcu
      dsimp only
      split
      case isTrue hfull => exact .refused (some ecuId) logicalAddress (Or.inr hfull)
      case isFalse hroom => exact .registered ecuId logicalAddress _ (Nat.lt_of_not_le hroom) rfl
  | routeToEcu source target uds =>
    change TableEffect router _ (diagnosticRouterRouteToEcu router source target uds)
    refine .kept _ _ nofun nofun nofun ?_
    unfold diagnosticRouterRouteToEcu
    dsimp only
    split
    case isTrue => rfl
    case isFalse => split <;> rfl
  | routeToVmg source target uds =>
    change TableEffect router _ (diagnosticRouterRouteToVmg router source target uds)
    unfold diagnosticRouterRouteToVmg
    cases hdata : noData uds with
    | true => exact .kept _ _ nofun nofun (fun _ _ _ _ => show (-1 : Int) ≠ 0 by decide) rfl
    | false => exact .touched _ source _ (Or.inr ⟨target, uds, rfl, hdata⟩) rfl rfl
  | broadcast source uds =>
    change TableEffect router _ (diagnosticRouterBroadcast router source uds)
    refine .kept _ _ nofun nofun nofun ?_
    unfold diagnosticRouterBroadcast
    dsimp only
    split <;> rfl
  | findEcu logicalAddress => exact .kept _ _ nofun nofun nofun rfl
  | updateActivity logicalAddress => exact .touched _ logicalAddress _ (Or.inl rfl) rfl rfl
  | checkTimeouts => exact .kept _ _ nofun nofun nofun rfl

/-- A call that touches an entry registers none. -/
theorem ne_registerEcu {call : RouterCall} {logicalAddress : UInt16}
    (hcall : call = .updateActivity logicalAddress ∨
      ∃ target uds, call = .routeToVmg logicalAddress target uds ∧ noData uds = false)
    (ecuId : Option (List UInt8)) (address : UInt16) : call ≠ .registerEcu ecuId address := by
  rcases hcall with rfl | ⟨target, uds, rfl, -⟩ <;> exact nofun

/-! ## Finding the last registration -/

section FindsLast
variable {router : DiagnosticRouter} {past : List RouterStep} {x : RouterStep}

theorem noData_some {uds : List UInt8} (huds : uds ≠ []) : noData (some uds) = false := by
  cases uds with
  | nil => exact absurd rfl huds
  | cons b rest => rfl

theorem routeToEcu_of_find {source target : UInt16} {uds : List UInt8} {entry : ECURoutingEntry}
    (hfind : diagnosticRouterFindEcu router target = some entry) (huds : uds ≠ []) :
    (diagnosticRouterRouteToEcu router source target (some uds)).2 = ⟨0, [entry]⟩ := by
  have hcounted : ∀ n, diagnosticRouterFindEcu { router with totalRequests := n } target = some entry :=
    fun _ => hfind
  unfold diagnosticRouterRouteToEcu
  rw [noData_some huds, if_neg Bool.false_ne_true]
  dsimp only
  rw [hcounted]

theorem find_active {logicalAddress address : UInt16} :
    find (·.logicalAddress) address
        (updateFirst (·.logicalAddress) logicalAddress ECURoutingEntry.active router.ecus) =
      if address = logicalAddress then
        (find (·.logicalAddress) address router.ecus).map ECURoutingEntry.active
      else find (·.logicalAddress) address router.ecus :=
  find_updateFirst fun _ => rfl

/-- What the property asks for one address. -/
theorem findsLast_of_find (h : ∀ logicalAddress e ecuId, lastWhere (registers logicalAddress) past = some e →
    e.input = .registerEcu (some ecuId) logicalAddress →
      ∃ entry, diagnosticRouterFindEcu router logicalAddress = some entry ∧ entry.ecuId = ecuId.take 31) :
    FindsLast past router := by
  intro logicalAddress e ecuId he hinput
  obtain ⟨entry, hfind, hid⟩ := h logicalAddress e ecuId he hinput
  exact ⟨entry, hfind, hid, fun source uds => routeToEcu_of_find hfind⟩

/-- A call that registers nothing and keeps the identifiers that are found. -/
theorem FindsLast.concat {router' : DiagnosticRouter} (h : FindsLast past router)
    (hregisters : ∀ logicalAddress, registers logicalAddress x = false)
    (hfind : ∀ logicalAddress entry, diagnosticRouterFindEcu router logicalAddress = some entry →
      ∃ entry', diagnosticRouterFindEcu router' logicalAddress = some entry' ∧ entry'.ecuId = entry.ecuId) :
    FindsLast (past ++ [x]) router' := by
  refine findsLast_of_find fun logicalAddress e ecuId he hinput => ?_
  rw [lastWhere_concat_neg (hregisters logicalAddress)] at he
  obtain ⟨entry, hentry, hid, -⟩ := h logicalAddress e ecuId he hinput
  obtain ⟨entry', hentry', hsame⟩ := hfind logicalAddress entry hentry
  exact ⟨entry', hentry', hsame.trans hid⟩

theorem registers_eq_false (hcall : ∀ ecuId logicalAddress, x.input ≠ .registerEcu ecuId logicalAddress)
    (logicalAddress : UInt16) : registers logicalAddress x = false := by
  unfold registers
  split
  case h_1 ecuId address hinput => exact absurd hinput (hcall ecuId address)
  case h_2 => rfl

theorem registers_eq_false_of_refused (hcode : x.output.code ≠ 0) (logicalAddress : UInt16) :
    registers logicalAddress x = false := by
  unfold registers
  split
  case h_1 => rw [beq_eq_false_iff_ne.mpr hcode, Bool.and_false]
  case h_2 => rfl

/-- A registration appends its entry, and an entry of its address that stands before it is still found. -/
theorem findsLast_registered {ecuId : List UInt8} {logicalAddress : UInt16} {router' : DiagnosticRouter}
    (hroom : router.ecus.length < diagRouterMaxEcus)
    (hecus : router'.ecus = router.ecus ++ [⟨ecuId.take 31, logicalAddress, false, 0⟩])
    (h : FindsLast past router) :
    FindsLast (past ++ [⟨router, .registerEcu (some ecuId) logicalAddress, ⟨0, []⟩, router'⟩]) router' ↔
      RepeatsIdentifier router (.registerEcu (some ecuId) logicalAddress) := by
  have hfind : ∀ address, diagnosticRouterFindEcu router' address =
      (diagnosticRouterFindEcu router address).or
        (if logicalAddress = address then some ⟨ecuId.take 31, logicalAddress, false, 0⟩ else none) := by
    intro address
    rw [diagnosticRouterFindEcu, hecus]
    exact find_concat
  have hmine : registers logicalAddress
      ⟨router, .registerEcu (some ecuId) logicalAddress, ⟨0, []⟩, router'⟩ = true := by simp [registers]
  constructor
  · intro hlast _ entry hentry
    obtain ⟨entry', hentry', hid, -⟩ := hlast logicalAddress _ ecuId (lastWhere_concat_pos hmine past) rfl
    rw [hfind, hentry, Option.some_or] at hentry'
    exact (Option.some.inj hentry') ▸ hid
  · intro hrepeats
    refine findsLast_of_find fun address e id he hinput => ?_
    rw [hfind]
    by_cases haddress : logicalAddress = address
    · subst haddress
      rw [lastWhere_concat_pos hmine] at he
      obtain rfl := Option.some.inj he
      obtain ⟨hid, -⟩ := RouterCall.registerEcu.inj hinput
      obtain rfl := Option.some.inj hid
      rw [if_pos rfl]
      cases hfound : diagnosticRouterFindEcu router logicalAddress with
      | none => exact ⟨_, rfl, rfl⟩
      | some entry => exact ⟨entry, rfl, hrepeats hroom entry hfound⟩
    · have hother : registers address
          ⟨router, .registerEcu (some ecuId) logicalAddress, ⟨0, []⟩, router'⟩ = false := by
        simp [registers, haddress]
      rw [lastWhere_concat_neg hother] at he
      obtain ⟨entry, hentry, hid, -⟩ := h address e id he hinput
      rw [hentry]
      exact ⟨entry, rfl, hid⟩

/-- One more call keeps the property exactly if it repeats the identifier of an address that is taken. -/
theorem findsLast_step (call : RouterCall) (h : FindsLast past router) :
    FindsLast (past ++ [routerMachine.stepAt router call]) (routerMachine.step router call).1 ↔
      RepeatsIdentifier router call := by
  have heffect := tableEffect router call
  change FindsLast
    (past ++ [⟨router, call, (routerMachine.step router call).2, (routerMachine.step router call).1⟩]) _ ↔ _
  generalize routerMachine.step router call = r at heffect ⊢
  cases heffect with
  | registered ecuId logicalAddress router' hroom hecus => exact findsLast_registered hroom hecus h
  | refused ecuId logicalAddress hfull =>
    refine iff_of_true ?_ ?_
    · exact h.concat (registers_eq_false_of_refused (show (-1 : Int) ≠ 0 by decide))
        fun _ entry hentry => ⟨entry, hentry, rfl⟩
    · cases ecuId with
      | none => trivial
      | some ecuId => exact fun hroom => absurd (hfull.resolve_left nofun) (Nat.not_le.mpr hroom)
  | touched call logicalAddress r hcall hcode hecus =>
    refine iff_of_true (h.concat (registers_eq_false (ne_registerEcu hcall)) ?_) ?_
    · intro address entry hentry
      rw [diagnosticRouterFindEcu, hecus, diagnosticRouterUpdateActivity, find_active]
      rw [diagnosticRouterFindEcu] at hentry
      split
      case isTrue => exact ⟨entry.active, by rw [hentry, Option.map_some], rfl⟩
      case isFalse => exact ⟨entry, hentry, rfl⟩
    · rcases hcall with rfl | ⟨target, uds, rfl, -⟩ <;> trivial
  | kept call r hcall hupdate hroute hecus =>
    refine iff_of_true ?_ ?_
    · refine h.concat (registers_eq_false hcall) fun address entry hentry => ⟨entry, ?_, rfl⟩
      rw [diagnosticRouterFindEcu, hecus]
      exact hentry
    · cases call with
      | registerEcu ecuId logicalAddress => exact absurd rfl (hcall ecuId logicalAddress)
      | _ => trivial

end FindsLast

/-- **Registration.** At every point of a run each address leads to the ECU registered last under it,
exactly if no address is registered again with another identifier. -/
theorem router_findsLast_iff (calls : List RouterCall) :
    (∀ past, past <+: calls → FindsLast (routerMachine.trace diagnosticRouterInit past)
      (routerMachine.run diagnosticRouterInit past)) ↔
    routerMachine.Admits (fun _ router call => RepeatsIdentifier router call) diagnosticRouterInit calls := by
  have hempty : FindsLast [] diagnosticRouterInit := fun _ _ _ he => by cases he
  refine Machine.admits_iff_forall_prefix hempty fun past call rest _ _ hpast => ?_
  rw [Machine.trace_concat, Machine.run_concat]
  exact findsLast_step call hpast

/-- A replaced ECU is registered under the address of the old one, and requests go on to the old one. -/
theorem replaced_ecu_not_found : ¬ ∀ calls past, past <+: calls →
    FindsLast (routerMachine.trace diagnosticRouterInit past) (routerMachine.run diagnosticRouterInit past) := by
  intro hall
  obtain ⟨entry, hfind, hid, -⟩ := hall [.registerEcu (some [0x41]) 0x0301, .registerEcu (some [0x42]) 0x0301] _
    (List.prefix_refl _) 0x0301 _ [0x42] rfl rfl
  obtain rfl := Option.some.inj hfind
  exact absurd hid (by decide)

end Mcus.Nodes
