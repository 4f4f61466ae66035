import Mcus.Doip.Connections
import Mcus.Foundations.KeyedTable

/-! # Every connection has one entry and is closed once

If the operating system issues no descriptor that is open, then in every interleaving of the accept loop,
the handler threads and the thread that starts and stops the server, a descriptor belongs to one listening
socket or session at a time, the table has one entry for every connection that is served, and a socket is
closed once, when nothing refers to its session any more. Only a start that creates one of the two
listening sockets leaks it.
-/

namespace Mcus.Doip.Connections
open Handles HandleEvent Runs
set_option autoImplicit false

universe u

inductive Owner (H : Type u)
  | udp (h : H)
  | tcp (h : H)
  | session (x : Session H)

def Owner.handle {H : Type u} : Owner H → H
  | .udp h => h
  | .tcp h => h
  | .session x => x.socket

section Invariant
variable {H : Type u} [DecidableEq H]

def owners (s : DoIPServer H) : Set (Owner H)
  | .udp h => s.udpSocket = some h
  | .tcp h => s.tcpSocket = some h
  | .session x => Holds s x

/-- The connection is served, or will be as soon as its thread is started. -/
def Served (s : DoIPServer H) (x : Session H) : Prop :=
  s.acceptor = .stored x ∨ s.phase x = .serving ∨ s.phase x = .leaving

/-- The table has one entry for every connection that is served. -/
structure TableOk (s : DoIPServer H) : Prop where
  entries : ∀ e, e ∈ s.sessions ↔ e.1 = e.2.socket ∧ Served s e.2
  keys : (s.sessions.map Prod.fst).Nodup
  fresh : ∀ x, Holds s x → x.serial < s.accepts
  unstarted : ∀ x, s.acceptor = .accepted x ∨ s.acceptor = .stored x → s.phase x = .ended
  threads : ∀ x, s.phase x ≠ .ended → x ∈ s.clientThreads

structure Inv (tight : Prop) (log : List (HandleEvent H)) (s : DoIPServer H) : Prop where
  owned : Owned Owner.handle tight log (owners s)
  table : TableOk s
  halted : s.acceptor ≠ .exited → s.running = true ∨ s.stopping = true
  alive : ∀ x, s.phase x ≠ .ended → s.running = true ∨ s.stopping = true
  idle : tight → s.running = false → s.udpSocket = none ∧ s.tcpSocket = none

/-- A start creates both listening sockets or neither. -/
def WholeStart : ServerEvent H → Prop
  | .start udp tcp => udp.result.isSome = tcp.result.isSome
  | _ => True

omit [DecidableEq H] in
instance : (e : ServerEvent H) → Decidable (WholeStart e)
  | .start .. => inferInstanceAs (Decidable (_ = _))
  | .accept _ | .acceptFails _ | .store | .spawn | .nextPass | .leave _ | .erase _ | .finish _ | .stop
  | .joined => .isTrue trivial

variable {s s' : DoIPServer H} {x : Session H} {log : List (HandleEvent H)} {tight : Prop}

/-! ## The table -/

theorem sessionsUnder_eq_nil {h : H} {table : Table H} (habsent : h ∉ table.map Prod.fst) :
    sessionsUnder h table = [] :=
  congrArg (List.map Prod.snd) (BoundedTable.under_eq_nil habsent)

theorem sessionsUnder_of_mem {h : H} {table : Table H} (hkeys : (table.map Prod.fst).Nodup)
    (hmem : (h, x) ∈ table) : sessionsUnder h table = [x] := by
  obtain ⟨before, after, rfl⟩ := List.append_of_mem hmem
  have habsent := ((BoundedTable.keys_middle before after).mp hkeys).1
  have hunder := BoundedTable.under_middle (x := (h, x)) before after habsent
  rw [if_pos rfl] at hunder
  exact congrArg (List.map Prod.snd) hunder

theorem mem_eraseKey {h : H} {table : Table H} {e : H × Session H} :
    e ∈ eraseKey h table ↔ e ∈ table ∧ e.1 ≠ h := by
  simp only [eraseKey, List.mem_filter, decide_eq_true_eq]

theorem eraseKey_keys {h : H} {table : Table H} (hkeys : (table.map Prod.fst).Nodup) :
    ((eraseKey h table).map Prod.fst).Nodup :=
  hkeys.sublist (List.filter_sublist.map _)

omit [DecidableEq H] in
theorem TableOk.served_of_mem (hok : TableOk s) (hx : x ∈ s.sessions.map Prod.snd) : Served s x := by
  obtain ⟨e, he, rfl⟩ := List.mem_map.mp hx
  exact ((hok.entries e).mp he).2

omit [DecidableEq H] in
theorem holds_of_served (hserved : Served s x) : Holds s x := by
  rcases hserved with hstored | hserving | hleaving
  · exact Or.inl (by rw [hstored]; rfl)
  · exact Or.inr (Or.inr (by rw [hserving]; nofun))
  · exact Or.inr (Or.inr (by rw [hleaving]; nofun))

omit [DecidableEq H] in
/-- The table holds no session that neither the accept loop nor a thread holds. -/
theorem TableOk.holds_iff (hok : TableOk s) :
    Holds s x ↔ s.acceptor.session = some x ∨ s.phase x ≠ .ended := by
  constructor
  · rintro (haccept | hmem | hphase)
    · exact Or.inl haccept
    · rcases hok.served_of_mem hmem with hstored | hserving | hleaving
      · exact Or.inl (by rw [hstored]; rfl)
      · exact Or.inr (by rw [hserving]; nofun)
      · exact Or.inr (by rw [hleaving]; nofun)
    · exact Or.inr hphase
  · rintro (haccept | hphase)
    · exact Or.inl haccept
    · exact Or.inr (Or.inr hphase)

theorem eq_of_socket (howned : Owned Owner.handle tight log (owners s)) {y : Session H} (hx : Holds s x)
    (hy : Holds s y) (hsocket : x.socket = y.socket) : x = y := by
  have hx' : Owner.session x ∈ owners s := hx
  have hy' : Owner.session y ∈ owners s := hy
  exact Owner.session.inj (howned.distinct hx' hy' hsocket)

/-! ## References dropped -/

theorem owned_congr (howned : Owned Owner.handle tight log (owners s)) (hudp : s'.udpSocket = s.udpSocket)
    (htcp : s'.tcpSocket = s.tcpSocket) (hholds : ∀ y, Holds s' y ↔ Holds s y) :
    Owned Owner.handle tight log (owners s') := by
  have howners : owners s' = owners s := by
    ext a
    cases a with
    | udp h => exact iff_of_eq (congrArg (· = some h) hudp)
    | tcp h => exact iff_of_eq (congrArg (· = some h) htcp)
    | session y => exact hholds y
  rwa [howners]

/-- The socket is closed exactly if the reference was the last one. -/
theorem owned_release (howned : Owned Owner.handle tight log (owners s)) (hx : Holds s x)
    (hudp : s'.udpSocket = s.udpSocket) (htcp : s'.tcpSocket = s.tcpSocket)
    (hholds : ∀ y, y ≠ x → (Holds s' y ↔ Holds s y)) :
    Owned Owner.handle tight (log ++ release s' [x]) (owners s') := by
  by_cases hlast : Holds s' x
  · have hrelease : release s' [x] = [] := by simp [release, hlast]
    rw [hrelease, List.append_nil]
    refine owned_congr howned hudp htcp fun y => ?_
    by_cases hy : y = x
    · subst hy
      exact iff_of_true hlast hx
    · exact hholds y hy
  · have hrelease : release s' [x] = [closed x.socket] := by simp [release, hlast]
    have howners : owners s' = owners s \ {.session x} := by
      ext a
      cases a with
      | udp h =>
        refine (iff_of_eq (congrArg (· = some h) hudp)).trans ?_
        exact (and_iff_left (show Owner.udp h ≠ .session x from nofun)).symm
      | tcp h =>
        refine (iff_of_eq (congrArg (· = some h) htcp)).trans ?_
        exact (and_iff_left (show Owner.tcp h ≠ .session x from nofun)).symm
      | session y =>
        by_cases hy : y = x
        · subst hy
          exact iff_of_false hlast fun h => h.2 rfl
        · have hne : Owner.session y ≠ .session x := fun h => hy (Owner.session.inj h)
          exact (hholds y hy).trans (and_iff_left hne).symm
    rw [hrelease, howners]
    exact howned.release (a := .session x) hx

/-! ## Listening sockets -/

theorem not_isOpen_of_issued {h : H} {rest : List (HandleEvent H)}
    (hissue : NeverReissued (log ++ opened h :: rest)) : ¬ IsOpen log h :=
  hissue log h rest rfl

/-- A socket that is created belongs to its owner, and one that is refused is closed at once. -/
theorem owned_creation {owners : Set (Owner H)} (owner : H → Owner H) (c : Creation H)
    (hhandle : ∀ h, (owner h).handle = h) (howned : Owned Owner.handle tight log owners)
    (hissue : NeverReissued (log ++ c.events)) :
    Owned Owner.handle tight (log ++ c.events) (owners ∪ {a | ∃ h, c.result = some h ∧ a = owner h}) := by
  cases c with
  | failed =>
    rw [Creation.events, List.append_nil]
    refine howned.subset ?_ fun _ => Set.subset_union_left
    rintro a (ha | ⟨h, hresult, -⟩)
    · exact ha
    · cases hresult
  | refused h =>
    have hborrow := howned.borrow (not_isOpen_of_issued hissue)
    rw [List.append_assoc] at hborrow
    refine hborrow.subset ?_ fun _ => Set.subset_union_left
    rintro a (ha | ⟨h, hresult, -⟩)
    · exact ha
    · cases hresult
  | created h =>
    have hfresh : ¬ IsOpen log (owner h).handle := by
      rw [hhandle]
      exact not_isOpen_of_issued hissue
    have hacquire := howned.acquire hfresh
    rw [hhandle] at hacquire
    refine hacquire.subset ?_ fun _ => ?_
    · rintro a (ha | ⟨k, hresult, rfl⟩)
      · exact Or.inr ha
      · obtain rfl := Option.some.inj hresult
        exact Or.inl rfl
    · rintro a (rfl | ha)
      · exact Or.inr ⟨h, rfl, rfl⟩
      · exact Or.inl ha

theorem owned_closing {owners : Set (Owner H)} (owner : H → Owner H) (socket : Option H)
    (hhandle : ∀ h, (owner h).handle = h) (howned : Owned Owner.handle tight log owners)
    (hsocket : ∀ h, socket = some h → owner h ∈ owners) :
    Owned Owner.handle tight (log ++ socket.toList.map closed)
      (owners \ {a | ∃ h, socket = some h ∧ a = owner h}) := by
  cases socket with
  | none =>
    have hsame : owners \ {a | ∃ h, (none : Option H) = some h ∧ a = owner h} = owners := by
      ext a
      exact and_iff_left fun ⟨_, h, _⟩ => nomatch h
    rw [hsame, Option.toList_none, List.map_nil, List.append_nil]
    exact howned
  | some h =>
    have hsame : {a | ∃ k, some h = some k ∧ a = owner k} = {owner h} := by
      ext a
      constructor
      · rintro ⟨k, hk, rfl⟩
        rw [Option.some.inj hk]
        rfl
      · rintro rfl
        exact ⟨h, rfl, rfl⟩
    rw [hsame]
    have hrelease := howned.release (hsocket h rfl)
    rwa [hhandle] at hrelease

/-! ## The accept loop -/

theorem inv_accept {h : H} (hinv : Inv tight log s) (hwaiting : s.acceptor = .waiting)
    (hfresh : ¬ IsOpen log h) : Inv tight (log ++ [opened h]) (acceptSession s h) := by
  have hnone : ∀ y, s.acceptor.session ≠ some y := fun y => by rw [hwaiting]; nofun
  have hserved : ∀ y, Served s y ↔ s.phase y = .serving ∨ s.phase y = .leaving := by
    intro y
    rw [Served, hwaiting]
    exact or_iff_right nofun
  constructor
  · have hacquire := hinv.owned.acquire (a := Owner.session (Session.mk h s.accepts)) hfresh
    refine hacquire.subset ?_ fun _ => ?_
    · rintro (k | k | y) ha
      · exact Or.inr ha
      · exact Or.inr ha
      · rcases ha with haccept | hrest
        · exact Or.inl (congrArg Owner.session (Option.some.inj haccept).symm)
        · exact Or.inr (Or.inr hrest)
    · rintro a (rfl | ha)
      · exact Or.inl rfl
      · cases a with
        | udp k => exact ha
        | tcp k => exact ha
        | session y => exact Or.inr (ha.resolve_left (hnone y))
  · constructor
    · intro e
      refine (hinv.table.entries e).trans (and_congr_right fun _ => ?_)
      rw [hserved]
      exact (or_iff_right nofun).symm
    · exact hinv.table.keys
    · rintro y (haccept | hrest)
      · obtain rfl := Option.some.inj haccept
        exact Nat.lt_succ_self _
      · exact Nat.lt_succ_of_lt (hinv.table.fresh y (Or.inr hrest))
    · rintro y (haccept | hstored)
      · obtain rfl := Acceptor.accepted.inj haccept
        by_contra hphase
        exact lt_irrefl _ (hinv.table.fresh _ (Or.inr (Or.inr hphase)))
      · cases hstored
    · exact hinv.table.threads
  · intro _
    exact hinv.halted (by rw [hwaiting]; nofun)
  · exact hinv.alive
  · exact hinv.idle

theorem inv_acceptFails (hinv : Inv tight log s) (hwaiting : s.acceptor = .waiting) :
    Inv tight log { s with acceptor := .exited } := by
  have hholds : ∀ y, Holds { s with acceptor := .exited } y ↔ Holds s y := by
    intro y
    rw [Holds, Holds, hwaiting]
    exact or_congr_left (iff_of_false nofun nofun)
  refine ⟨owned_congr hinv.owned rfl rfl hholds, ⟨?_, hinv.table.keys, ?_, ?_, hinv.table.threads⟩, ?_,
    hinv.alive, hinv.idle⟩
  · intro e
    refine (hinv.table.entries e).trans (and_congr_right fun _ => ?_)
    rw [Served, Served, hwaiting]
    exact or_congr_left (iff_of_false nofun nofun)
  · exact fun y hy => hinv.table.fresh y ((hholds y).mp hy)
  · rintro y (h | h) <;> cases h
  · exact fun h => absurd rfl h

theorem inv_store (hinv : Inv tight log s) (haccepted : s.acceptor = .accepted x) :
    Inv tight (log ++ release (storeSession s x) (sessionsUnder x.socket s.sessions)) (storeSession s x) := by
  have hx : Holds s x := Or.inl (by rw [haccepted]; rfl)
  have hended : s.phase x = .ended := hinv.table.unstarted x (Or.inl haccepted)
  have hserved : ∀ y, Served s y ↔ s.phase y = .serving ∨ s.phase y = .leaving := by
    intro y
    rw [Served, haccepted]
    exact or_iff_right nofun
  -- no other session has the socket, and this one is not in the table yet
  have habsent : x.socket ∉ s.sessions.map Prod.fst := by
    intro hmem
    obtain ⟨e, he, hkey⟩ := List.mem_map.mp hmem
    obtain ⟨hsocket, heserved⟩ := (hinv.table.entries e).mp he
    obtain rfl := eq_of_socket hinv.owned hx (holds_of_served heserved) (hkey.symm.trans hsocket)
    rcases (hserved e.2).mp heserved with h | h <;> rw [hended] at h <;> cases h
  have herase : eraseKey x.socket s.sessions = s.sessions := by
    refine List.filter_eq_self.mpr fun e he => decide_eq_true fun hkey => habsent ?_
    exact List.mem_map.mpr ⟨e, he, hkey⟩
  have hholds : ∀ y, Holds (storeSession s x) y ↔ Holds s y := by
    intro y
    have hsession : s.acceptor.session = some x := by rw [haccepted]; rfl
    simp only [Holds, storeSession, hsession, assignKey, herase, List.map_cons, List.mem_cons]
    constructor
    · rintro (h | (h | h) | h)
      · exact Or.inl h
      · exact Or.inl (congrArg some h.symm)
      · exact Or.inr (Or.inl h)
      · exact Or.inr (Or.inr h)
    · rintro (h | h | h)
      · exact Or.inl h
      · exact Or.inr (Or.inl (Or.inr h))
      · exact Or.inr (Or.inr h)
  rw [sessionsUnder_eq_nil habsent]
  constructor
  · rw [release, List.filter_nil, List.map_nil, List.append_nil]
    exact owned_congr hinv.owned rfl rfl hholds
  · constructor
    · intro e
      rw [storeSession, assignKey, herase, List.mem_cons, hinv.table.entries, hserved]
      constructor
      · rintro (rfl | ⟨hsocket, hphase⟩)
        · exact ⟨rfl, Or.inl rfl⟩
        · exact ⟨hsocket, Or.inr hphase⟩
      · rintro ⟨hsocket, hstored | hphase⟩
        · obtain rfl := Acceptor.stored.inj hstored
          exact Or.inl (Prod.ext hsocket rfl)
        · exact Or.inr ⟨hsocket, hphase⟩
    · rw [storeSession, assignKey, herase, List.map_cons, List.nodup_cons]
      exact ⟨habsent, hinv.table.keys⟩
    · exact fun y hy => hinv.table.fresh y ((hholds y).mp hy)
    · rintro y (h | h)
      · cases h
      · obtain rfl := Acceptor.stored.inj h
        exact hended
    · exact hinv.table.threads
  · exact fun _ => hinv.halted (by rw [haccepted]; nofun)
  · exact hinv.alive
  · exact hinv.idle

theorem inv_spawn (hinv : Inv tight log s) (hstored : s.acceptor = .stored x) :
    Inv tight log (spawnThread s x) := by
  have hsession : s.acceptor.session = some x := by rw [hstored]; rfl
  have hphase : ∀ y, (spawnThread s x).phase y = if y = x then .serving else s.phase y :=
    fun y => Function.update_apply ..
  have hholds : ∀ y, Holds (spawnThread s x) y ↔ Holds s y := by
    intro y
    rw [Holds, Holds, hphase, hsession]
    by_cases hy : y = x
    · subst hy
      exact iff_of_true (Or.inl rfl) (Or.inl rfl)
    · rw [if_neg hy]
      rfl
  have hbusy := hinv.halted (by rw [hstored]; nofun)
  refine ⟨owned_congr hinv.owned rfl rfl hholds, ⟨?_, hinv.table.keys, ?_, ?_, ?_⟩, fun _ => hbusy,
    fun _ _ => hbusy, hinv.idle⟩
  · intro e
    refine (hinv.table.entries e).trans (and_congr_right fun _ => ?_)
    rw [Served, Served, hphase, hstored]
    by_cases he : e.2 = x
    · rw [if_pos he, he]
      exact iff_of_true (Or.inl rfl) (Or.inr (Or.inl rfl))
    · rw [if_neg he]
      exact or_congr_left (iff_of_false (fun h => he (Acceptor.stored.inj h).symm) nofun)
  · exact fun y hy => hinv.table.fresh y ((hholds y).mp hy)
  · rintro y (h | h) <;> cases h
  · intro y hy
    rw [hphase] at hy
    by_cases hyx : y = x
    · exact List.mem_append_right _ (List.mem_singleton.mpr hyx)
    · rw [if_neg hyx] at hy
      exact List.mem_append_left _ (hinv.table.threads y hy)

theorem inv_endPass (hinv : Inv tight log s) (hspawned : s.acceptor = .spawned x) :
    Inv tight (log ++ release (endPass s) [x]) (endPass s) := by
  have hsession : s.acceptor.session = some x := by rw [hspawned]; rfl
  have hnone : (endPass s).acceptor.session = none := by
    rw [endPass]
    dsimp only
    split <;> rfl
  have hnext : ∀ y, (endPass s).acceptor ≠ .accepted y ∧ (endPass s).acceptor ≠ .stored y := by
    intro y
    constructor <;> intro h <;> rw [h] at hnone <;> cases hnone
  have hholds : ∀ y, y ≠ x → (Holds (endPass s) y ↔ Holds s y) := by
    intro y hy
    rw [Holds, Holds, hnone, hsession]
    exact or_congr_left (iff_of_false nofun fun h => hy (Option.some.inj h).symm)
  refine ⟨owned_release hinv.owned (Or.inl hsession) rfl rfl hholds,
    ⟨?_, hinv.table.keys, ?_, ?_, hinv.table.threads⟩, ?_, hinv.alive, hinv.idle⟩
  · intro e
    refine (hinv.table.entries e).trans (and_congr_right fun _ => ?_)
    rw [Served, Served, hspawned]
    exact or_congr_left (iff_of_false nofun (hnext e.2).2)
  · intro y hy
    by_cases hyx : y = x
    · exact hyx ▸ hinv.table.fresh x (Or.inl hsession)
    · exact hinv.table.fresh y ((hholds y hyx).mp hy)
  · rintro y (h | h)
    · exact absurd h (hnext y).1
    · exact absurd h (hnext y).2
  · intro _
    exact hinv.halted (by rw [hspawned]; nofun)

/-! ## A handler thread -/

theorem inv_leaveLoop (hinv : Inv tight log s) (hserving : s.phase x = .serving) :
    Inv tight log (leaveLoop s x) := by
  have hphase : ∀ y, (leaveLoop s x).phase y = if y = x then .leaving else s.phase y :=
    fun y => Function.update_apply ..
  have hended : ∀ y, (leaveLoop s x).phase y = .ended ↔ s.phase y = .ended := by
    intro y
    rw [hphase]
    by_cases hy : y = x
    · rw [if_pos hy, hy, hserving]
      exact iff_of_false nofun nofun
    · rw [if_neg hy]
  have hholds : ∀ y, Holds (leaveLoop s x) y ↔ Holds s y :=
    fun y => or_congr_right (or_congr_right (not_congr (hended y)))
  refine ⟨owned_congr hinv.owned rfl rfl hholds, ⟨?_, hinv.table.keys, ?_, ?_, ?_⟩, hinv.halted,
    fun y hy => hinv.alive y (mt (hended y).mpr hy), hinv.idle⟩
  · intro e
    refine (hinv.table.entries e).trans (and_congr_right fun _ => or_congr_right ?_)
    rw [hphase]
    by_cases he : e.2 = x
    · rw [if_pos he, he, hserving]
      exact iff_of_true (Or.inl rfl) (Or.inr rfl)
    · rw [if_neg he]
  · exact fun y hy => hinv.table.fresh y ((hholds y).mp hy)
  · exact fun y hy => (hended y).mpr (hinv.table.unstarted y hy)
  · exact fun y hy => hinv.table.threads y (mt (hended y).mpr hy)

theorem inv_eraseSession (hinv : Inv tight log s) (hleaving : s.phase x = .leaving) :
    Inv tight (log ++ release (eraseSession s x) (sessionsUnder x.socket s.sessions)) (eraseSession s x) := by
  have hx : Holds s x := Or.inr (Or.inr (by rw [hleaving]; nofun))
  have hphase : ∀ y, (eraseSession s x).phase y = if y = x then .ending else s.phase y :=
    fun y => Function.update_apply ..
  have hended : ∀ y, (eraseSession s x).phase y = .ended ↔ s.phase y = .ended := by
    intro y
    rw [hphase]
    by_cases hy : y = x
    · rw [if_pos hy, hy, hleaving]
      exact iff_of_false nofun nofun
    · rw [if_neg hy]
  have hunder : sessionsUnder x.socket s.sessions = [x] :=
    sessionsUnder_of_mem hinv.table.keys ((hinv.table.entries (x.socket, x)).mpr ⟨rfl, Or.inr (Or.inr hleaving)⟩)
  have hnot : s.acceptor ≠ .stored x := by
    intro hstored
    have hphase := hinv.table.unstarted x (Or.inr hstored)
    rw [hleaving] at hphase
    cases hphase
  have hentries : ∀ e, e ∈ (eraseSession s x).sessions ↔ e.1 = e.2.socket ∧ Served (eraseSession s x) e.2 := by
    intro e
    refine mem_eraseKey.trans ?_
    rw [hinv.table.entries, and_assoc]
    refine and_congr_right fun hsocket => ?_
    rw [Served, Served, hphase]
    by_cases he : e.2 = x
    · refine iff_of_false (fun h => h.2 (hsocket.trans (congrArg Session.socket he))) ?_
      rw [if_pos he, he]
      rintro (h | h | h)
      · exact hnot h
      · cases h
      · cases h
    · rw [if_neg he]
      refine and_iff_left_of_imp fun hserved hkey => he ?_
      exact eq_of_socket hinv.owned (holds_of_served hserved) hx (hsocket.symm.trans hkey)
  have hok : TableOk (eraseSession s x) := by
    refine ⟨hentries, eraseKey_keys hinv.table.keys, ?_, ?_, ?_⟩
    · rintro y (h | h | h)
      · exact hinv.table.fresh y (Or.inl h)
      · obtain ⟨e, he, rfl⟩ := List.mem_map.mp h
        exact hinv.table.fresh _ (Or.inr (Or.inl (List.mem_map.mpr ⟨e, (mem_eraseKey.mp he).1, rfl⟩)))
      · exact hinv.table.fresh y (Or.inr (Or.inr (mt (hended y).mpr h)))
    · exact fun y hy => (hended y).mpr (hinv.table.unstarted y hy)
    · exact fun y hy => hinv.table.threads y (mt (hended y).mpr hy)
  have hholds : ∀ y, Holds (eraseSession s x) y ↔ Holds s y := by
    intro y
    rw [hok.holds_iff, hinv.table.holds_iff]
    exact or_congr_right (not_congr (hended y))
  rw [hunder]
  exact ⟨owned_release hinv.owned hx rfl rfl fun y _ => hholds y, hok, hinv.halted,
    fun y hy => hinv.alive y (mt (hended y).mpr hy), hinv.idle⟩

theorem inv_endThread (hinv : Inv tight log s) (hending : s.phase x = .ending) :
    Inv tight (log ++ release (endThread s x) [x]) (endThread s x) := by
  have hx : Holds s x := Or.inr (Or.inr (by rw [hending]; nofun))
  have hphase : ∀ y, (endThread s x).phase y = if y = x then .ended else s.phase y :=
    fun y => Function.update_apply ..
  have hholds : ∀ y, y ≠ x → (Holds (endThread s x) y ↔ Holds s y) := by
    intro y hy
    rw [Holds, hphase, if_neg hy]
    rfl
  have hbusy := hinv.alive x (by rw [hending]; nofun)
  refine ⟨owned_release hinv.owned hx rfl rfl hholds, ⟨?_, hinv.table.keys, ?_, ?_, ?_⟩, hinv.halted,
    fun _ _ => hbusy, hinv.idle⟩
  · intro e
    refine (hinv.table.entries e).trans (and_congr_right fun _ => or_congr_right ?_)
    rw [hphase]
    by_cases he : e.2 = x
    · rw [if_pos he, he, hending]
      exact iff_of_false (fun h => h.elim nofun nofun) fun h => h.elim nofun nofun
    · rw [if_neg he]
  · intro y hy
    by_cases hyx : y = x
    · exact hyx ▸ hinv.table.fresh x hx
    · exact hinv.table.fresh y ((hholds y hyx).mp hy)
  · intro y hy
    rw [hphase, hinv.table.unstarted y hy]
    exact ite_self _
  · intro y hy
    rw [hphase] at hy
    by_cases hyx : y = x
    · exact absurd (if_pos hyx) hy
    · rw [if_neg hyx] at hy
      exact hinv.table.threads y hy

/-! ## Start and stop -/

section Start
variable (s) (udp tcp : Creation H)

omit [DecidableEq H] in
theorem udpSocket_start : (start s udp tcp).udpSocket = udp.result := by
  unfold start
  dsimp only
  split <;> rfl

omit [DecidableEq H] in
theorem tcpSocket_start : (start s udp tcp).tcpSocket = tcp.result := by
  unfold start
  dsimp only
  split <;> rfl

omit [DecidableEq H] in
/-- A start leaves the accept loop out, or lets it begin. -/
theorem start_cases : start s udp tcp = { s with udpSocket := udp.result, tcpSocket := tcp.result } ∧
      (udp.result = none ∨ tcp.result = none) ∨
    start s udp tcp = { s with
      udpSocket := udp.result, tcpSocket := tcp.result, running := true, acceptor := .waiting } := by
  unfold start
  dsimp only
  split
  case isTrue h =>
    rw [Bool.or_eq_true, Option.isNone_iff_eq_none, Option.isNone_iff_eq_none] at h
    exact Or.inl ⟨rfl, h⟩
  case isFalse => exact Or.inr rfl

end Start

theorem inv_start {udp tcp : Creation H} (hinv : Inv tight log s) (hrunning : s.running = false)
    (hstopping : s.stopping = false) (hwhole : tight → WholeStart (.start udp tcp))
    (hissue : NeverReissued (log ++ (udp.events ++ tcp.events))) :
    Inv tight (log ++ (udp.events ++ tcp.events)) (start s udp tcp) := by
  have hexited : s.acceptor = .exited := by
    by_contra hacceptor
    have hbusy := hinv.halted hacceptor
    rw [hrunning, hstopping] at hbusy
    exact hbusy.elim nofun nofun
  have hfields : (start s udp tcp).sessions = s.sessions ∧ (start s udp tcp).phase = s.phase ∧
      (start s udp tcp).clientThreads = s.clientThreads ∧ (start s udp tcp).accepts = s.accepts ∧
      ((start s udp tcp).acceptor = .exited ∨ (start s udp tcp).acceptor = .waiting) := by
    rcases start_cases s udp tcp with ⟨h, -⟩ | h
    · rw [h]
      exact ⟨rfl, rfl, rfl, rfl, Or.inl hexited⟩
    · rw [h]
      exact ⟨rfl, rfl, rfl, rfl, Or.inr rfl⟩
  obtain ⟨hsessions, hphase, hthreads, haccepts, hacceptor⟩ := hfields
  have hsession : (start s udp tcp).acceptor.session = s.acceptor.session := by
    rw [hexited]
    rcases hacceptor with h | h
    · rw [h]
    · rw [h]
      rfl
  have hholds : ∀ y, Holds (start s udp tcp) y ↔ Holds s y := by
    intro y
    rw [Holds, Holds, hsession, hsessions, hphase]
  have hserved : ∀ y, Served (start s udp tcp) y ↔ Served s y := by
    intro y
    rw [Served, Served, hphase, hexited]
    refine or_congr_left (iff_of_false ?_ nofun)
    rcases hacceptor with h | h <;> rw [h] <;> nofun
  rw [← List.append_assoc] at hissue ⊢
  constructor
  · have hbase : Owned Owner.handle tight log (owners { s with udpSocket := none, tcpSocket := none }) := by
      refine hinv.owned.subset ?_ fun ht => ?_
      · rintro (h | h | y) ha
        · cases ha
        · cases ha
        · exact ha
      · obtain ⟨hudp, htcp⟩ := hinv.idle ht hrunning
        rintro (h | h | y) ha
        · exact absurd (hudp.symm.trans ha) nofun
        · exact absurd (htcp.symm.trans ha) nofun
        · exact ha
    have hudp := owned_creation Owner.udp udp (fun _ => rfl) hbase hissue.of_append
    have htcp := owned_creation Owner.tcp tcp (fun _ => rfl) hudp hissue
    refine htcp.subset ?_ fun _ => ?_
    · rintro (h | h | y) ha
      · exact Or.inl (Or.inr ⟨h, (udpSocket_start s udp tcp).symm.trans ha, rfl⟩)
      · exact Or.inr ⟨h, (tcpSocket_start s udp tcp).symm.trans ha, rfl⟩
      · exact Or.inl (Or.inl ((hholds y).mp ha))
    · rintro a ((ha | ⟨h, hresult, rfl⟩) | ⟨h, hresult, rfl⟩)
      · cases a with
        | udp h => cases ha
        | tcp h => cases ha
        | session y => exact (hholds y).mpr ha
      · exact (udpSocket_start s udp tcp).trans hresult
      · exact (tcpSocket_start s udp tcp).trans hresult
  · constructor
    · intro e
      rw [hsessions, hserved]
      exact hinv.table.entries e
    · rw [hsessions]
      exact hinv.table.keys
    · intro y hy
      rw [haccepts]
      exact hinv.table.fresh y ((hholds y).mp hy)
    · rintro y (h | h) <;> rcases hacceptor with h' | h' <;> rw [h'] at h <;> cases h
    · rw [hphase, hthreads]
      exact hinv.table.threads
  · intro hbusy
    rcases start_cases s udp tcp with ⟨h, -⟩ | h
    · rw [h] at hbusy
      exact absurd hexited hbusy
    · rw [h]
      exact Or.inl rfl
  · intro y hy
    rw [hphase] at hy
    have hbusy := hinv.alive y hy
    rw [hrunning, hstopping] at hbusy
    exact hbusy.elim nofun nofun
  · intro ht hidle
    rw [udpSocket_start, tcpSocket_start]
    have hwhole' : udp.result.isSome = tcp.result.isSome := hwhole ht
    rcases start_cases s udp tcp with ⟨-, hnone | hnone⟩ | h
    · rw [hnone] at hwhole' ⊢
      exact ⟨rfl, Option.isSome_eq_false_iff.mp hwhole'.symm |> Option.isNone_iff_eq_none.mp⟩
    · rw [hnone] at hwhole' ⊢
      exact ⟨Option.isSome_eq_false_iff.mp hwhole' |> Option.isNone_iff_eq_none.mp, rfl⟩
    · rw [h] at hidle
      cases hidle

theorem inv_closeSockets (hinv : Inv tight log s) : Inv tight
    (log ++ (s.udpSocket.toList.map closed ++ s.tcpSocket.toList.map closed)) (closeSockets s) := by
  have hudp := owned_closing Owner.udp s.udpSocket (fun _ => rfl) hinv.owned fun _ h => h
  have htcp := owned_closing Owner.tcp s.tcpSocket (fun _ => rfl) hudp
    fun h hsocket => ⟨hsocket, fun ⟨_, _, hne⟩ => nomatch hne⟩
  rw [← List.append_assoc]
  refine ⟨htcp.subset ?_ fun _ => ?_, ⟨hinv.table.entries, hinv.table.keys, hinv.table.fresh,
    hinv.table.unstarted, hinv.table.threads⟩, fun _ => Or.inr rfl, fun _ _ => Or.inr rfl,
    fun _ _ => ⟨rfl, rfl⟩⟩
  · rintro (h | h | y) ha
    · cases ha
    · cases ha
    · exact ⟨⟨ha, fun ⟨_, _, hne⟩ => nomatch hne⟩, fun ⟨_, _, hne⟩ => nomatch hne⟩
  · rintro (h | h | y) ⟨⟨ha, hnotudp⟩, hnottcp⟩
    · exact absurd ⟨h, ha, rfl⟩ hnotudp
    · exact absurd ⟨h, ha, rfl⟩ hnottcp
    · exact ha

/-- Once every thread has ended, nothing is left to release. -/
theorem inv_clearAll (hinv : Inv tight log s) (hexited : s.acceptor = .exited)
    (hended : ∀ x ∈ s.clientThreads, s.phase x = .ended) :
    s.sessions = [] ∧ Inv tight log (clearAll s) := by
  have hphase : ∀ y, s.phase y = .ended := by
    intro y
    by_contra hy
    exact hy (hended y (hinv.table.threads y hy))
  have hnone : ∀ y, ¬ Served s y := by
    rintro y (h | h | h)
    · rw [hexited] at h
      cases h
    · rw [hphase] at h
      cases h
    · rw [hphase] at h
      cases h
  have hempty : s.sessions = [] :=
    List.eq_nil_iff_forall_not_mem.mpr fun e he => hnone e.2 ((hinv.table.entries e).mp he).2
  have hsessions : (clearAll s).sessions = s.sessions := hempty.symm
  have hholds : ∀ y, Holds (clearAll s) y ↔ Holds s y := by
    intro y
    rw [Holds, hsessions]
    rfl
  refine ⟨hempty, owned_congr hinv.owned rfl rfl hholds, ⟨?_, List.nodup_nil, ?_, hinv.table.unstarted, ?_⟩,
    fun h => absurd hexited h, fun y hy => absurd (hphase y) hy, hinv.idle⟩
  · intro e
    rw [hsessions]
    exact hinv.table.entries e
  · exact fun y hy => hinv.table.fresh y ((hholds y).mp hy)
  · exact fun y hy => absurd (hphase y) hy

/-! ## Every step -/

theorem inv_step (event : ServerEvent H) (hinv : Inv tight log s) (hwhole : tight → WholeStart event)
    (hissue : NeverReissued (log ++ (step s event).2)) :
    Inv tight (log ++ (step s event).2) (step s event).1 := by
  have hnil : Inv tight (log ++ []) s := by rwa [List.append_nil]
  cases event with
  | start udp tcp =>
    rw [step] at hissue ⊢
    split at hissue
    case isTrue h => rwa [if_pos h]
    case isFalse h =>
      rw [if_neg h]
      rw [Bool.or_eq_true, not_or, Bool.not_eq_true, Bool.not_eq_true] at h
      exact inv_start hinv h.1 h.2 hwhole hissue
  | accept h =>
    rw [step] at hissue ⊢
    split at hissue
    case isTrue hwaiting =>
      rw [if_pos hwaiting]
      exact inv_accept hinv hwaiting (not_isOpen_of_issued hissue)
    case isFalse hnot => rwa [if_neg hnot]
  | acceptFails interrupted =>
    rw [step]
    split
    case isTrue h =>
      rw [List.append_nil]
      exact inv_acceptFails hinv h.1
    case isFalse => exact hnil
  | store =>
    rw [step]
    split
    case h_1 x hx => exact inv_store hinv hx
    case h_2 => exact hnil
  | spawn =>
    rw [step]
    split
    case h_1 x hx =>
      rw [List.append_nil]
      exact inv_spawn hinv hx
    case h_2 => exact hnil
  | nextPass =>
    rw [step]
    split
    case h_1 x hx => exact inv_endPass hinv hx
    case h_2 => exact hnil
  | leave x =>
    rw [step]
    split
    case isTrue h =>
      rw [List.append_nil]
      exact inv_leaveLoop hinv h
    case isFalse => exact hnil
  | erase x =>
    rw [step]
    split
    case isTrue h => exact inv_eraseSession hinv h
    case isFalse => exact hnil
  | finish x =>
    rw [step]
    split
    case isTrue h => exact inv_endThread hinv h
    case isFalse => exact hnil
  | stop =>
    rw [step]
    split
    case isTrue h => exact inv_closeSockets hinv
    case isFalse => exact hnil
  | joined =>
    rw [step]
    split
    case isTrue h =>
      obtain ⟨hempty, hcleared⟩ := inv_clearAll hinv h.2.1 h.2.2
      rw [hempty, List.map_nil, release, List.filter_nil, List.map_nil, List.append_nil]
      exact hcleared
    case isFalse => exact hnil

/-! ## Runs -/

theorem inv_init : Inv tight [] (init : DoIPServer H) where
  owned := by
    have hempty : owners (init : DoIPServer H) = ∅ := by
      ext a
      refine iff_of_false ?_ (Set.notMem_empty a)
      cases a with
      | udp h => exact nofun
      | tcp h => exact nofun
      | session x => exact fun h => h.elim nofun fun h => h.elim (fun h => absurd h List.not_mem_nil) fun h => h rfl
    rw [hempty]
    exact owned_nil
  table := by
    refine ⟨fun e => iff_of_false List.not_mem_nil ?_, List.nodup_nil, ?_, ?_, fun x hx => absurd rfl hx⟩
    · rintro ⟨-, h | h | h⟩ <;> cases h
    · rintro x (h | h | h)
      · cases h
      · cases h
      · exact absurd rfl h
    · exact fun _ _ => rfl
  halted h := absurd rfl h
  alive x h := absurd rfl h
  idle _ _ := ⟨rfl, rfl⟩

theorem inv_run (events : List (ServerEvent H)) (hwhole : tight → ∀ e ∈ events, WholeStart e)
    (hissue : NeverReissued (handleLog (machine.trace init events))) :
    Inv tight (handleLog (machine.trace init events)) (machine.run init events) := by
  induction events using List.reverseRecOn with
  | nil => exact inv_init
  | append_singleton events event ih =>
    have hlog : handleLog (machine.trace init (events ++ [event])) =
        handleLog (machine.trace init events) ++ (step (machine.run init events) event).2 := by
      rw [Machine.trace_concat, handleLog, List.flatMap_append, List.flatMap_singleton]
      rfl
    rw [hlog] at hissue ⊢
    rw [Machine.run_concat]
    refine inv_step event (ih ?_ hissue.of_append) (fun ht => hwhole ht event (by simp)) hissue
    exact fun ht e he => hwhole ht e (List.mem_append_left _ he)

/-- Every socket was closed once or is open and was never closed, and the table counts the connections
that are served, each of which has its own open socket. -/
structure Accounted (log : List (HandleEvent H)) (s : DoIPServer H) : Prop where
  once : ∀ before h after, log = before ++ opened h :: after →
    timesClosed h after = 1 ∨ (timesClosed h after = 0 ∧ opened h ∉ after ∧ IsOpen log h)
  closes : ClosesOpen log
  entries : ∀ e, e ∈ s.sessions ↔ e.1 = e.2.socket ∧ Served s e.2
  counted : ∃ served : List (Session H), served.Nodup ∧ (∀ x, x ∈ served ↔ Served s x) ∧
    getActiveConnections s = served.length
  ownSocket : ∀ x, Holds s x → IsOpen log x.socket ∧ ∀ y, Holds s y → y.socket = x.socket → y = x

/-- **Connections.** In every interleaving of the threads, if no open descriptor is issued again, sockets
are closed once and the session table has one entry for each connection that is served. -/
theorem connections_accounted (events : List (ServerEvent H))
    (hissue : NeverReissued (handleLog (machine.trace init events))) :
    Accounted (handleLog (machine.trace init events)) (machine.run init events) := by
  have hinv := @inv_run H _ False events (fun h => h.elim) hissue
  refine ⟨fun before h after => closed_once_or_open hissue hinv.owned.closes, hinv.owned.closes,
    hinv.table.entries, ?_, ?_⟩
  · refine ⟨(machine.run init events).sessions.map Prod.snd, ?_, ?_, (List.length_map _).symm⟩
    · have hkeys : (machine.run init events).sessions.map Prod.fst =
          ((machine.run init events).sessions.map Prod.snd).map Session.socket := by
        rw [List.map_map]
        exact List.map_congr_left fun e he => ((hinv.table.entries e).mp he).1
      exact (hkeys ▸ hinv.table.keys).of_map _
    · intro x
      refine ⟨hinv.table.served_of_mem, fun hserved => ?_⟩
      exact List.mem_map.mpr ⟨(x.socket, x), (hinv.table.entries _).mpr ⟨rfl, hserved⟩, rfl⟩
  · intro x hx
    exact ⟨hinv.owned.isOpen (.session x) hx, fun y hy => eq_of_socket hinv.owned hy hx⟩

/-- **Stopping.** If every start created both listening sockets or neither, then a descriptor is open
exactly while a listening socket or a session has it, and none is once the server has stopped. -/
theorem stop_closes_all (events : List (ServerEvent H)) (hwhole : ∀ e ∈ events, WholeStart e)
    (hissue : NeverReissued (handleLog (machine.trace init events))) :
    (∀ h, IsOpen (handleLog (machine.trace init events)) h ↔
      ∃ a ∈ owners (machine.run init events), a.handle = h) ∧
    ((machine.run init events).running = false → (machine.run init events).stopping = false →
      ∀ h, ¬ IsOpen (handleLog (machine.trace init events)) h) := by
  have hinv := @inv_run H _ True events (fun _ => hwhole) hissue
  refine ⟨fun h => ⟨hinv.owned.noLeak trivial h, ?_⟩, ?_⟩
  · rintro ⟨a, ha, rfl⟩
    exact hinv.owned.isOpen a ha
  · intro hrunning hstopping h hopen
    obtain ⟨hudp, htcp⟩ := hinv.idle trivial hrunning
    have hidle : ¬ ((machine.run init events).running = true ∨ (machine.run init events).stopping = true) := by
      rw [hrunning, hstopping]
      exact fun h => h.elim nofun nofun
    obtain ⟨k | k | x, ha, -⟩ := hinv.owned.noLeak trivial h hopen
    · exact absurd (hudp.symm.trans ha) nofun
    · exact absurd (htcp.symm.trans ha) nofun
    · rcases hinv.table.holds_iff.mp ha with hsession | hphase
      · refine hidle (hinv.halted fun hexited => ?_)
        rw [hexited] at hsession
        cases hsession
      · exact hidle (hinv.alive x hphase)

end Invariant

/-! ## Three connections -/

/-- The first connection ends while the accept loop is at the second, and the third gets its socket. -/
def threeConnections : List (ServerEvent ℕ) :=
  [.start (.created 3) (.created 4), .accept 5, .store, .spawn, .nextPass, .accept 6, .store,
    .leave ⟨5, 0⟩, .erase ⟨5, 0⟩, .finish ⟨5, 0⟩, .spawn, .nextPass, .accept 5, .store, .spawn]

/-- The server is stopped, and every thread ends. -/
def threeConnectionsStopped : List (ServerEvent ℕ) :=
  threeConnections ++ [.stop, .leave ⟨6, 1⟩, .erase ⟨6, 1⟩, .finish ⟨6, 1⟩, .leave ⟨5, 2⟩, .erase ⟨5, 2⟩,
    .finish ⟨5, 2⟩, .nextPass, .acceptFails false, .joined]

theorem connections_accounted_three : Accounted [opened 3, opened 4, opened 5, opened 6, closed 5, opened 5]
    (machine.run init threeConnections) := by
  have hlog : handleLog (machine.trace init threeConnections) =
      [opened 3, opened 4, opened 5, opened 6, closed 5, opened 5] := by decide +kernel
  have haccounted := connections_accounted threeConnections
  rw [hlog] at haccounted
  apply haccounted
  show NeverReissued ([] ++ [opened 3] ++ [opened 4] ++ [opened 5] ++ [opened 6] ++ [closed 5] ++ [opened 5])
  simp only [neverReissued_concat, neverReissued_nil, isOpen_opened, isOpen_closed, not_isOpen_nil]
  simp

theorem stop_closes_all_three : ∃ log, log = handleLog (machine.trace init threeConnectionsStopped) ∧
    ∀ h, ¬ IsOpen log h := by
  have hlog : handleLog (machine.trace init threeConnectionsStopped) = [opened 3, opened 4, opened 5, opened 6,
      closed 5, opened 5, closed 3, closed 4, closed 6, closed 5] := by decide +kernel
  have hstopped := stop_closes_all threeConnectionsStopped (by decide)
  refine ⟨_, rfl, (hstopped ?_).2 (by decide +kernel) (by decide +kernel)⟩
  rw [hlog]
  show NeverReissued ([] ++ [opened 3] ++ [opened 4] ++ [opened 5] ++ [opened 6] ++ [closed 5] ++ [opened 5] ++
    [closed 3] ++ [closed 4] ++ [closed 6] ++ [closed 5])
  simp only [neverReissued_concat, neverReissued_nil, isOpen_opened, isOpen_closed, not_isOpen_nil]
  simp

end Mcus.Doip.Connections
