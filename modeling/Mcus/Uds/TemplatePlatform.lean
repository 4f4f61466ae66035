import Mcus.Foundations.Congruential
import Mcus.Uds.Security

/-! # The handler on its template platform

`uds_platform_tc375.c` as it stands: a tick that counts its own reads, a seed made from one such tick, a
flash that stores nothing and reports success, and a reset that never returns. The handler reads a tick in
the lockout check and another one for a seed or for the third wrong key.
-/

namespace Mcus.Uds
open ByteOrder Runs
set_option autoImplicit false

/-- `uds_platform_generate_seed`, from the tick it reads. -/
def udsPlatformGenerateSeed (tick : UInt32) : UInt32 :=
  let seed := (tick * 1103515245 + 12345) &&& 0x7FFFFFFF
  if seed = 0 then 0x12345678 else seed

/-- The handler and how often `uds_platform_get_tick_ms` was called; `dummy_tick` is this number modulo
`2 ^ 32`. -/
structure TemplateDevice where
  handler : UDSHandler
  reads : ℕ
  resetting : Bool

def TemplateDevice.init : TemplateDevice := ⟨udsHandlerInit, 0, false⟩

/-- The ticks that the lockout check reads. -/
def lockoutReads (h : UDSHandler) : ℕ := if h.securityAttempts ≥ securityAccessAttempts then 1 else 0

def TemplateDevice.platform (d : TemplateDevice) : Platform where
  tickMs := UInt32.ofNat d.reads
  seed := udsPlatformGenerateSeed (UInt32.ofNat (d.reads + lockoutReads d.handler))
  writeStatus := 0

/-- What a tester sends, and the room for the response. -/
structure TemplateRequest where
  bytes : List UInt8
  respCap : ℕ

def TemplateDevice.request (d : TemplateDevice) (q : TemplateRequest) : Request := ⟨q.bytes, q.respCap, d.platform⟩

def readsTick : PlatformCall → Bool
  | .getTickMs _ => true
  | .generateSeed _ => true
  | _ => false

def isEcuReset : PlatformCall → Bool
  | .ecuReset _ => true
  | _ => false

/-- A request is answered unless its platform calls do not return. -/
def templateStep (d : TemplateDevice) (q : TemplateRequest) : TemplateDevice × Reply :=
  if d.resetting then (d, ⟨none, []⟩)
  else
    let (h, reply) := udsHandlerProcess udsPlatformCalculateKey d.handler (d.request q)
    let resetting := reply.calls.any isEcuReset
    (⟨h, d.reads + reply.calls.countP readsTick, resetting⟩,
      if resetting then { reply with response := none } else reply)

def templateMachine : Machine TemplateDevice TemplateRequest Reply := ⟨templateStep⟩

/-- The seeds that were generated, in order. -/
def seedsOf (past : List (Step TemplateDevice TemplateRequest Reply)) : List UInt32 :=
  past.flatMap fun e => e.output.calls.filterMap seedOf

abbrev templateSeeds (qs : List TemplateRequest) : List UInt32 :=
  seedsOf (templateMachine.trace .init qs)

/-! ## One seed -/

theorem and_low31 (x : UInt32) : (x &&& 0x7FFFFFFF).toNat = x.toNat % 2 ^ 31 := by
  have hmask : (0x7FFFFFFF : UInt32).toNat = 2 ^ 31 - 1 := rfl
  rw [UInt32.toNat_and, hmask, Nat.and_two_pow_sub_one_eq_mod]

/-- Before a zero is replaced. -/
def rawSeed (reads : ℕ) : ℕ := Congruential.value 1103515245 12345 31 reads

theorem rawSeed_eq (reads : ℕ) :
    ((UInt32.ofNat reads * 1103515245 + 12345) &&& 0x7FFFFFFF).toNat = rawSeed reads := by
  have ha : (1103515245 : UInt32).toNat = 1103515245 := rfl
  have hc : (12345 : UInt32).toNat = 12345 := rfl
  rw [and_low31, UInt32.toNat_add, UInt32.toNat_mul, ha, hc, UInt32.toNat_ofNat', rawSeed, Congruential.value]
  omega

theorem toNat_replaced (raw : UInt32) : (if raw = 0 then (0x12345678 : UInt32) else raw).toNat =
    if raw.toNat = 0 then 0x12345678 else raw.toNat := by
  by_cases hzero : raw = 0
  · rw [hzero]
    rfl
  · have hne : raw.toNat ≠ 0 := fun h => hzero (UInt32.toNat_inj.mp h)
    rw [if_neg hzero, if_neg hne]

abbrev seedAt (reads : ℕ) : UInt32 := udsPlatformGenerateSeed (UInt32.ofNat reads)

/-- A generated seed is the congruential value of its tick, with zero replaced. -/
theorem seedAt_toNat (reads : ℕ) :
    (seedAt reads).toNat = if rawSeed reads = 0 then 0x12345678 else rawSeed reads := by
  rw [← rawSeed_eq reads]
  exact toNat_replaced _

theorem rawSeed_lt (reads : ℕ) : rawSeed reads < 2 ^ 31 := Congruential.value_lt reads

theorem seedAt_bounds (reads : ℕ) : seedAt reads ≠ 0 ∧ (seedAt reads).toNat < 2 ^ 31 := by
  have hvalue := seedAt_toNat reads
  have hlt := rawSeed_lt reads
  constructor
  · intro hzero
    rw [hzero] at hvalue
    have hz : (0 : UInt32).toNat = 0 := rfl
    rw [hz] at hvalue
    split at hvalue <;> omega
  · rw [hvalue]
    split <;> omega

/-- A seed that does not stand for a zero is its raw value. -/
theorem seedAt_raw {reads : ℕ} (h : rawSeed reads ≠ 0) : (seedAt reads).toNat = rawSeed reads := by
  rw [seedAt_toNat, if_neg h]

/-- The seed that follows a given one when the tick was read `reads` times in between. -/
def nextSeed (seed : UInt32) (reads : ℕ) : UInt32 :=
  let raw := (seed + UInt32.ofNat reads * 1103515245) &&& 0x7FFFFFFF
  if raw = 0 then 0x12345678 else raw

theorem seedAt_add {reads : ℕ} (h : rawSeed reads ≠ 0) (n : ℕ) :
    seedAt (reads + n) = nextSeed (seedAt reads) n := by
  have ha : (1103515245 : UInt32).toNat = 1103515245 := rfl
  have hraw : ((seedAt reads + UInt32.ofNat n * 1103515245) &&& 0x7FFFFFFF).toNat = rawSeed (reads + n) := by
    rw [and_low31, UInt32.toNat_add, UInt32.toNat_mul, ha, UInt32.toNat_ofNat', seedAt_raw h, rawSeed, rawSeed,
      Congruential.value_add]
    omega
  apply UInt32.toNat_inj.mp
  rw [seedAt_toNat, ← hraw]
  exact (toNat_replaced _).symm

/-- Seeds of ticks that are near each other differ, unless one of them stands for a zero. -/
theorem seedAt_inj {t t' : ℕ} (hlt : t < t') (hnear : t' < t + 2 ^ 31) (h : seedAt t = seedAt t') :
    rawSeed t = 0 ∨ rawSeed t' = 0 := by
  by_contra hne
  obtain ⟨hraw, hraw'⟩ := not_or.mp hne
  have hvalue : rawSeed t = rawSeed t' := by
    rw [← seedAt_raw hraw, ← seedAt_raw hraw', h]
  exact absurd (Congruential.value_inj (by decide) hvalue (Nat.le_of_lt hlt) hnear) (Nat.ne_of_lt hlt)

/-! ## One request -/

section Step
variable {d : TemplateDevice} {q : TemplateRequest}

theorem templateStep_running (hrunning : d.resetting = false) {h' : UDSHandler} {reply : Reply}
    (hserved : udsHandlerProcess udsPlatformCalculateKey d.handler (d.request q) = (h', reply)) :
    (templateStep d q).1 = ⟨h', d.reads + reply.calls.countP readsTick, reply.calls.any isEcuReset⟩ ∧
      (templateStep d q).2.calls = reply.calls ∧
      (reply.calls.any isEcuReset = false → (templateStep d q).2 = reply) := by
  unfold templateStep
  rw [if_neg (by rw [hrunning]; decide), hserved]
  dsimp only
  refine ⟨rfl, ?_, fun hnot => by rw [hnot]; rfl⟩
  split <;> rfl

theorem countP_readsTick_lockoutCalls (h : UDSHandler) (r : Request) :
    (lockoutCalls h r).countP readsTick = lockoutReads h := by
  unfold lockoutCalls lockoutReads
  split <;> rfl

theorem filterMap_seedOf_eq_nil {calls : List PlatformCall} (hnone : ∀ c ∈ calls, seedOf c = none) :
    calls.filterMap seedOf = [] := List.filterMap_eq_nil_iff.mpr hnone

/-- A step generates no seed, or the one of the tick behind the lockout check. -/
theorem seeds_step (d : TemplateDevice) (q : TemplateRequest) :
    d.reads ≤ (templateStep d q).1.reads ∧
    ((templateStep d q).2.calls.filterMap seedOf = [] ∨
      ∃ tick, d.reads ≤ tick ∧ tick < (templateStep d q).1.reads ∧
        (templateStep d q).2.calls.filterMap seedOf = [seedAt tick]) := by
  cases hrunning : d.resetting with
  | true =>
    rw [templateStep, if_pos hrunning]
    exact ⟨le_refl _, Or.inl rfl⟩
  | false =>
    obtain ⟨h', reply, heffect, hstep⟩ := key_step udsPlatformCalculateKey d.handler (d.request q)
    have hserved : udsHandlerProcess udsPlatformCalculateKey d.handler (d.request q) = (h', reply) :=
      congrArg (fun e => (e.post, e.output)) hstep
    obtain ⟨hpost, hcalls, -⟩ := templateStep_running hrunning hserved
    rw [hpost, hcalls]
    refine ⟨Nat.le_add_right _ _, ?_⟩
    have hlockout := filterMap_seedOf_eq_nil fun c hc => (keepsKeys_lockoutCalls d.handler (d.request q) c hc).1
    cases heffect with
    | other _ _ hkeeps => exact Or.inl (filterMap_seedOf_eq_nil fun c hc => (hkeeps c hc).1)
    | seed =>
      refine Or.inr ⟨d.reads + lockoutReads d.handler, Nat.le_add_right _ _, ?_, ?_⟩
      · rw [List.countP_append, countP_readsTick_lockoutCalls]
        change _ < d.reads + (lockoutReads d.handler + 1)
        omega
      · rw [List.filterMap_append, hlockout]
        rfl
    | keyAccepted =>
      left
      rw [List.filterMap_append, hlockout]
      rfl
    | keyWrong _ _ _ hcs =>
      obtain ⟨cs, hcs, htick⟩ := hcs
      left
      rw [hcs, List.filterMap_append, hlockout, List.nil_append]
      refine filterMap_seedOf_eq_nil fun c hc => ?_
      rcases List.mem_cons.mp hc with rfl | hc
      · rfl
      · obtain ⟨t, rfl⟩ := htick c hc
        rfl

end Step

/-! ## The seeds of a run -/

/-- The seeds are those of ticks that were read one behind the other. -/
theorem templateSeeds_ticks (qs : List TemplateRequest) : ∃ ticks : List ℕ,
    templateSeeds qs = ticks.map seedAt ∧ ticks.Pairwise (· < ·) ∧
      ∀ t ∈ ticks, t < (templateMachine.run .init qs).reads := by
  induction qs using List.reverseRecOn with
  | nil => exact ⟨[], rfl, .nil, fun _ ht => absurd ht List.not_mem_nil⟩
  | append_singleton qs q ih =>
    obtain ⟨ticks, hseeds, hordered, hread⟩ := ih
    obtain ⟨hmono, hstep⟩ := seeds_step (templateMachine.run .init qs) q
    have hlog : templateSeeds (qs ++ [q]) = templateSeeds qs ++
        (templateStep (templateMachine.run .init qs) q).2.calls.filterMap seedOf := by
      rw [templateSeeds, Machine.trace_concat, seedsOf, List.flatMap_append, List.flatMap_singleton]
      rfl
    rw [hlog, hseeds, Machine.run_concat]
    rcases hstep with hnone | ⟨tick, hlow, hhigh, hseed⟩
    · refine ⟨ticks, by rw [hnone, List.append_nil], hordered, fun t ht => ?_⟩
      exact Nat.lt_of_lt_of_le (hread t ht) hmono
    · refine ⟨ticks ++ [tick], by rw [hseed, List.map_append]; rfl, ?_, ?_⟩
      · refine List.pairwise_append.mpr ⟨hordered, List.pairwise_singleton _ _, fun t ht t' ht' => ?_⟩
        rw [List.mem_singleton.mp ht']
        exact Nat.lt_of_lt_of_le (hread t ht) hlow
      · intro t ht
        rcases List.mem_append.mp ht with ht | ht
        · exact Nat.lt_of_lt_of_le (hread t ht) hmono
        · rw [List.mem_singleton.mp ht]
          exact hhigh

/-- **Seeds of the template platform.** None is zero, two that are less than `2 ^ 31` ticks apart are
equal only if one of them stands for a zero, and each is computed from any earlier one that does not by
counting the ticks read in between. -/
theorem template_seeds_predictable (qs : List TemplateRequest) : ∃ ticks : List ℕ,
    templateSeeds qs = ticks.map seedAt ∧
    (∀ t ∈ ticks, t < (templateMachine.run .init qs).reads ∧ seedAt t ≠ 0 ∧ (seedAt t).toNat < 2 ^ 31) ∧
    ticks.Pairwise fun t t' => t < t' ∧
      (rawSeed t ≠ 0 → seedAt t' = nextSeed (seedAt t) (t' - t)) ∧
      (t' < t + 2 ^ 31 → seedAt t = seedAt t' → rawSeed t = 0 ∨ rawSeed t' = 0) := by
  obtain ⟨ticks, hseeds, hordered, hread⟩ := templateSeeds_ticks qs
  refine ⟨ticks, hseeds, fun t ht => ⟨hread t ht, seedAt_bounds t⟩, hordered.imp fun {t t'} hlt => ?_⟩
  refine ⟨hlt, fun hne => ?_, fun hnear => seedAt_inj hlt hnear⟩
  rw [← seedAt_add hne, Nat.add_sub_cancel' (Nat.le_of_lt hlt)]

end Mcus.Uds
