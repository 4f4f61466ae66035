import Mcus.Uds.Runs

/-! # What one request can do to the lock

`KeyEffect` sorts the effects of a request by what they do to the seed, the lock and the attempt
counter: a request generates a seed, has a key compared, or leaves seed and lock to themselves but
for a session change, which may lock and never unlocks.
-/

namespace Mcus.Uds
open ByteOrder Runs
set_option autoImplicit false

variable {calculateKey : UInt32 → UInt32} {h : UDSHandler} {r : Request}

/-! ## Seeds and keys among the platform calls -/

def seedOf : PlatformCall → Option UInt32
  | .generateSeed seed => some seed
  | _ => none

def IsKeyCall : PlatformCall → Bool
  | .calculateKey _ => true
  | _ => false

/-- The seed the step generated. -/
def generatedSeed (e : UDSStep) : Option UInt32 := e.output.calls.findSome? seedOf

def generatesSeed (e : UDSStep) : Bool := (generatedSeed e).isSome

def comparesKey (e : UDSStep) : Bool := e.output.calls.any IsKeyCall

/-- The seed the step generated and sent in a positive response to RequestSeed. -/
def issuedSeed (e : UDSStep) : Option UInt32 :=
  (generatedSeed e).filter fun seed => e.input.Asks Sid.securityAccess ∧
    e.output.response = some ((Sid.securityAccess + positiveResponseOffset) :: securityLevel1 :: beBytes32 seed)

/-- The step compared a key and found it wrong. -/
def wrongKey (calculateKey : UInt32 → UInt32) (e : UDSStep) : Bool :=
  comparesKey e && decide (receivedKey e.input ≠ calculateKey e.pre.seed)

/-- The step compared a key and accepted it. -/
def acceptedKey (calculateKey : UInt32 → UInt32) (e : UDSStep) : Bool :=
  comparesKey e && decide (receivedKey e.input = calculateKey e.pre.seed)

/-- Calls that neither generate a seed nor compare a key. -/
def KeepsKeys (calls : List PlatformCall) : Prop := ∀ c ∈ calls, seedOf c = none ∧ IsKeyCall c = false

theorem keepsKeys_lockoutCalls (h : UDSHandler) (r : Request) : KeepsKeys (lockoutCalls h r) := by
  intro c hc
  rw [lockoutCalls_mem hc]
  exact ⟨rfl, rfl⟩

section Calls
variable {e : UDSStep} {cs : List PlatformCall}

theorem generatedSeed_append (hcalls : e.output.calls = lockoutCalls h r ++ cs) :
    generatedSeed e = cs.findSome? seedOf := by
  have hnone : (lockoutCalls h r).findSome? seedOf = none :=
    List.findSome?_eq_none_iff.mpr fun c hc => (keepsKeys_lockoutCalls h r c hc).1
  rw [generatedSeed, hcalls, List.findSome?_append, hnone, Option.none_or]

theorem comparesKey_append (hcalls : e.output.calls = lockoutCalls h r ++ cs) :
    comparesKey e = cs.any IsKeyCall := by
  have hnone : (lockoutCalls h r).any IsKeyCall = false :=
    List.any_eq_false.mpr fun c hc => by simp [(keepsKeys_lockoutCalls h r c hc).2]
  rw [comparesKey, hcalls, List.any_append, hnone, Bool.false_or]

theorem generatedSeed_none (hkeeps : KeepsKeys e.output.calls) : generatedSeed e = none :=
  List.findSome?_eq_none_iff.mpr fun c hc => (hkeeps c hc).1

theorem comparesKey_none (hkeeps : KeepsKeys e.output.calls) : comparesKey e = false :=
  List.any_eq_false.mpr fun c hc => by simp [(hkeeps c hc).2]

end Calls

/-! ## The effects -/

structure SameAttempts (h h' : UDSHandler) : Prop where
  attempts : h'.securityAttempts = h.securityAttempts
  lockoutTime : h'.securityLockoutTime = h.securityLockoutTime

theorem SameAttempts.refl (h : UDSHandler) : SameAttempts h h := ⟨rfl, rfl⟩

inductive KeyEffect (calculateKey : UInt32 → UInt32) (h : UDSHandler) (r : Request) :
    UDSHandler → Reply → Prop
  | other (h' : UDSHandler) (reply : Reply) (hkeeps : KeepsKeys reply.calls) (hseed : h'.seed = h.seed)
      (hlock : h'.security = .unlocked → h.security = .unlocked)
      (hattempts : SameAttempts h h' ∨ LockoutPassed h r ∧ SameAttempts (clearExpired h) h') :
      KeyEffect calculateKey h r h' reply
  | seed (hasks : r.Asks Sid.securityAccess) (hsub : r.byte 1 = securityLevel1)
      (hpassed : LockoutPassed h r) (hlocked : h.security = .locked) :
      KeyEffect calculateKey h r { clearExpired h with seed := r.platform.seed }
        ⟨carriedOut Sid.securityAccess (securityLevel1 :: beBytes32 r.platform.seed) r.respCap,
          lockoutCalls h r ++ [.generateSeed r.platform.seed]⟩
  | keyAccepted (hchecked : KeyChecked h r) (hkey : receivedKey r = calculateKey h.seed) :
      KeyEffect calculateKey h r { h with security := .unlocked, securityAttempts := 0 }
        ⟨carriedOut Sid.securityAccess [securityLevel2] r.respCap,
          lockoutCalls h r ++ [.calculateKey h.seed]⟩
  | keyWrong (reply : Reply) (hchecked : KeyChecked h r) (hkey : receivedKey r ≠ calculateKey h.seed)
      (hcalls : ∃ cs, reply.calls = lockoutCalls h r ++ .calculateKey h.seed :: cs ∧
        ∀ c ∈ cs, ∃ t, c = .getTickMs t) :
      KeyEffect calculateKey h r (countFailure (clearExpired h) r.platform.tickMs) reply

theorem enterSession_unlocked {sessionType : UInt8}
    (hu : (enterSession h sessionType).security = .unlocked) : h.security = .unlocked := by
  unfold enterSession at hu
  split at hu
  case isTrue => cases hu
  case isFalse =>
    split at hu
    case isTrue => cases hu
    case isFalse => exact hu

theorem key_step (calculateKey : UInt32 → UInt32) (h : UDSHandler) (r : Request) :
    ∃ h' reply, KeyEffect calculateKey h r h' reply ∧
      (udsMachine calculateKey).stepAt h r = ⟨h, r, reply, h'⟩ := by
  obtain ⟨h', reply, heff, he⟩ := step_effect calculateKey h r
  refine ⟨h', reply, ?_, he⟩
  have hempty : KeepsKeys [] := fun c hc => absurd hc List.not_mem_nil
  have hwrite : KeepsKeys [blockWrite h r] := fun c hc => by
    rw [List.mem_singleton.mp hc]
    exact ⟨rfl, rfl⟩
  cases heff with
  | quiet _ hcalls =>
    refine .other _ _ ?_ rfl id (Or.inl (.refl h))
    intro c hc
    rcases hcalls c hc with ⟨t, rfl⟩ | ⟨t, rfl⟩ <;> exact ⟨rfl, rfl⟩
  | session =>
    exact .other _ _ hempty (by simp) enterSession_unlocked (Or.inl ⟨by simp, by simp⟩)
  | security _ _ hpassed =>
    exact .other _ _ (keepsKeys_lockoutCalls h r) (by simp) (by simp) (Or.inr ⟨hpassed, .refl _⟩)
  | seed hasks hsub hpassed hlocked => exact .seed hasks hsub hpassed hlocked
  | keyAccepted hchecked hkey => exact .keyAccepted hchecked hkey
  | keyWrong _ hchecked hkey hcalls => exact .keyWrong _ hchecked hkey hcalls
  | download => exact .other _ _ hempty rfl id (Or.inl ⟨rfl, rfl⟩)
  | block => exact .other _ _ hwrite rfl id (Or.inl ⟨rfl, rfl⟩)
  | blockFailed => exact .other _ _ hwrite rfl id (Or.inl (.refl h))
  | exit => exact .other _ _ hempty rfl id (Or.inl ⟨rfl, rfl⟩)

/-! ## What each effect shows of seeds and keys -/

section Shows
variable {e : UDSStep}

theorem comparesKey_keyAccepted (hcalls : e.output.calls = lockoutCalls h r ++ [.calculateKey h.seed]) :
    comparesKey e = true ∧ generatedSeed e = none := by
  rw [comparesKey_append hcalls, generatedSeed_append hcalls]
  exact ⟨rfl, rfl⟩

theorem comparesKey_keyWrong
    (hcalls : ∃ cs, e.output.calls = lockoutCalls h r ++ .calculateKey h.seed :: cs ∧
      ∀ c ∈ cs, ∃ t, c = .getTickMs t) : comparesKey e = true ∧ generatedSeed e = none := by
  obtain ⟨cs, hcs, htick⟩ := hcalls
  have hnone : cs.findSome? seedOf = none := by
    refine List.findSome?_eq_none_iff.mpr ?_
    intro c hc
    obtain ⟨t, rfl⟩ := htick c hc
    rfl
  rw [comparesKey_append hcs, generatedSeed_append hcs]
  exact ⟨rfl, hnone⟩

theorem generatedSeed_seed {seed : UInt32}
    (hcalls : e.output.calls = lockoutCalls h r ++ [.generateSeed seed]) :
    generatedSeed e = some seed ∧ comparesKey e = false := by
  rw [comparesKey_append hcalls, generatedSeed_append hcalls]
  exact ⟨rfl, rfl⟩

theorem issuedSeed_seed {seed : UInt32} (hasks : e.input.Asks Sid.securityAccess)
    (hgen : generatedSeed e = some seed) (hcap : 6 ≤ e.input.respCap)
    (hresp : e.output.response =
      carriedOut Sid.securityAccess (securityLevel1 :: beBytes32 seed) e.input.respCap) :
    issuedSeed e = some seed := by
  rw [carriedOut_eq (by simpa using hcap)] at hresp
  simp [issuedSeed, hgen, hasks, hresp]

end Shows

end Mcus.Uds
