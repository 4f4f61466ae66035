import Mcus.Uds.Security

/-! # A tester with the right key gets in

The seed and the attempt counter are SecurityAccess's own: no other service touches them. A
RequestSeed that is not locked out leaves fewer than three attempts and the seed it answers with, so
the key of that seed opens the lock whatever other services are asked in between.
-/

namespace Mcus.Uds
open ByteOrder Runs
set_option autoImplicit false

/-- The 32-bit number in the answer to a RequestSeed, as the tester reads it. -/
def answeredSeed (reply : Reply) : UInt32 :=
  UInt32.ofNat (beValue ((reply.response.getD []).drop 2))

/-- A RequestSeed, requests of other services, and a SendKey with the key of the answered seed. -/
structure HonestExchange (calculateKey : UInt32 → UInt32) (h : UDSHandler) (seedRequest : Request)
    (others : List Request) (keyRequest : Request) : Prop where
  asksSeed : ∃ rest, seedRequest.bytes = Sid.securityAccess :: securityLevel1 :: rest
  seedRoom : 6 ≤ seedRequest.respCap
  others : ∀ r ∈ others, ¬ r.Asks Sid.securityAccess
  sendsKey : ∃ rest, keyRequest.bytes = Sid.securityAccess :: securityLevel2 ::
    (beBytes32 (calculateKey (answeredSeed ((udsMachine calculateKey).stepAt h seedRequest).output)) ++ rest)
  keyRoom : 6 ≤ keyRequest.respCap

variable {calculateKey : UInt32 → UInt32} {h : UDSHandler} {r : Request}

/-! ## The other services -/

/-- The seed a key is compared with, and the attempts counted so far, are the same. -/
structure SameChallenge (h h' : UDSHandler) : Prop where
  seed : h'.seed = h.seed
  attempts : h'.securityAttempts = h.securityAttempts

theorem sameChallenge_step (calculateKey : UInt32 → UInt32) (h : UDSHandler)
    (hother : ¬ r.Asks Sid.securityAccess) :
    SameChallenge h ((udsMachine calculateKey).stepAt h r).post := by
  obtain ⟨h', reply, heff, he⟩ := step_effect calculateKey h r
  rw [he]
  cases heff with
  | quiet => exact ⟨rfl, rfl⟩
  | session => constructor <;> simp
  | security _ hasks => exact absurd hasks hother
  | seed hasks => exact absurd hasks hother
  | keyAccepted hchecked => exact absurd hchecked.asks hother
  | keyWrong _ hchecked => exact absurd hchecked.asks hother
  | download => exact ⟨rfl, rfl⟩
  | block => exact ⟨rfl, rfl⟩
  | blockFailed => exact ⟨rfl, rfl⟩
  | exit => exact ⟨rfl, rfl⟩

theorem sameChallenge_run (calculateKey : UInt32 → UInt32) (h : UDSHandler) {others : List Request}
    (hothers : ∀ r ∈ others, ¬ r.Asks Sid.securityAccess) :
    SameChallenge h ((udsMachine calculateKey).run h others) := by
  induction others generalizing h with
  | nil => exact ⟨rfl, rfl⟩
  | cons r others ih =>
    obtain ⟨hr, hrest⟩ := List.forall_mem_cons.mp hothers
    have hfirst := sameChallenge_step calculateKey h hr
    have hlater := ih ((udsMachine calculateKey).stepAt h r).post hrest
    exact ⟨hlater.seed.trans hfirst.seed, hlater.attempts.trans hfirst.attempts⟩

/-! ## The two requests of SecurityAccess -/

theorem answeredSeed_carriedOut {seed : UInt32} {respCap : ℕ} {calls : List PlatformCall}
    (hroom : 6 ≤ respCap) :
    answeredSeed ⟨carriedOut Sid.securityAccess (securityLevel1 :: beBytes32 seed) respCap, calls⟩ =
      seed := by
  have hresponse : carriedOut Sid.securityAccess (securityLevel1 :: beBytes32 seed) respCap = some _ :=
    carriedOut_eq (by simpa using hroom)
  unfold answeredSeed
  dsimp only
  rw [hresponse, Option.getD_some, List.drop_succ_cons, List.drop_succ_cons, List.drop_zero,
    beValue_beBytes32, UInt32.ofNat_toNat]

theorem receivedKey_of_bytes {key : UInt32} {rest : List UInt8}
    (hbytes : r.bytes = Sid.securityAccess :: securityLevel2 :: (beBytes32 key ++ rest)) :
    receivedKey r = key := by
  unfold receivedKey Request.byte
  rw [hbytes]
  exact word32_bytes key

theorem keyChecked_of_bytes {key : UInt32} {rest : List UInt8}
    (hbytes : r.bytes = Sid.securityAccess :: securityLevel2 :: (beBytes32 key ++ rest))
    (hattempts : h.securityAttempts < securityAccessAttempts) : KeyChecked h r where
  asks := by rw [Request.Asks, hbytes]; rfl
  length := by
    rw [hbytes]
    simp only [List.length_cons, List.length_append, beBytes32_length]
    omega
  subFunction := by rw [Request.byte, hbytes]; rfl
  passed := Or.inl hattempts

/-- **An honest tester gets in.** The exchange opens a lock that is not in its lockout delay, and
leaves no failed attempt. -/
theorem honest_tester_unlocks {seedRequest keyRequest : Request} {others : List Request}
    (hexchange : HonestExchange calculateKey h seedRequest others keyRequest)
    (hlocked : h.security = .locked) (hpassed : LockoutPassed h seedRequest) :
    let first := (udsMachine calculateKey).stepAt h seedRequest
    let last := (udsMachine calculateKey).stepAt
      ((udsMachine calculateKey).run first.post others) keyRequest
    positiveTo Sid.securityAccess first = true ∧ positiveTo Sid.securityAccess last = true ∧
      last.post.security = .unlocked ∧ last.post.securityAttempts = 0 := by
  obtain ⟨rest, hseed⟩ := hexchange.asksSeed
  obtain ⟨rest', hkey⟩ := hexchange.sendsKey
  have hasks : seedRequest.Asks Sid.securityAccess := by rw [Request.Asks, hseed]; rfl
  have hsub : seedRequest.byte 1 = securityLevel1 := by rw [Request.byte, hseed]; rfl
  have hfirst := stepAt_of_process calculateKey (process_seed hasks hsub hpassed hlocked)
  rw [hfirst, answeredSeed_carriedOut hexchange.seedRoom] at hkey
  rw [hfirst]
  intro first last
  -- the other services leave the seed and the attempts as RequestSeed set them
  have hsame := sameChallenge_run calculateKey first.post hexchange.others
  have hattempts : ((udsMachine calculateKey).run first.post others).securityAttempts <
      securityAccessAttempts := by
    rw [hsame.attempts]
    exact clearExpired_attempts_lt h
  have hchecked := keyChecked_of_bytes hkey hattempts
  have hmatch : receivedKey keyRequest =
      calculateKey ((udsMachine calculateKey).run first.post others).seed := by
    rw [receivedKey_of_bytes hkey, hsame.seed]
  have hlast : last = _ := stepAt_of_process calculateKey (process_key hchecked hmatch)
  have hseedRoom := hexchange.seedRoom
  have hkeyRoom := hexchange.keyRoom
  refine ⟨positiveTo_carriedOut hasks rfl (by simpa using hseedRoom), ?_, ?_, ?_⟩
  · rw [hlast]
    exact positiveTo_carriedOut hchecked.asks rfl (by simp only [List.length_cons, List.length_nil]; omega)
  · rw [hlast]
  · rw [hlast]

/-- Three wrong keys, the delay, and a session change between the seed and its key. -/
theorem honest_tester_unlocks_late :
    let h := recordAfter udsPlatformCalculateKey (List.replicate 3 (plainRequest [0x27, 0x02, 0, 0, 0, 0]))
    let first := (udsMachine udsPlatformCalculateKey).stepAt h ⟨[0x27, 0x01], 6, ⟨10000, 7, 0⟩⟩
    let last := (udsMachine udsPlatformCalculateKey).stepAt
      ((udsMachine udsPlatformCalculateKey).run first.post [plainRequest [0x10, 0x02], plainRequest [0x99]])
      (plainRequest (0x27 :: 0x02 :: beBytes32 (udsPlatformCalculateKey 7)))
    positiveTo Sid.securityAccess first = true ∧ positiveTo Sid.securityAccess last = true ∧
      last.post.security = .unlocked ∧ last.post.securityAttempts = 0 :=
  honest_tester_unlocks ⟨⟨[], by decide⟩, by decide, by decide, ⟨[], by decide⟩, by decide⟩
    (by decide) (Or.inr (by decide))

end Mcus.Uds
