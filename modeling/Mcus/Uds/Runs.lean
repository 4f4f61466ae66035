import Mcus.Foundations.Runs
import Mcus.Uds.Effects

/-! # Runs of the UDS handler

A run starts in the record of `uds_handler_init` and serves any requests in any order. The
predicates below say what a step of such a run did, read off its request and its reply.
-/

namespace Mcus.Uds
open ByteOrder Runs
set_option autoImplicit false

abbrev UDSStep := Step UDSHandler Request Reply

def udsMachine (calculateKey : UInt32 → UInt32) : Machine UDSHandler Request Reply :=
  ⟨udsHandlerProcess calculateKey⟩

variable (calculateKey : UInt32 → UInt32)

theorem udsMachine_step (h : UDSHandler) (r : Request) :
    (udsMachine calculateKey).step h r = udsHandlerProcess calculateKey h r := rfl

abbrev recordAfter (rs : List Request) : UDSHandler := (udsMachine calculateKey).run udsHandlerInit rs

abbrev history (rs : List Request) : List UDSStep := (udsMachine calculateKey).trace udsHandlerInit rs

abbrev nextStep (rs : List Request) (r : Request) : UDSStep :=
  (udsMachine calculateKey).stepAt (recordAfter calculateKey rs) r

theorem step_effect (h : UDSHandler) (r : Request) : ∃ h' reply, Effect calculateKey h r h' reply ∧
    (udsMachine calculateKey).stepAt h r = ⟨h, r, reply, h'⟩ :=
  ⟨_, _, udsHandlerProcess_effect calculateKey h r, rfl⟩

theorem stepAt_of_process {h h' : UDSHandler} {r : Request} {reply : Reply}
    (hp : udsHandlerProcess calculateKey h r = (h', reply)) :
    (udsMachine calculateKey).stepAt h r = ⟨h, r, reply, h'⟩ := by
  unfold Machine.stepAt
  rw [udsMachine_step, hp]

variable {calculateKey}

/-! ## Answers -/

/-- The step is a request to service `sid` that was answered positively. -/
def positiveTo (sid : UInt8) (e : UDSStep) : Bool :=
  decide (e.input.Asks sid) && decide ((e.output.response.bind List.head?) = some (sid + positiveResponseOffset))

theorem positiveTo_asks {sid : UInt8} {e : UDSStep} (h : positiveTo sid e = true) :
    e.input.Asks sid := by
  simp only [positiveTo, Bool.and_eq_true, decide_eq_true_eq] at h
  exact h.1

theorem positiveTo_of_other {sid sid' : UInt8} {e : UDSStep} (hr : e.input.Asks sid')
    (hne : sid' ≠ sid) : positiveTo sid e = false := by
  cases hp : positiveTo sid e with
  | false => rfl
  | true => exact absurd (hr.unique (positiveTo_asks hp)) hne

/-- The transfer services, whose positive answers can not be mistaken for a refusal. -/
def IsTransferSid (sid : UInt8) : Prop :=
  sid ∈ [Sid.requestDownload, Sid.transferData, Sid.requestTransferExit]

theorem negative_head {sid nrc : UInt8} {respCap : ℕ} (hsid : IsTransferSid sid) :
    (udsBuildNegativeResponse sid nrc respCap).bind List.head? ≠ some (sid + positiveResponseOffset) := by
  have hne : negativeResponse ≠ sid + positiveResponseOffset := by
    simp only [IsTransferSid, List.mem_cons, List.not_mem_nil, or_false] at hsid
    rcases hsid with rfl | rfl | rfl <;> decide
  unfold udsBuildNegativeResponse
  split
  case isTrue => simp
  case isFalse => simpa using hne

theorem positiveTo_negative {sid nrc : UInt8} {e : UDSStep} (hsid : IsTransferSid sid)
    (hneg : e.output.response = udsBuildNegativeResponse sid nrc e.input.respCap) :
    positiveTo sid e = false := by
  unfold positiveTo
  rw [hneg, decide_eq_false (negative_head hsid), Bool.and_false]

theorem positiveTo_refused {sid : UInt8} {e : UDSStep} (hsid : IsTransferSid sid)
    (hrefuse : RefusesTransfer e.input e.output) : positiveTo sid e = false := by
  cases hp : positiveTo sid e with
  | false => rfl
  | true =>
    obtain ⟨nrc, hneg⟩ := hrefuse sid hsid (positiveTo_asks hp)
    rw [positiveTo_negative hsid hneg] at hp
    cases hp

theorem carriedOut_eq {sid : UInt8} {data : List UInt8} {respCap : ℕ} (hcap : 1 + data.length ≤ respCap) :
    carriedOut sid data respCap = some ((sid + positiveResponseOffset) :: data) := by
  have hn : ¬ respCap < 1 + data.length := by omega
  simp [carriedOut, positiveOrReject, udsBuildPositiveResponse, hn]

theorem carriedOut_short {sid : UInt8} {data : List UInt8} {respCap : ℕ} (hshort : ¬ 1 + data.length ≤ respCap) :
    carriedOut sid data respCap = udsBuildNegativeResponse sid Nrc.generalReject respCap := by
  rw [carriedOut, positiveOrReject, udsBuildPositiveResponse, if_pos (Nat.not_le.mp hshort)]

theorem positiveTo_carriedOut {sid : UInt8} {e : UDSStep} {data : List UInt8}
    (hasks : e.input.Asks sid) (hresp : e.output.response = carriedOut sid data e.input.respCap)
    (hcap : 1 + data.length ≤ e.input.respCap) : positiveTo sid e = true := by
  simp [positiveTo, hasks, hresp, carriedOut_eq hcap]

/-! ## The way into the programming session -/

/-- A request with room for its response, on a platform that issues the seed `0x01020304` and stores
every block. -/
def plainRequest (bytes : List UInt8) : Request := ⟨bytes, 64, ⟨0, 0x01020304, 0⟩⟩

/-- Enter the programming session, ask for a seed and send its key. -/
def unlockRequests : List Request :=
  [plainRequest [0x10, 0x02], plainRequest [0x27, 0x01],
    plainRequest (0x27 :: 0x02 :: beBytes32 (udsPlatformCalculateKey 0x01020304))]

/-- The way into a download of four bytes at `0x10`. -/
def downloadRequests : List Request :=
  unlockRequests ++ [plainRequest [0x34, 0x00, 0x11, 0x10, 0x04]]

end Mcus.Uds
