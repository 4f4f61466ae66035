import Mcus.Simulator.UdsHandler

/-! # The wire form of the simulator's messages

`UdsMessage::serialize` leaves a sub-function of zero out, while `UdsMessage::deserialize` takes the
second byte for the sub-function whenever there is one. A zero in that place is lost on the way out,
and the first byte of the data takes its place on the way back.
-/

namespace Mcus.Simulator
set_option autoImplicit false

namespace UdsMessage

def serialize (m : UdsMessage) : List UInt8 :=
  m.service :: (if m.subFunction ≠ 0 then [m.subFunction] else []) ++ m.data

/-- The error is the text of the exception. -/
def deserialize : List UInt8 → Except String UdsMessage
  | [] => .error "Empty UDS message"
  | [service] => .ok ⟨service, 0, []⟩
  | service :: subFunction :: data => .ok ⟨service, subFunction, data⟩

theorem serialize_zero (service : UInt8) (data : List UInt8) :
    serialize ⟨service, 0, data⟩ = service :: data := rfl

theorem serialize_of_ne {subFunction : UInt8} (hne : subFunction ≠ 0) (service : UInt8) (data : List UInt8) :
    serialize ⟨service, subFunction, data⟩ = service :: subFunction :: data := by
  rw [serialize, if_pos hne]
  rfl

/-- A byte string is restored by way of the message if a second byte is not zero. -/
theorem serialize_deserialize_iff (raw : List UInt8) :
    (∃ m, deserialize raw = .ok m ∧ m.serialize = raw) ↔ raw ≠ [] ∧ raw[1]? ≠ some 0 := by
  match raw with
  | [] => simp [deserialize]
  | [service] => exact iff_of_true ⟨_, rfl, rfl⟩ ⟨List.cons_ne_nil _ _, nofun⟩
  | service :: subFunction :: data =>
    by_cases hzero : subFunction = 0
    · refine iff_of_false ?_ (by simp [hzero])
      rintro ⟨m, hm, hraw⟩
      obtain rfl := Except.ok.inj hm
      rw [hzero, serialize_zero] at hraw
      exact absurd (congrArg List.length hraw) (by simp)
    · refine iff_of_true ⟨_, rfl, serialize_of_ne hzero service data⟩ ⟨List.cons_ne_nil _ _, ?_⟩
      simpa using hzero

/-- A message is restored by way of its bytes if it has a sub-function or no data. -/
theorem deserialize_serialize_iff (m : UdsMessage) :
    deserialize m.serialize = .ok m ↔ m.subFunction ≠ 0 ∨ m.data = [] := by
  obtain ⟨service, subFunction, data⟩ := m
  by_cases hzero : subFunction = 0
  · subst hzero
    rw [serialize_zero]
    cases data with
    | nil => exact iff_of_true rfl (Or.inr rfl)
    | cons d ds =>
      refine iff_of_false ?_ (by simp)
      intro hback
      have hdata : ds = d :: ds := congrArg UdsMessage.data (Except.ok.inj hback)
      exact absurd (congrArg List.length hdata) (by simp)
  · rw [serialize_of_ne hzero]
    exact iff_of_true rfl (Or.inl hzero)

end UdsMessage

/-- **The codec.** Which byte strings and which messages survive the way there and back. -/
theorem udsMessage_roundTrips_iff (raw : List UInt8) (m : UdsMessage) :
    ((∃ m', UdsMessage.deserialize raw = .ok m' ∧ m'.serialize = raw) ↔ raw ≠ [] ∧ raw[1]? ≠ some 0) ∧
    (UdsMessage.deserialize m.serialize = .ok m ↔ m.subFunction ≠ 0 ∨ m.data = []) :=
  ⟨UdsMessage.serialize_deserialize_iff raw, UdsMessage.deserialize_serialize_iff m⟩

/-- TesterPresent with sub-function zero, and a ReadDataByIdentifier built without a sub-function. -/
theorem zero_subFunction_lost :
    (¬ ∀ raw, raw ≠ [] → ∃ m, UdsMessage.deserialize raw = .ok m ∧ m.serialize = raw) ∧
    ¬ ∀ m : UdsMessage, UdsMessage.deserialize m.serialize = .ok m := by
  constructor
  · intro hback
    obtain ⟨m, hm, hraw⟩ := hback [0x3E, 0x00] (List.cons_ne_nil _ _)
    obtain rfl := Except.ok.inj hm
    exact absurd hraw (by decide)
  · intro hback
    have hread := Except.ok.inj (hback ⟨UdsService.readDataById, 0, [0xF1, 0x86]⟩)
    exact absurd hread (by decide)

end Mcus.Simulator
