import Mcus.Simulator.Codec
import Mcus.Uds.Effects

/-! # Where the simulator reads a wire message

`UdsMessage::deserialize` takes the second byte out of the data, and every handler looks for its
first parameter in `data[0]`: the session type, reset type, sub-function or block counter of a wire
message is read one byte behind the place where `uds_handler_process` reads it. The two readings come
to the same answer only where the bytes happen to agree, or neither reading is accepted.
-/

namespace Mcus.Simulator
open ByteOrder
set_option autoImplicit false

/-! ## Two readings of one request -/

/-- The message whose parameters stand where `uds_handler_process` reads them. -/
def atDevicePositions (r : Uds.Request) : UdsMessage := ⟨r.byte 0, 0, r.byte 1 :: r.bytes.drop 2⟩

def sessionTypes : List UInt8 := [0x01, 0x02, 0x03]

variable {h : UdsHandler} {seed : GeneratedSeed} {service p : UInt8} {rest : List UInt8}

theorem positive_ne_negative {data : List UInt8} {nrc : UInt8} :
    createPositiveResponse service data ≠ createNegativeResponse service nrc :=
  fun h => Bool.noConfusion (congrArg UdsResponse.positive h)

theorem positive_inj {data data' : List UInt8}
    (h : createPositiveResponse service data = createPositiveResponse service data') : data = data' :=
  congrArg UdsResponse.data h

theorem negative_inj {nrc nrc' : UInt8}
    (h : createNegativeResponse service nrc = createNegativeResponse service nrc') : nrc = nrc' :=
  congrArg UdsResponse.nrc h

namespace UdsHandler

/-! ## DiagnosticSessionControl -/

/-- What a session type is answered: itself, or a refusal that no other type of its kind gets. -/
inductive SessionAnswer (service t : UInt8) : UdsResponse → Prop
  | started (hknown : t ∈ sessionTypes) : SessionAnswer service t (createPositiveResponse service [t])
  | denied (hprogramming : t = 0x02) :
      SessionAnswer service t (createNegativeResponse service NRC.securityAccessDenied)
  | unknown (hunknown : t ∉ sessionTypes) :
      SessionAnswer service t (createNegativeResponse service NRC.subFunctionNotSupported)

theorem SessionAnswer.unique {t t' : UInt8} {answer : UdsResponse} (ha : SessionAnswer service t answer)
    (ha' : SessionAnswer service t' answer) (ht : t ∈ sessionTypes) : t' = t := by
  cases ha with
  | started =>
    generalize he : createPositiveResponse service [t] = answer at ha'
    cases ha' with
    | started => exact (List.cons.inj (positive_inj he)).1.symm
    | denied => exact absurd he positive_ne_negative
    | unknown => exact absurd he positive_ne_negative
  | denied hprogramming =>
    generalize he : createNegativeResponse service NRC.securityAccessDenied = answer at ha'
    cases ha' with
    | started => exact absurd he.symm positive_ne_negative
    | denied hprogramming' => rw [hprogramming, hprogramming']
    | unknown => exact absurd (negative_inj he) (by decide)
  | unknown hunknown => exact absurd ht hunknown

theorem readDataById_word (subFunction d1 d0 : UInt8) :
    h.handleReadDataById ⟨service, subFunction, d1 :: d0 :: rest⟩ =
      h.handleReadDataById ⟨service, 0, beBytes16 (word16 d1 d0)⟩ := by
  rw [beBytes16_word16]
  rfl

/-- An accepted key is answered with the sub-function, a wrong one with a refusal. -/
theorem checkKey_judged {subFunc k3 k2 k1 k0 : UInt8} {d : UInt8} {data : List UInt8}
    (hlevel : h.securityLevel = .seedSent) :
    h.checkKey subFunc ⟨service, p, d :: k3 :: k2 :: k1 :: k0 :: data⟩ =
      if verifySeedKey h.currentSeed (word32 k3 k2 k1 k0) then
        ({ h with securityLevel := .unlocked }, createPositiveResponse service [subFunc])
      else ({ h with securityLevel := .locked }, createNegativeResponse service NRC.invalidKey) := by
  rw [checkKey, if_neg (not_not.mpr hlevel)]

end UdsHandler

/-! ## The device's positions -/

theorem drop_eq_byte {r : Uds.Request} {i : ℕ} (hi : i < r.bytes.length) :
    r.bytes.drop i = r.byte i :: r.bytes.drop (i + 1) := by
  rw [List.drop_eq_getElem_cons hi, Uds.Request.byte, List.getD_eq_getElem?_getD,
    List.getElem?_eq_getElem hi, Option.getD_some]

/-- A key at the device's position is the one that the device compares. -/
theorem checkKey_atDevicePositions {r : Uds.Request} (hlevel : h.securityLevel = .seedSent)
    (hlen : 6 ≤ r.bytes.length) : h.checkKey (r.byte 1) (atDevicePositions r) =
      if verifySeedKey h.currentSeed (Uds.receivedKey r) then
        ({ h with securityLevel := .unlocked }, createPositiveResponse (r.byte 0) [r.byte 1])
      else ({ h with securityLevel := .locked }, createNegativeResponse (r.byte 0) NRC.invalidKey) := by
  rw [atDevicePositions, drop_eq_byte (by omega), drop_eq_byte (by omega), drop_eq_byte (by omega),
    drop_eq_byte (by omega)]
  exact UdsHandler.checkKey_judged hlevel

/-- A data identifier at the device's position is the one that the device looks up. -/
theorem readDataById_atDevicePositions {r : Uds.Request} (hlen : 3 ≤ r.bytes.length) :
    h.handleReadDataById (atDevicePositions r) =
      h.handleReadDataById ⟨r.byte 0, 0, beBytes16 (word16 (r.byte 1) (r.byte 2))⟩ := by
  rw [atDevicePositions, drop_eq_byte (by omega)]
  exact UdsHandler.readDataById_word _ _ _

/-! ## Every service -/

end Mcus.Simulator
