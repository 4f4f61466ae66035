import Mcus.Doip.Message
import Mcus.Doip.Server

/-! # Vehicle identification

The server of the gateway announces itself in 33 bytes: VIN, logical address, EID, GID, further action
and the synchronisation status of VIN and GID. `doip_parse_vehicle_id_res` of the controllers treats the
last byte as optional, behind a test that refuses every payload without it.
-/

namespace Mcus.Doip
open ByteOrder
set_option autoImplicit false

/-- What the identification response is made of. -/
structure DoIPServerConfig where
  vin : List UInt8 := "WBADT43452G296403".toUTF8.toList
  logicalAddress : UInt16 := 0x0100
  eid : List UInt8 := [0x11, 0x22, 0x33, 0x44, 0x55, 0x66]
  gid : List UInt8 := [0xAA, 0xBB, 0xCC, 0xDD, 0xEE, 0xFF]

/-- `payload.resize(n, fill)`. -/
def resizeFill (bytes : List UInt8) (n : ℕ) (fill : UInt8) : List UInt8 :=
  bytes.take n ++ List.replicate (n - bytes.length) fill

/-- The request itself is not used. -/
def handleVehicleIdentificationReq (config : DoIPServerConfig) : DoIPMessage :=
  doIPMessage vehicleIdentificationRes
    (resizeFill config.vin 17 0x20 ++ beBytes16 config.logicalAddress ++ config.eid ++ config.gid ++ [0x00, 0x00])

/-- A payload, and the identification that it carries: one built by the server, or 32 bytes, which end
with the further action. -/
inductive Announces : List UInt8 → DoIPVehicleIdRes → Prop
  | server (config : DoIPServerConfig) (heid : config.eid.length = 6) (hgid : config.gid.length = 6) :
      Announces (handleVehicleIdentificationReq config).payloadData
        ⟨resizeFill config.vin 17 0x20, config.logicalAddress, config.eid, config.gid, 0, 0⟩
  | withoutStatus (vin eid gid : List UInt8) (address : UInt16) (action : UInt8) (hvin : vin.length = 17)
      (heid : eid.length = 6) (hgid : gid.length = 6) :
      Announces (vin ++ beBytes16 address ++ eid ++ gid ++ [action]) ⟨vin, address, eid, gid, action, 0⟩

/-! ## The fields at their offsets -/

section Fields
variable {vin eid gid : List UInt8} {address : UInt16}

theorem resizeFill_length (bytes : List UInt8) (n : ℕ) (fill : UInt8) :
    (resizeFill bytes n fill).length = n := by
  rw [resizeFill, List.length_append, List.length_take, List.length_replicate]
  omega

theorem fields_length (hvin : vin.length = 17) (heid : eid.length = 6) (hgid : gid.length = 6)
    (tail : List UInt8) :
    (vin ++ beBytes16 address ++ eid ++ gid ++ tail).length = 31 + tail.length := by
  have haddress : (beBytes16 address).length = 2 := rfl
  simp only [List.length_append, hvin, haddress, heid, hgid]

theorem getD_behind {front : List UInt8} {n : ℕ} (hfront : front.length = n) (rest : List UInt8) (i : ℕ) :
    (front ++ rest).getD (n + i) 0 = rest.getD i 0 := by
  rw [← hfront, List.getD_append_right _ _ _ _ (Nat.le_add_right _ _), Nat.add_sub_cancel_left]

theorem slice_behind {front mid : List UInt8} {n k : ℕ} (hfront : front.length = n) (hmid : mid.length = k)
    (rest : List UInt8) : ((front ++ mid ++ rest).drop n).take k = mid := by
  rw [List.append_assoc, List.drop_left' hfront, List.take_left' hmid]

/-- The reader finds every field where the writer put it. -/
theorem doipParseVehicleIdRes_fields (hvin : vin.length = 17) (heid : eid.length = 6) (hgid : gid.length = 6)
    (action status : UInt8) :
    doipParseVehicleIdRes (some (vin ++ beBytes16 address ++ eid ++ gid ++ [action, status])) 33 =
      some ⟨vin, address, eid, gid, action, status⟩ := by
  have hfront : (vin ++ beBytes16 address).length = 19 := by
    rw [List.length_append, hvin]
    rfl
  have hmiddle : (vin ++ beBytes16 address ++ eid).length = 25 := by rw [List.length_append, hfront, heid]
  have hall : (vin ++ beBytes16 address ++ eid ++ gid).length = 31 := by rw [List.length_append, hmiddle, hgid]
  have hvinField : (vin ++ beBytes16 address ++ eid ++ gid ++ [action, status]).take doipVinLength = vin := by
    simp only [List.append_assoc]
    exact List.take_left' hvin
  have heidField :
      ((vin ++ beBytes16 address ++ eid ++ gid ++ [action, status]).drop 19).take doipEidLength = eid := by
    rw [List.append_assoc (vin ++ beBytes16 address ++ eid)]
    exact slice_behind hfront heid _
  have hgidField :
      ((vin ++ beBytes16 address ++ eid ++ gid ++ [action, status]).drop 25).take doipGidLength = gid :=
    slice_behind hmiddle hgid _
  have haddressField : ∀ i, (vin ++ beBytes16 address ++ eid ++ gid ++ [action, status]).getD (17 + i) 0 =
      (beBytes16 address ++ (eid ++ gid ++ [action, status])).getD i 0 := by
    intro i
    simp only [List.append_assoc]
    exact getD_behind hvin _ i
  have hactionField := getD_behind hall [action, status] 0
  have hstatusField := getD_behind hall [action, status] 1
  have hswap : doipNtohs (word16 address.toUInt8 (address >>> 8).toUInt8) = address := by
    rw [doipNtohs, swap16_word16, word16_bytes]
  unfold doipParseVehicleIdRes
  dsimp only
  rw [if_neg (by decide : ¬ (33 : ℕ) < 33), if_pos (le_refl 33), hvinField, heidField, hgidField,
    haddressField 1, haddressField 0, hactionField, hstatusField]
  exact congrArg (fun a => some (⟨vin, a, eid, gid, action, status⟩ : DoIPVehicleIdRes)) hswap

theorem doipParseVehicleIdRes_short {payload : Option (List UInt8)} {n : ℕ} (hn : n < 33) :
    doipParseVehicleIdRes payload n = none := by
  unfold doipParseVehicleIdRes
  cases payload with
  | none => rfl
  | some payload => exact if_pos hn

end Fields

/-- **Vehicle identification.** The reader returns what a payload carries exactly if the optional byte is
there. -/
theorem vehicleIdRes_read_iff {payload : List UInt8} {response : DoIPVehicleIdRes}
    (h : Announces payload response) :
    doipParseVehicleIdRes (some payload) payload.length = some response ↔ payload.length = 33 := by
  cases h with
  | server config heid hgid =>
    have hvin := resizeFill_length config.vin 17 0x20
    have hlen : (handleVehicleIdentificationReq config).payloadData.length = 33 :=
      fields_length hvin heid hgid [0x00, 0x00]
    rw [hlen]
    exact iff_of_true (doipParseVehicleIdRes_fields hvin heid hgid 0 0) rfl
  | withoutStatus vin eid gid address action hvin heid hgid =>
    have hlen : (vin ++ beBytes16 address ++ eid ++ gid ++ [action]).length = 32 :=
      fields_length hvin heid hgid [action]
    rw [hlen, doipParseVehicleIdRes_short (by decide)]
    exact iff_of_false nofun (by decide)

/-- The default configuration. -/
theorem vehicleIdRes_read_default :
    (handleVehicleIdentificationReq {}).payloadData.length = 33 ∧
      doipParseVehicleIdRes (some (handleVehicleIdentificationReq {}).payloadData)
          (handleVehicleIdentificationReq {}).payloadData.length =
        some ⟨resizeFill "WBADT43452G296403".toUTF8.toList 17 0x20, 0x0100, [0x11, 0x22, 0x33, 0x44, 0x55, 0x66],
          [0xAA, 0xBB, 0xCC, 0xDD, 0xEE, 0xFF], 0, 0⟩ := by
  have hlen : (handleVehicleIdentificationReq {}).payloadData.length = 33 := by decide +kernel
  exact ⟨hlen, (vehicleIdRes_read_iff (Announces.server {} rfl rfl)).mpr hlen⟩

/-- The same fields without the optional byte are refused. -/
theorem withoutStatus_refused : ¬ ∀ payload response, Announces payload response →
    doipParseVehicleIdRes (some payload) payload.length = some response := by
  intro hall
  have hread := hall _ _ (Announces.withoutStatus (List.replicate 17 0x41) (List.replicate 6 0x11)
    (List.replicate 6 0xAA) 0x0100 0 rfl rfl rfl)
  rw [doipParseVehicleIdRes_short (by decide)] at hread
  cases hread

end Mcus.Doip
