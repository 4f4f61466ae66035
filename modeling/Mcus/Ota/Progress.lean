import Mathlib.Data.List.Infix
import Mcus.Ota.Manager

/-! # The progress of a download

`getProgress` divides a 32-bit product by the announced size. The count behind it knows neither which
bytes were written nor whether they were written before, so that it is a percentage as long as the
product fits, and the caller sees to the rest.
-/

namespace Mcus.Ota
open Runs
set_option autoImplicit false

/-- The product is one of 32-bit words. -/
def OtaManager.getProgress (m : OtaManager) : Int :=
  if m.targetSize = 0 then 0 else (m.bytesWritten * 100 / m.targetSize).toInt32.toInt

/-- Offset and data of a `writeBlock`. -/
abbrev Block := UInt32 × List UInt8

namespace OtaSystem

def writeBlocks (s : OtaSystem) (blocks : List Block) : OtaSystem :=
  otaMachine.run s (blocks.map fun block => .writeBlock block.1 block.2)

/-- Every block is accepted. -/
def Takes (s : OtaSystem) (blocks : List Block) : Prop :=
  ∀ past block rest, blocks = past ++ block :: rest →
    ((s.writeBlocks past).writeBlock block.1 block.2).2.ok = true

end OtaSystem

/-- The blocks contain the first `size` bytes. -/
def BlocksCover (blocks : List Block) (size : ℕ) : Prop :=
  ∀ i < size, ∃ block ∈ blocks, block.1.toNat ≤ i ∧ i < block.1.toNat + block.2.length

/-- The progress at every point of a download is one of 0 to 100, is no less than before, and is 100 only
for a whole image. -/
structure TruePercentage (s : OtaSystem) (firmwareSize : UInt32) (blocks : List Block) : Prop where
  range : ∀ past, past <+: blocks →
    0 ≤ (s.writeBlocks past).manager.getProgress ∧ (s.writeBlocks past).manager.getProgress ≤ 100
  monotone : ∀ past more, past <+: more → more <+: blocks →
    (s.writeBlocks past).manager.getProgress ≤ (s.writeBlocks more).manager.getProgress
  complete : ∀ past, past <+: blocks → (s.writeBlocks past).manager.getProgress = 100 →
    BlocksCover past firmwareSize.toNat

/-- The bytes of all blocks, however often they were written. -/
def totalBytes (blocks : List Block) : ℕ := (blocks.map (·.2.length)).sum

/-- Less than one per cent more than the image, and no less than the image only when it is whole. -/
def WithinSize (firmwareSize : UInt32) (blocks : List Block) : Prop :=
  firmwareSize ≠ 0 → totalBytes blocks * 100 < 101 * firmwareSize.toNat ∧
    (firmwareSize.toNat ≤ totalBytes blocks → BlocksCover blocks firmwareSize.toNat)

/-! ## The count of bytes -/

section Count
variable {s : OtaSystem} {blocks past more : List Block} {block : Block}

theorem writeBlocks_concat : s.writeBlocks (blocks ++ [block]) =
    ((s.writeBlocks blocks).writeBlock block.1 block.2).1 := by
  unfold OtaSystem.writeBlocks
  rw [List.map_append]
  exact otaMachine.run_concat _ _ _

theorem totalBytes_concat : totalBytes (blocks ++ [block]) = totalBytes blocks + block.2.length := by
  simp [totalBytes]

theorem totalBytes_mono (h : past <+: more) : totalBytes past ≤ totalBytes more := by
  obtain ⟨rest, rfl⟩ := h
  rw [totalBytes, totalBytes, List.map_append, List.sum_append]
  exact Nat.le_add_right _ _

theorem writeBlock_manager {offset : UInt32} {data : List UInt8} (hok : (s.writeBlock offset data).2.ok = true) :
    (s.writeBlock offset data).1.manager =
      { s.manager with bytesWritten := s.manager.bytesWritten + UInt32.ofNat data.length } := by
  unfold OtaSystem.writeBlock at hok ⊢
  split at hok
  case isTrue => cases hok
  case isFalse hstate =>
    rw [if_neg hstate]
    split at hok
    case isTrue => cases hok
    case isFalse hsize => rw [if_neg hsize]

theorem startDownload_manager {firmwareSize : UInt32} {metadata : FirmwareMetadata}
    (hok : (s.startDownload firmwareSize metadata).2.ok = true) :
    (s.startDownload firmwareSize metadata).1.manager.targetSize = firmwareSize ∧
      (s.startDownload firmwareSize metadata).1.manager.bytesWritten = 0 := by
  unfold OtaSystem.startDownload at hok ⊢
  split at hok
  case isTrue => cases hok
  case isFalse hstate =>
    rw [if_neg hstate]
    split at hok
    case isTrue => cases hok
    case isFalse hvalid =>
      rw [if_neg hvalid]
      exact ⟨rfl, rfl⟩

theorem OtaSystem.Takes.of_prefix (h : s.Takes blocks) (hpast : past <+: blocks) : s.Takes past := by
  obtain ⟨later, rfl⟩ := hpast
  intro before block rest hsplit
  exact h before block (rest ++ later) (by rw [hsplit, List.append_assoc, List.cons_append])

theorem takes_concat : s.Takes (blocks ++ [block]) ↔
    s.Takes blocks ∧ ((s.writeBlocks blocks).writeBlock block.1 block.2).2.ok = true :=
  forall_split_concat (P := fun past block => ((s.writeBlocks past).writeBlock block.1 block.2).2.ok = true)

theorem takes_nil : s.Takes [] := fun _ _ _ h => absurd h (by simp)

/-- The bytes are counted, modulo the width of the counter; nothing else of the manager changes. -/
theorem writeBlocks_manager (h : s.Takes blocks) : (s.writeBlocks blocks).manager =
    { s.manager with bytesWritten := s.manager.bytesWritten + UInt32.ofNat (totalBytes blocks) } := by
  induction blocks using List.reverseRecOn with
  | nil =>
    have hzero : s.manager.bytesWritten + UInt32.ofNat (totalBytes []) = s.manager.bytesWritten := by
      rw [totalBytes]
      exact UInt32.add_zero _
    rw [hzero]
    rfl
  | append_singleton blocks block ih =>
    have hpast := ih (h.of_prefix (List.prefix_append _ _))
    rw [writeBlocks_concat, writeBlock_manager (h blocks block [] rfl), hpast, totalBytes_concat,
      UInt32.ofNat_add, UInt32.add_assoc]

/-- Blocks inside the announced size are accepted while the download goes on. -/
theorem takes_of_room (hstate : s.manager.state = .downloading)
    (hroom : ∀ block ∈ blocks, block.1.toNat + block.2.length ≤ s.manager.targetSize.toNat) : s.Takes blocks := by
  induction blocks using List.reverseRecOn with
  | nil => exact takes_nil
  | append_singleton blocks block ih =>
    have hpast := ih fun b hb => hroom b (List.mem_append_left _ hb)
    have hblock := hroom block (List.mem_append_right _ (List.mem_singleton_self _))
    have hsize := s.manager.targetSize.toNat_lt
    refine takes_concat.mpr ⟨hpast, ?_⟩
    have hmanager := writeBlocks_manager hpast
    unfold OtaSystem.writeBlock
    rw [hmanager, if_neg (not_not.mpr hstate), if_neg (by dsimp only; omega)]

end Count

/-! ## The percentage -/

section Percentage
variable {s : OtaSystem} {firmwareSize : UInt32} {metadata : FirmwareMetadata} {blocks : List Block}

theorem toNat_pos {x : UInt32} (hx : x ≠ 0) : 0 < x.toNat :=
  Nat.pos_of_ne_zero fun hzero => hx (UInt32.toNat_inj.mp hzero)

theorem toInt32_toInt (x : UInt32) :
    x.toInt32.toInt = if 2 * x.toNat < 2 ^ 32 then (x.toNat : Int) else x.toNat - 2 ^ 32 :=
  BitVec.toInt_eq_toNat_cond x.toBitVec

/-- A word between 0 and 100 as a signed one. -/
theorem toInt32_within_iff (x : UInt32) : (0 ≤ x.toInt32.toInt ∧ x.toInt32.toInt ≤ 100) ↔ x.toNat ≤ 100 := by
  have hx := x.toNat_lt
  rw [toInt32_toInt]
  split <;> omega

theorem toInt32_of_within {x : UInt32} (hx : x.toNat ≤ 100) : x.toInt32.toInt = x.toNat := by
  rw [toInt32_toInt, if_pos (by omega)]

/-- As long as the product fits, the word behind the progress is the quotient of the numbers. -/
theorem getProgress_eq (hsize : s.manager.targetSize = firmwareSize) (hzero : s.manager.bytesWritten = 0)
    (htakes : s.Takes blocks) (hfits : totalBytes blocks * 100 < 2 ^ 32) :
    ∃ w : UInt32, w.toNat = totalBytes blocks * 100 / firmwareSize.toNat ∧
      (s.writeBlocks blocks).manager.getProgress = w.toInt32.toInt := by
  have hhundred : (100 : UInt32).toNat = 100 := rfl
  have hwritten : (UInt32.ofNat (totalBytes blocks)).toNat = totalBytes blocks :=
    UInt32.toNat_ofNat_of_lt' (by change _ < 2 ^ 32; omega)
  rw [writeBlocks_manager htakes, OtaManager.getProgress, hsize, hzero, UInt32.zero_add]
  by_cases hempty : firmwareSize = 0
  · refine ⟨0, ?_, if_pos hempty⟩
    rw [hempty]
    exact (Nat.div_zero _).symm
  · refine ⟨_, ?_, if_neg hempty⟩
    rw [UInt32.toNat_div, UInt32.toNat_mul, hwritten, hhundred, Nat.mod_eq_of_lt hfits]

theorem within_iff {total size : ℕ} (hsize : 0 < size) : total * 100 / size ≤ 100 ↔ total * 100 < 101 * size := by
  rw [← Nat.lt_succ_iff, Nat.div_lt_iff_lt_mul hsize]

theorem whole_iff {total size : ℕ} (hsize : 0 < size) : 100 ≤ total * 100 / size ↔ size ≤ total := by
  rw [Nat.le_div_iff_mul_le hsize]
  omega

theorem WithinSize.percent_le (h : WithinSize firmwareSize blocks) :
    totalBytes blocks * 100 / firmwareSize.toNat ≤ 100 := by
  by_cases hempty : firmwareSize = 0
  · rw [hempty]
    exact (Nat.div_zero _).trans_le (by omega)
  · exact (within_iff (toNat_pos hempty)).mpr (h hempty).1

end Percentage

/-- **Progress.** While a hundred times the bytes written fit in 32 bits, the progress of a download is a
true percentage exactly if the blocks stay within the size. -/
theorem progress_truePercentage_iff (s : OtaSystem) (firmwareSize : UInt32) (metadata : FirmwareMetadata)
    (blocks : List Block) (hstart : (s.startDownload firmwareSize metadata).2.ok = true)
    (htakes : (s.startDownload firmwareSize metadata).1.Takes blocks) (hfits : totalBytes blocks * 100 < 2 ^ 32) :
    TruePercentage (s.startDownload firmwareSize metadata).1 firmwareSize blocks ↔
      ∀ past, past <+: blocks → WithinSize firmwareSize past := by
  obtain ⟨hsize, hzero⟩ := startDownload_manager hstart
  generalize (s.startDownload firmwareSize metadata).1 = started at htakes hsize hzero ⊢
  have hprogress : ∀ past, past <+: blocks → ∃ w : UInt32,
      w.toNat = totalBytes past * 100 / firmwareSize.toNat ∧
        (started.writeBlocks past).manager.getProgress = w.toInt32.toInt := by
    intro past hpast
    have hle := totalBytes_mono hpast
    exact getProgress_eq hsize hzero (htakes.of_prefix hpast) (by omega)
  constructor
  · intro h past hpast hne
    have hpos := toNat_pos hne
    obtain ⟨w, hw, hpercent⟩ := hprogress past hpast
    have hwithin : w.toNat ≤ 100 := by
      rw [← toInt32_within_iff, ← hpercent]
      exact h.range past hpast
    refine ⟨(within_iff hpos).mp (hw ▸ hwithin), fun hwhole => h.complete past hpast ?_⟩
    have hhundred : w.toNat = 100 := le_antisymm hwithin (hw ▸ (whole_iff hpos).mpr hwhole)
    rw [hpercent, toInt32_of_within hwithin, hhundred]
    rfl
  · intro h
    have hvalue : ∀ past, past <+: blocks → (started.writeBlocks past).manager.getProgress =
        ((totalBytes past * 100 / firmwareSize.toNat : ℕ) : Int) := by
      intro past hpast
      obtain ⟨w, hw, hpercent⟩ := hprogress past hpast
      have hwithin := (h past hpast).percent_le
      rw [hpercent, toInt32_of_within (hw ▸ hwithin), hw]
    refine ⟨?_, ?_, ?_⟩
    · intro past hpast
      rw [hvalue past hpast]
      exact ⟨Int.natCast_nonneg _, Int.ofNat_le.mpr (h past hpast).percent_le⟩
    · intro past more hmore hblocks
      rw [hvalue past (hmore.trans hblocks), hvalue more hblocks]
      have hle := totalBytes_mono hmore
      exact Int.ofNat_le.mpr (Nat.div_le_div_right (by omega))
    · intro past hpast hhundred
      rw [hvalue past hpast] at hhundred
      have hpos : 0 < firmwareSize.toNat := by
        by_contra hnot
        rw [Nat.eq_zero_of_not_pos hnot, Nat.div_zero] at hhundred
        cases hhundred
      have hne : firmwareSize ≠ 0 := fun hzero => by
        rw [hzero] at hpos
        exact absurd hpos (by decide)
      exact (h past hpast hne).2 ((whole_iff hpos).mp (by omega))

/-- A download of the given size into a fresh device. -/
def downloading (firmwareSize : UInt32) : OtaSystem :=
  ((factory false).startDownload firmwareSize ⟨1, firmwareSize, 1, []⟩).1

/-- Two bytes in order. -/
theorem progress_truePercentage_inOrder : TruePercentage (downloading 2) 2 [(0, [0xAA]), (1, [0xBB])] := by
  have htakes : (downloading 2).Takes [(0, [0xAA]), (1, [0xBB])] := takes_of_room rfl (by decide)
  refine (progress_truePercentage_iff _ 2 _ _ rfl htakes (by decide)).mpr ?_
  have hall : ∀ past ∈ List.inits [((0, [0xAA]) : Block), (1, [0xBB])], WithinSize 2 past := by
    unfold WithinSize BlocksCover
    decide
  exact fun past hpast => hall past ((List.mem_inits _ _).mpr hpast)

/-- One byte of two written twice is 100, one of one written twice 200; of a hundred megabytes, 42949672
bytes are 42 and one more is 0. -/
theorem progress_misleads :
    ((downloading 2).Takes [(0, [0xAA]), (0, [0xAA])] ∧
      ¬ TruePercentage (downloading 2) 2 [(0, [0xAA]), (0, [0xAA])]) ∧
    ((downloading 1).Takes [(0, [0xAA]), (0, [0xAA])] ∧
      ¬ TruePercentage (downloading 1) 1 [(0, [0xAA]), (0, [0xAA])]) ∧
    ∀ data : List UInt8, data.length = 42949672 →
      (downloading 100000000).Takes ([(0, data)] ++ [(0, [0xAA])]) ∧
        ¬ TruePercentage (downloading 100000000) 100000000 ([(0, data)] ++ [(0, [0xAA])]) := by
  refine ⟨⟨takes_of_room rfl (by decide), fun h => ?_⟩, ⟨takes_of_room rfl (by decide), fun h => ?_⟩, ?_⟩
  · obtain ⟨block, hblock, -, hlt⟩ := h.complete _ (List.prefix_refl _) rfl 1 (by decide)
    simp only [List.mem_cons, List.not_mem_nil, or_false, or_self] at hblock
    exact absurd (hblock ▸ hlt) (by decide)
  · exact absurd (h.range _ (List.prefix_refl _)).2 (by decide)
  · intro data hdata
    have htakes : (downloading 100000000).Takes ([(0, data)] ++ [(0, [0xAA])]) := by
      refine takes_of_room rfl fun block hblock => ?_
      have hsize : (downloading 100000000).manager.targetSize.toNat = 100000000 := rfl
      rcases List.mem_append.mp hblock with hfirst | hsecond
      · rw [List.mem_singleton.mp hfirst, hdata, hsize]
        change 0 + 42949672 ≤ 100000000
        decide
      · rw [List.mem_singleton.mp hsecond]
        decide
    have hpast : (downloading 100000000).Takes [(0, data)] := htakes.of_prefix ⟨_, rfl⟩
    have htotal : totalBytes [(0, data)] = 42949672 := hdata
    refine ⟨htakes, fun h => ?_⟩
    have hfalls := h.monotone _ _ (List.prefix_append _ _) (List.prefix_refl _)
    rw [writeBlocks_manager hpast, writeBlocks_manager htakes, totalBytes_concat, htotal] at hfalls
    exact absurd hfalls (by decide +kernel)

end Mcus.Ota
