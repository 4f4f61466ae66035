import Mcus.Boot.EndNode
import Mcus.Boot.Zonal
import Mcus.Foundations.Checksum
import Mcus.Foundations.Crc

/-! # The CRC of the configuration

Every operation that changes the configuration record computes the CRC again. Two of them, the
Stage 1 fallback of the end node and the application switch of the zonal gateway, do so before they
clear the count of the bank they switch to, so the CRC they leave is right only if that count was
zero already.
-/

namespace Mcus.Boot
open Checksum
set_option autoImplicit false

/-! ## What CRC-32 notices -/

/-- One bit of the loop is a step of the reflected CRC. -/
theorem crc32Bit_toBitVec (c : UInt32) : (crc32Bit c).toBitVec = Crc.bitStep 0xEDB88320#32 c.toBitVec := by
  have hlow : c &&& 1 = 1 ↔ c.toBitVec.getLsbD 0 = true := by
    rw [← UInt32.toBitVec_inj, UInt32.toBitVec_and]
    change c.toBitVec &&& 1#32 = 1#32 ↔ _
    rw [BitVec.and_one_eq_setWidth_ofBool_getLsbD]
    cases c.toBitVec.getLsbD 0 <;> decide
  rw [crc32Bit, Crc.bitStep]
  by_cases h : c.toBitVec.getLsbD 0 = true
  · rw [if_pos (hlow.mpr h), if_pos h]
    rfl
  · rw [if_neg (mt hlow.mp h), if_neg h, BitVec.xor_zero]
    rfl

theorem crc32Bit_injective : Function.Injective crc32Bit := by
  intro c d h
  have hbits := congrArg UInt32.toBitVec h
  rw [crc32Bit_toBitVec, crc32Bit_toBitVec] at hbits
  exact UInt32.toBitVec_inj.mp (Crc.bitStep_injective rfl hbits)

theorem crc32_detects : Detects crc32 := by
  have hbits : Function.Injective (crc32Bit^[8]) := crc32Bit_injective.iterate 8
  have hfold : Detects fun bytes : List UInt8 =>
      bytes.foldl (fun c b => crc32Bit^[8] (c ^^^ b.toUInt32)) 0xFFFFFFFF := by
    apply detects_foldl
    · intro b c d h
      exact (UInt32.xor_left_inj _).mp (hbits h)
    · intro c a b h
      exact UInt8.toUInt32_inj.mp ((UInt32.xor_right_inj _).mp (hbits h))
  exact hfold.comp fun _ _ h => UInt32.not_inj.mp h

/-! ## The operations on the record -/

/-- The functions of both boot loaders that modify the configuration. -/
inductive Operation
  -- Stage 1 and Stage 2 of either node
  | stage1IncrementBootCount (bank : BootBank)
  | stage1ResetBootCount (bank : BootBank)
  | stage2IncrementAppBootCount (bank : BootBank)
  | stage2ResetAppBootCount (bank : BootBank)
  -- the end node
  | stage1SwitchToFallback
  | stage2SwitchToFallbackApp
  -- the zonal gateway
  | stage2ClearOtaPending
  | stage2SwitchApp

/-- The record an operation leaves; of the two fallbacks, at their `system_reset`. -/
def Operation.apply (env : BootEnv) (cfg : BootConfig) : Operation → BootConfig
  | .stage1IncrementBootCount bank => Boot.stage1IncrementBootCount env cfg bank
  | .stage1ResetBootCount bank => Boot.stage1ResetBootCount env cfg bank
  | .stage2IncrementAppBootCount bank => Boot.stage2IncrementAppBootCount env cfg bank
  | .stage2ResetAppBootCount bank => Boot.stage2ResetAppBootCount env cfg bank
  | .stage1SwitchToFallback => EndNode.stage1SwitchToFallback env cfg
  | .stage2SwitchToFallbackApp => EndNode.stage2SwitchToFallbackApp env cfg
  | .stage2ClearOtaPending => Zonal.stage2ClearOtaPending env cfg
  | .stage2SwitchApp => Zonal.stage2SwitchApp env cfg

/-- The count that is cleared behind the CRC update is zero before. -/
def Operation.ClearsNothing (cfg : BootConfig) : Operation → Prop
  | .stage1SwitchToFallback => stage1GetBootCount cfg (bankOf cfg.stage2Active).other = 0
  | .stage2SwitchApp => stage2GetAppBootCount cfg (bankOf cfg.appActive).other = 0
  | _ => True

variable {env : BootEnv} {cfg : BootConfig}

theorem switchApp_crcValid (hcount : stage2GetAppBootCount cfg (bankOf cfg.appActive).other = 0) :
    CrcValid env (Zonal.stage2SwitchApp env cfg) := by
  by_cases hzero : cfg.appActive = 0
  · have hcntB : cfg.appBootCntB = 0 := by
      rw [bankOf, if_pos hzero] at hcount
      exact hcount
    simp [Zonal.stage2SwitchApp, toggle, hzero, updateCrc, CrcValid, BootConfig.bytes, hcntB]
  · have hcntA : cfg.appBootCntA = 0 := by
      rw [bankOf, if_neg hzero] at hcount
      exact hcount
    simp [Zonal.stage2SwitchApp, toggle, hzero, updateCrc, CrcValid, BootConfig.bytes, hcntA]

section Detecting
variable (hdetects : Detects env.calculateCrc32)
include hdetects

theorem fallback_count_zero (hvalid : CrcValid env (EndNode.stage1SwitchToFallback env cfg)) :
    stage1GetBootCount cfg (bankOf cfg.stage2Active).other = 0 := by
  by_cases hzero : cfg.stage2Active = 0
  · rw [bankOf, if_pos hzero]
    simp only [EndNode.stage1SwitchToFallback, toggle, hzero, updateCrc, CrcValid, if_true] at hvalid
    exact (hdetects [1, cfg.stage2BootCntA] _ _ _ hvalid).symm
  · rw [bankOf, if_neg hzero]
    simp only [EndNode.stage1SwitchToFallback, toggle, hzero, updateCrc, CrcValid, if_true, if_false]
      at hvalid
    exact (hdetects [0] _ _ _ hvalid).symm

theorem switchApp_count_zero (hvalid : CrcValid env (Zonal.stage2SwitchApp env cfg)) :
    stage2GetAppBootCount cfg (bankOf cfg.appActive).other = 0 := by
  by_cases hzero : cfg.appActive = 0
  · rw [bankOf, if_pos hzero]
    simp only [Zonal.stage2SwitchApp, toggle, hzero, updateCrc, CrcValid, if_true] at hvalid
    exact (hdetects [cfg.stage2Active, cfg.stage2BootCntA, cfg.stage2BootCntB, 1, cfg.appBootCntA]
      _ _ _ hvalid).symm
  · rw [bankOf, if_neg hzero]
    simp only [Zonal.stage2SwitchApp, toggle, hzero, updateCrc, CrcValid, if_true, if_false] at hvalid
    exact (hdetects [cfg.stage2Active, cfg.stage2BootCntA, cfg.stage2BootCntB, 0] _ _ _ hvalid).symm

theorem clearsNothing_of_crcValid {op : Operation} (hvalid : CrcValid env (op.apply env cfg)) :
    op.ClearsNothing cfg := by
  cases op with
  | stage1SwitchToFallback => exact fallback_count_zero hdetects hvalid
  | stage2SwitchApp => exact switchApp_count_zero hdetects hvalid
  | _ => exact trivial

end Detecting

theorem crcValid_of_clearsNothing {op : Operation} (h : op.ClearsNothing cfg) :
    CrcValid env (op.apply env cfg) := by
  cases op with
  | stage1IncrementBootCount bank => exact crcValid_stage1IncrementBootCount cfg bank
  | stage1ResetBootCount bank => cases bank <;> exact crcValid_updateCrc _
  | stage2IncrementAppBootCount bank => cases bank <;> exact crcValid_updateCrc _
  | stage2ResetAppBootCount bank => cases bank <;> exact crcValid_updateCrc _
  | stage1SwitchToFallback => exact EndNode.fallback_crcValid h
  | stage2SwitchToFallbackApp => exact crcValid_updateCrc _
  | stage2ClearOtaPending => exact crcValid_updateCrc _
  | stage2SwitchApp => exact switchApp_crcValid h

/-- **Configuration integrity.** An operation leaves a valid CRC exactly when it is neither of the
two switches, or the count of the bank switched to was zero. -/
theorem operation_crcValid_iff (hdetects : Detects env.calculateCrc32) (cfg : BootConfig)
    (op : Operation) : CrcValid env (op.apply env cfg) ↔ op.ClearsNothing cfg :=
  ⟨clearsNothing_of_crcValid hdetects, crcValid_of_clearsNothing⟩

theorem operation_crcValid_of_crc32 :
    CrcValid (envWith []) (Operation.apply (envWith []) (cleanConfig (envWith []))
      .stage1SwitchToFallback) ↔
    Operation.ClearsNothing (cleanConfig (envWith [])) .stage1SwitchToFallback :=
  operation_crcValid_iff crc32_detects _ _

/-- Bank A is active and bank B failed to boot twice, on either node and in either stage. -/
theorem switch_leaves_stale_crc :
    ∃ env cfg, CrcValid env cfg ∧
      ¬ CrcValid env (Operation.apply env cfg .stage1SwitchToFallback) ∧
      ¬ CrcValid env (Operation.apply env cfg .stage2SwitchApp) := by
  refine ⟨envWith [], updateCrc (envWith []) ⟨0, 0, 2, 0, 0, 2, 0, Vector.replicate 9 0, 0⟩,
    crcValid_updateCrc _, ?_, ?_⟩
  · intro hvalid
    have hclears := clearsNothing_of_crcValid crc32_detects hvalid
    exact absurd hclears (by unfold Operation.ClearsNothing; decide)
  · intro hvalid
    have hclears := clearsNothing_of_crcValid crc32_detects hvalid
    exact absurd hclears (by unfold Operation.ClearsNothing; decide)

end Mcus.Boot
