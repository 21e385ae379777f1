import VmafQuality.Executor

/-!
# The legacy VMAF score of one frame

`VmafLegacyQualityRunner` rescales four features into `[0, 1]` with the bounds of
`FEATURE_RESCALE_DICT`, asks an SVR model for a score, and passes it through
`_post_correction`. This file models the two numeric steps. Every rescaled value
lies in `[0, 1]` and grows with the raw value (`rescaleValue_mem`,
`rescaleValue_mono`); the corrected score grows with both of its arguments and
lies in `[0, 100]` (`postCorrection_mono`, `postCorrection_mem`).
-/

namespace VmafQuality.VmafLegacyQualityRunner

variable {α : Type} [LinearOrderedField α]

/-- `'VMAF_feature_vif_scores'`. -/
def vifKey : String := "VMAF_feature_vif_scores"

/-- `'VMAF_feature_adm_scores'`. -/
def admKey : String := "VMAF_feature_adm_scores"

/-- `'VMAF_feature_ansnr_scores'`. -/
def ansnrKey : String := "VMAF_feature_ansnr_scores"

/-- `'VMAF_feature_motion_scores'`. -/
def motionKey : String := "VMAF_feature_motion_scores"

/-- `FEATURE_RESCALE_DICT`. -/
def featureRescaleDict : Dict (α × α) :=
  List.toAList [⟨vifKey, (0.0, 1.0)⟩, ⟨admKey, (0.4, 1.0)⟩, ⟨ansnrKey, (10.0, 50.0)⟩,
    ⟨motionKey, (0.0, 20.0)⟩]

/-- `SVM_MODEL_ORDERED_SCORES_KEYS`, the feature order `model_V8a.model` was trained with. -/
def svmModelOrderedScoresKeys : List String := [vifKey, admKey, ansnrKey, motionKey]

/-- `_rescale` on one value: clip it into the bounds, then map them onto `[0, 1]`. -/
def rescaleValue (lowerUpperBound : α × α) (v : α) : α :=
  (npClip v lowerUpperBound.1 lowerUpperBound.2 - lowerUpperBound.1) /
    (lowerUpperBound.2 - lowerUpperBound.1)

/-- `_rescale`: `np.clip(vals, lower_bound, upper_bound)`, then
`(vals - lower_bound) / (upper_bound - lower_bound)`, elementwise. -/
def rescale (vals : List α) (lowerUpperBound : α × α) : List α :=
  vals.map (rescaleValue lowerUpperBound)

/-- `_post_correction`: above a motion of 12 the score grows by 1.5% per unit of
motion, up to motion 20; the result is clamped into `[0, 100]`. -/
def postCorrection (motion score : α) : α :=
  let score :=
    if motion > 12.0 then
      let val := if motion > 20.0 then 20 else motion
      score * ((val - 12) * 0.015 + 1)
    else score
  if score > 100.0 then 100.0 else if score < 0.0 then 0.0 else score

-- ════════════════════════════════════════════════════════════════════════
-- Rescaling
-- ════════════════════════════════════════════════════════════════════════

theorem featureRescaleDict_lookup :
    (featureRescaleDict (α := α)).lookup vifKey = some (0.0, 1.0) ∧
    (featureRescaleDict (α := α)).lookup admKey = some (0.4, 1.0) ∧
    (featureRescaleDict (α := α)).lookup ansnrKey = some (10.0, 50.0) ∧
    (featureRescaleDict (α := α)).lookup motionKey = some (0.0, 20.0) :=
  ⟨rfl, rfl, rfl, rfl⟩

section Bounds

variable {lowerUpperBound : α × α}

theorem rescaleValue_mem (h : lowerUpperBound.1 < lowerUpperBound.2) (v : α) :
    0 ≤ rescaleValue lowerUpperBound v ∧ rescaleValue lowerUpperBound v ≤ 1 := by
  obtain ⟨lo, hi⟩ := lowerUpperBound
  have hd : 0 < hi - lo := sub_pos.mpr h
  have hlo := lower_le_npClip h.le v
  have hhi := npClip_le_upper v lo hi
  exact ⟨div_nonneg (by linarith) hd.le, (div_le_one hd).mpr (by linarith)⟩

theorem rescaleValue_mono (h : lowerUpperBound.1 < lowerUpperBound.2) :
    Monotone (rescaleValue lowerUpperBound) := fun _ _ hv =>
  div_le_div_of_nonneg_right (sub_le_sub_right (npClip_mono _ _ hv) _) (sub_pos.mpr h).le

theorem rescaleValue_of_le_lower (h : lowerUpperBound.1 < lowerUpperBound.2) {v : α}
    (hv : v ≤ lowerUpperBound.1) : rescaleValue lowerUpperBound v = 0 := by
  simp [rescaleValue, npClip_of_le_lower hv h.le]

theorem rescaleValue_of_upper_le (h : lowerUpperBound.1 < lowerUpperBound.2) {v : α}
    (hv : lowerUpperBound.2 ≤ v) : rescaleValue lowerUpperBound v = 1 := by
  rw [rescaleValue, npClip_of_upper_le hv, div_self (sub_pos.mpr h).ne']

end Bounds

theorem featureRescaleDict_lower_lt_upper {key : String} {lowerUpperBound : α × α}
    (h : (featureRescaleDict (α := α)).lookup key = some lowerUpperBound) :
    lowerUpperBound.1 < lowerUpperBound.2 := by
  have he : (featureRescaleDict (α := α)).entries = [⟨vifKey, (0.0, 1.0)⟩, ⟨admKey, (0.4, 1.0)⟩,
      ⟨ansnrKey, (10.0, 50.0)⟩, ⟨motionKey, (0.0, 20.0)⟩] := rfl
  rw [← Option.mem_def, AList.mem_lookup_iff, he] at h
  simp only [List.mem_cons, Sigma.mk.inj_iff, heq_eq_eq, List.mem_singleton,
    List.not_mem_nil, or_false] at h
  rcases h with ⟨-, rfl⟩ | ⟨-, rfl⟩ | ⟨-, rfl⟩ | ⟨-, rfl⟩ <;> norm_num

-- ════════════════════════════════════════════════════════════════════════
-- Post-correction
-- ════════════════════════════════════════════════════════════════════════

/-- The factor `_post_correction` scales a score by, as a function of motion. -/
def correctionFactor (motion : α) : α :=
  if motion > 12.0 then ((if motion > 20.0 then 20 else motion) - 12) * 0.015 + 1 else 1

/-- The decimal literals of `_post_correction`, as numerals. -/
theorem postCorrection_literals :
    (12.0 : α) = 12 ∧ (20.0 : α) = 20 ∧ (0.015 : α) = 3 / 200 ∧ (100.0 : α) = 100 ∧
      (0.0 : α) = 0 := by
  norm_num

theorem correctionFactor_eq (motion : α) :
    correctionFactor motion = if 12 < motion then (min motion 20 - 12) * (3 / 200) + 1 else 1 := by
  obtain ⟨h12, h20, hr, -, -⟩ := postCorrection_literals (α := α)
  simp only [correctionFactor, h12, h20, hr, gt_iff_lt]
  split_ifs with h₁ h₂
  · rw [min_eq_right h₂.le]
  · rw [min_eq_left (not_lt.mp h₂)]
  · rfl

/- Motion 10 is below the first breakpoint, 17 between the two, 25 above the cap at 20. -/
example : correctionFactor (10 : ℚ) = 1 ∧ correctionFactor (17 : ℚ) = 1.075 ∧
    correctionFactor (25 : ℚ) = 1.12 := by
  norm_num [correctionFactor]

theorem one_le_correctionFactor (motion : α) : 1 ≤ correctionFactor motion := by
  rw [correctionFactor_eq]
  split_ifs with h
  · have : 12 ≤ min motion 20 := le_min h.le (by norm_num)
    linarith
  · exact le_rfl

theorem correctionFactor_mono : Monotone (correctionFactor (α := α)) := by
  intro a b hab
  have hmin : min a 20 ≤ min b 20 := min_le_min_right 20 hab
  simp only [correctionFactor_eq]
  split_ifs with ha hb hb
  · linarith
  · exact absurd (ha.trans_le hab) hb
  · have : 12 ≤ min b 20 := le_min hb.le (by norm_num)
    linarith
  · exact le_rfl

theorem correctionFactor_of_le {motion : α} (h : motion ≤ 12) : correctionFactor motion = 1 := by
  rw [correctionFactor_eq, if_neg h.not_lt]

/-- The closing clamp of `_post_correction` is `np.clip` into `[0, 100]`. -/
theorem clamp_eq_npClip (score : α) :
    (if score > 100.0 then 100.0 else if score < 0.0 then 0.0 else score) = npClip score 0 100 := by
  obtain ⟨-, -, -, h100, h0⟩ := postCorrection_literals (α := α)
  simp only [h100, h0, gt_iff_lt, npClip]
  split_ifs with h₁ h₂
  · rw [max_eq_left (by linarith), min_eq_right h₁.le]
  · rw [max_eq_right h₂.le, min_eq_left (by norm_num)]
  · rw [max_eq_left (not_lt.mp h₂), min_eq_left (not_lt.mp h₁)]

theorem postCorrection_eq_npClip (motion score : α) :
    postCorrection motion score = npClip (score * correctionFactor motion) 0 100 := by
  have hs : (if motion > 12.0 then score * (((if motion > 20.0 then 20 else motion) - 12) *
      0.015 + 1) else score) = score * correctionFactor motion := by
    unfold correctionFactor; split_ifs <;> simp
  rw [postCorrection, hs, clamp_eq_npClip]

theorem postCorrection_mem (motion score : α) :
    0 ≤ postCorrection motion score ∧ postCorrection motion score ≤ 100 := by
  rw [postCorrection_eq_npClip]
  exact ⟨lower_le_npClip (by norm_num) _, npClip_le_upper _ _ _⟩

/-- Below motion 12 the correction leaves the score as it is, up to the clamp. -/
theorem postCorrection_of_le {motion : α} (h : motion ≤ 12) (score : α) :
    postCorrection motion score = npClip score 0 100 := by
  rw [postCorrection_eq_npClip, correctionFactor_of_le h, mul_one]

theorem postCorrection_mono_score (motion : α) : Monotone (postCorrection motion) := by
  intro s s' hs
  simp only [postCorrection_eq_npClip]
  exact npClip_mono _ _
    (mul_le_mul_of_nonneg_right hs (zero_le_one.trans (one_le_correctionFactor motion)))

theorem postCorrection_mono_motion (score : α) : Monotone (postCorrection · score) := by
  intro m m' hm
  simp only [postCorrection_eq_npClip]
  rcases le_or_lt 0 score with hs | hs
  · exact npClip_mono _ _ (mul_le_mul_of_nonneg_left (correctionFactor_mono hm) hs)
  · have hneg : ∀ c, 1 ≤ c → score * c ≤ 0 := fun c hc =>
      mul_nonpos_of_nonpos_of_nonneg hs.le (zero_le_one.trans hc)
    rw [npClip_of_le_lower (hneg _ (one_le_correctionFactor m)) (by norm_num),
      npClip_of_le_lower (hneg _ (one_le_correctionFactor m')) (by norm_num)]

/-- The corrected score grows with the motion and with the predicted score. -/
theorem postCorrection_mono {motion motion' score score' : α} (hm : motion ≤ motion')
    (hs : score ≤ score') : postCorrection motion score ≤ postCorrection motion' score' :=
  (postCorrection_mono_score motion hs).trans (postCorrection_mono_motion score' hm)

end VmafQuality.VmafLegacyQualityRunner
