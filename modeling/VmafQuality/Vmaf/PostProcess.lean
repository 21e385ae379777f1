import VmafQuality.Executor

/-!
# Post-processing of `VmafQualityRunner.predict_with_model`

The raw predictions of a trained model go through an optional quadratic transform
with rectification (`transform_score`) and an optional clip (`clip_score`), both
driven by the metadata the model carries. `VmafPhoneQualityRunner` differs only in
`_do_transform_score`, which always answers `True`.

Main results:
* `transformScore_rectified`: with `out_lte_in` the output never exceeds the input,
  with `out_gte_in` it never falls below it, and with both it is the input;
* `predictWithModel_mono`: post-processing preserves the order of predictions
  wherever the transform's polynomial does, for both runner classes and every
  setting of the flags.
-/

namespace VmafQuality.VmafQualityRunner

variable {α : Type} [LinearOrderedField α]

/-- The `score_transform` entry of a model: optional coefficients, and the
rectification flags as stored, compared with the string `'true'`. -/
structure ScoreTransform (α : Type) where
  p0 : Option α
  p1 : Option α
  p2 : Option α
  outLteIn : Option String
  outGteIn : Option String

/-- A loaded `TrainTestModel`, as the runner uses it: `predict`,
`get_per_unit_xs_from_a_result`, and the `get_appended_info` entries
`'feature_dict'`, `'score_transform'` and `'score_clip'`. -/
structure TrainTestModel (X α : Type) where
  predict : X → List α
  getPerUnitXsFromAResult : Dict (List α) → X
  featureDict : Option (Dict (List String))
  scoreTransform : Option (ScoreTransform α)
  scoreClip : Option (α × α)

/-- The keyword arguments `predict_with_model` inspects, `none` for an absent key. Only
whether a value is the object `True` matters (`is True`), so any other value is
`some false`. -/
structure PredictKwargs where
  disableClipScore : Option Bool
  enableTransformScore : Option Bool

/-- The classes `predict_with_model` is called on. -/
inductive Cls where
  | vmafQualityRunner
  | vmafPhoneQualityRunner
  deriving DecidableEq, Repr

/-- `cls._do_transform_score(kwargs)`. -/
def doTransformScore : Cls → PredictKwargs → Bool
  | .vmafQualityRunner, kwargs => kwargs.enableTransformScore = some true
  | .vmafPhoneQualityRunner, _ => true

/-- The quadratic of `transform_score` on one value, the coefficients added in turn
to `np.zeros`. -/
def quadratic (t : ScoreTransform α) (yIn : α) : α :=
  let yOut : α := 0
  let yOut := match t.p0 with | some p0 => yOut + p0 | none => yOut
  let yOut := match t.p1 with | some p1 => yOut + p1 * yIn | none => yOut
  match t.p2 with | some p2 => yOut + p2 * yIn * yIn | none => yOut

/-- The rectification of `transform_score`: `np.minimum` with the input under
`out_lte_in`, then `np.maximum` with it under `out_gte_in`. -/
def rectify (t : ScoreTransform α) (yOut yIn : α) : α :=
  let yOut := if t.outLteIn = some "true" then min yOut yIn else yOut
  if t.outGteIn = some "true" then max yOut yIn else yOut

/-- `transform_score`. -/
def transformScore (model : TrainTestModel X α) (ysPred : List α) : List α :=
  match model.scoreTransform with
  | none => ysPred
  | some t => ysPred.map fun yIn => rectify t (quadratic t yIn) yIn

/-- `clip_score`. -/
def clipScore (model : TrainTestModel X α) (ysPred : List α) : List α :=
  match model.scoreClip with
  | some (lb, ub) => ysPred.map (npClip · lb ub)
  | none => ysPred

/-- `predict_with_model`. -/
def predictWithModel (cls : Cls) (model : TrainTestModel X α) (xs : X)
    (kwargs : PredictKwargs) : List α :=
  let ysPred := model.predict xs
  let ysPred := if doTransformScore cls kwargs then transformScore model ysPred else ysPred
  if kwargs.disableClipScore = some true then ysPred else clipScore model ysPred

-- ════════════════════════════════════════════════════════════════════════
-- Transform and rectification
-- ════════════════════════════════════════════════════════════════════════

/-- The polynomial `p0 + p1 * y + p2 * y ^ 2` of a transform, a missing coefficient
read as 0. -/
def ScoreTransform.poly (t : ScoreTransform α) (y : α) : α :=
  t.p0.getD 0 + t.p1.getD 0 * y + t.p2.getD 0 * y ^ 2

theorem quadratic_eq_poly (t : ScoreTransform α) (y : α) : quadratic t y = t.poly y := by
  obtain ⟨_ | p0, _ | p1, _ | p2, _, _⟩ := t <;> simp [quadratic, ScoreTransform.poly] <;> ring

theorem rectify_le (t : ScoreTransform α) (h : t.outLteIn = some "true") (yOut yIn : α) :
    rectify t yOut yIn ≤ yIn := by
  unfold rectify
  split_ifs <;> simp_all

theorem le_rectify (t : ScoreTransform α) (h : t.outGteIn = some "true") (yOut yIn : α) :
    yIn ≤ rectify t yOut yIn := by
  simp [rectify, h]

theorem rectify_of_both (t : ScoreTransform α) (hl : t.outLteIn = some "true")
    (hg : t.outGteIn = some "true") (yOut yIn : α) : rectify t yOut yIn = yIn :=
  le_antisymm (rectify_le t hl yOut yIn) (le_rectify t hg yOut yIn)

theorem rectify_mono (t : ScoreTransform α) {yOut yOut' yIn yIn' : α} (hOut : yOut ≤ yOut')
    (hIn : yIn ≤ yIn') : rectify t yOut yIn ≤ rectify t yOut' yIn' := by
  unfold rectify
  split_ifs
  all_goals first
    | exact max_le_max (min_le_min hOut hIn) hIn
    | exact max_le_max hOut hIn
    | exact min_le_min hOut hIn
    | exact hOut

theorem transformScore_of_some {model : TrainTestModel X α} {t : ScoreTransform α}
    (h : model.scoreTransform = some t) (ysPred : List α) :
    transformScore model ysPred = ysPred.map fun yIn => rectify t (quadratic t yIn) yIn := by
  simp [transformScore, h]

theorem transformScore_rectified (model : TrainTestModel X α) (t : ScoreTransform α)
    (h : model.scoreTransform = some t) (ysPred : List α) :
    (transformScore model ysPred).length = ysPred.length ∧
    (t.outLteIn = some "true" → List.Forall₂ (· ≤ ·) (transformScore model ysPred) ysPred) ∧
    (t.outGteIn = some "true" → List.Forall₂ (· ≥ ·) (transformScore model ysPred) ysPred) ∧
    (t.outLteIn = some "true" → t.outGteIn = some "true" →
      transformScore model ysPred = ysPred) := by
  rw [transformScore_of_some h]
  refine ⟨List.length_map _ _, fun hl => ?_, fun hg => ?_, fun hl hg => ?_⟩
  · exact List.forall₂_map_left_iff.mpr (List.forall₂_same.mpr fun y _ => rectify_le t hl _ y)
  · exact List.forall₂_map_left_iff.mpr (List.forall₂_same.mpr fun y _ => le_rectify t hg _ y)
  · simp [rectify_of_both t hl hg]

/-- A model that predicts its input, transforms it by `1 + y + 0.5 * y ^ 2` rectified by
`out_lte_in`, and clips to `[0, 100]`. -/
def lteInModel : TrainTestModel ℕ ℚ where
  predict n := [(n : ℚ)]
  getPerUnitXsFromAResult _ := 0
  featureDict := none
  scoreTransform := some ⟨some 1, some 1, some 0.5, some "true", none⟩
  scoreClip := some (0, 100)

theorem transformScore_rectified_lteInModel :
    (transformScore lteInModel [2]).length = [(2 : ℚ)].length ∧
    (some "true" = some "true" → List.Forall₂ (· ≤ ·) (transformScore lteInModel [2]) [(2 : ℚ)]) ∧
    ((none : Option String) = some "true" →
      List.Forall₂ (· ≥ ·) (transformScore lteInModel [2]) [(2 : ℚ)]) ∧
    (some "true" = some "true" → (none : Option String) = some "true" →
      transformScore lteInModel [2] = [(2 : ℚ)]) :=
  transformScore_rectified lteInModel _ rfl [2]

example : transformScore lteInModel [2] = [2] := by
  norm_num [transformScore, lteInModel, rectify, quadratic]

-- ════════════════════════════════════════════════════════════════════════
-- Order preservation
-- ════════════════════════════════════════════════════════════════════════

/-- `transform_score` on one prediction. -/
def transformValue (model : TrainTestModel X α) (y : α) : α :=
  match model.scoreTransform with
  | some t => rectify t (quadratic t y) y
  | none => y

/-- `clip_score` on one prediction. -/
def clipValue (model : TrainTestModel X α) (y : α) : α :=
  match model.scoreClip with
  | some (lb, ub) => npClip y lb ub
  | none => y

/-- What `predict_with_model` makes of one raw prediction. -/
def postProcess (cls : Cls) (model : TrainTestModel X α) (kwargs : PredictKwargs) (y : α) : α :=
  let y := if doTransformScore cls kwargs then transformValue model y else y
  if kwargs.disableClipScore = some true then y else clipValue model y

theorem transformScore_eq_map (model : TrainTestModel X α) (ysPred : List α) :
    transformScore model ysPred = ysPred.map (transformValue model) := by
  unfold transformScore transformValue
  split <;> simp_all

theorem clipScore_eq_map (model : TrainTestModel X α) (ysPred : List α) :
    clipScore model ysPred = ysPred.map (clipValue model) := by
  unfold clipScore clipValue
  split <;> simp_all

example : clipScore lteInModel [-5, 50, 150] = [0, 50, 100] := by
  norm_num [clipScore, lteInModel, npClip]

theorem predictWithModel_eq_map (cls : Cls) (model : TrainTestModel X α) (xs : X)
    (kwargs : PredictKwargs) :
    predictWithModel cls model xs kwargs =
      (model.predict xs).map (postProcess cls model kwargs) := by
  dsimp only [predictWithModel]
  rw [transformScore_eq_map, clipScore_eq_map]
  split_ifs <;> refine List.ext_get (by simp) fun i _ _ => ?_ <;> simp [postProcess, *]

theorem transformValue_monotoneOn (model : TrainTestModel X α) {I : Set α}
    (hq : ∀ t, model.scoreTransform = some t → MonotoneOn t.poly I) :
    MonotoneOn (transformValue model) I := by
  intro a ha b hb hab
  unfold transformValue
  cases ht : model.scoreTransform with
  | none => exact hab
  | some t =>
    simp only [quadratic_eq_poly]
    exact rectify_mono t (hq t ht ha hb hab) hab

theorem clipValue_mono (model : TrainTestModel X α) : Monotone (clipValue model) := by
  intro a b hab
  unfold clipValue
  split
  · exact npClip_mono _ _ hab
  · exact hab

theorem postProcess_monotoneOn (cls : Cls) (model : TrainTestModel X α) (kwargs : PredictKwargs)
    {I : Set α} (hq : ∀ t, model.scoreTransform = some t → MonotoneOn t.poly I) :
    MonotoneOn (postProcess cls model kwargs) I := by
  intro a ha b hb hab
  have ht := transformValue_monotoneOn model hq ha hb hab
  by_cases hT : doTransformScore cls kwargs <;>
    by_cases hD : kwargs.disableClipScore = some true <;>
    simp only [postProcess, hT, hD, if_true, if_false]
  exacts [ht, clipValue_mono model ht, hab, clipValue_mono model hab]

theorem forall₂_map_of_monotoneOn {f : α → α} {I : Set α} (hf : MonotoneOn f I) :
    ∀ {ys ys' : List α}, List.Forall₂ (· ≤ ·) ys ys' → (∀ y ∈ ys, y ∈ I) →
      (∀ y ∈ ys', y ∈ I) → List.Forall₂ (· ≤ ·) (ys.map f) (ys'.map f)
  | _, _, .nil, _, _ => .nil
  | _, _, .cons hle hrest, hI, hI' =>
    .cons (hf (hI _ (List.mem_cons_self _ _)) (hI' _ (List.mem_cons_self _ _)) hle)
      (forall₂_map_of_monotoneOn hf hrest (fun y hy => hI y (List.mem_cons_of_mem _ hy))
        (fun y hy => hI' y (List.mem_cons_of_mem _ hy)))

/-- Post-processing keeps two prediction vectors in order wherever the transform's
polynomial is non-decreasing. -/
theorem predictWithModel_mono (cls : Cls) (kwargs : PredictKwargs) (model : TrainTestModel X α)
    {I : Set α} (hq : ∀ t, model.scoreTransform = some t → MonotoneOn t.poly I) {xs xs' : X}
    (hI : ∀ y ∈ model.predict xs, y ∈ I) (hI' : ∀ y ∈ model.predict xs', y ∈ I)
    (hle : List.Forall₂ (· ≤ ·) (model.predict xs) (model.predict xs')) :
    List.Forall₂ (· ≤ ·) (predictWithModel cls model xs kwargs)
      (predictWithModel cls model xs' kwargs) := by
  rw [predictWithModel_eq_map, predictWithModel_eq_map]
  exact forall₂_map_of_monotoneOn (postProcess_monotoneOn cls model kwargs hq) hle hI hI'

theorem lteInModel_poly_monotoneOn (t : ScoreTransform ℚ)
    (ht : lteInModel.scoreTransform = some t) :
    MonotoneOn t.poly (Set.Ici 0) := by
  cases ht
  intro a ha b hb hab
  simp only [Set.mem_Ici] at ha hb
  norm_num [ScoreTransform.poly]
  nlinarith

theorem predictWithModel_mono_lteInModel :
    List.Forall₂ (· ≤ ·) (predictWithModel .vmafPhoneQualityRunner lteInModel 1 ⟨none, none⟩)
      (predictWithModel .vmafPhoneQualityRunner lteInModel 2 ⟨none, none⟩) :=
  predictWithModel_mono .vmafPhoneQualityRunner ⟨none, none⟩ lteInModel
    lteInModel_poly_monotoneOn (by simp [lteInModel]) (by simp [lteInModel])
    (by simp [lteInModel])

end VmafQuality.VmafQualityRunner
