import VmafQuality.Vmaf.PostProcess

/-!
# `VmafQualityRunner._run_on_asset` and the phone variant

The run loads the model named by `optional_dict` (or the default), assembles the
features the model asks for, and stores the post-processed predictions beside the
features. `VmafPhoneQualityRunner` rejects an explicit `enable_transform_score`
and always transforms.

The phone variant accepts exactly the options without `enable_transform_score`, and on
those it computes what `VmafQualityRunner` computes with `enable_transform_score` set to
`True` (`runOnAsset_phone`). Either runner raises exactly what loading its model raises
(`runOnAsset_eq_error_iff`).

Main results:
* `runOnAsset_scores_clipped`: unless clipping is disabled, every stored score lies
  within the model's `score_clip`;
* `runOnAsset_phone_bounds`: on the same asset the phone runner's scores equal the VMAF
  runner's without a transform, lie above them under `out_gte_in`, below under
  `out_lte_in`.
-/

namespace VmafQuality.VmafQualityRunner

variable {α X : Type} [LinearOrderedField α]

/-- The runner a class is. -/
def Cls.runner : Cls → Runner
  | .vmafQualityRunner => .vmaf
  | .vmafPhoneQualityRunner => .vmafPhone

/-- `DEFAULT_MODEL_FILEPATH`, the file `vmaf_v0.6.1.pkl` of `VmafConfig`'s model
directory. -/
def defaultModelFilepath : String := "vmaf_v0.6.1.pkl"

/-- `DEFAULT_FEATURE_DICT`, for models that carry no `feature_dict`. -/
def defaultFeatureDict : Dict (List String) :=
  List.toAList [⟨"VMAF_feature", ["vif", "adm", "motion", "ansnr"]⟩]

/-- `_load_model`: `loadModel` stands for `TrainTestModel.from_file`, which fails on a
missing or unreadable file. -/
def loadModelFrom (loadModel : String → Except PyError (TrainTestModel X α))
    (optionalDict : Option OptionalDict) : Except PyError (TrainTestModel X α) :=
  loadModel (modelFilepathOr optionalDict defaultModelFilepath)

/-- The `feature_dict` `_get_vmaf_feature_assembler_instance` configures the feature
assembler with. -/
def featureDictOf (model : TrainTestModel X α) : Dict (List String) :=
  model.featureDict.getD defaultFeatureDict

/-- `_run_on_asset`; `assembleFeatures` runs the feature assembler on the asset with a
`feature_dict` and returns its result. -/
def runOnAsset (cls : Cls) (optionalDict : Option OptionalDict)
    (loadModel : String → Except PyError (TrainTestModel X α))
    (assembleFeatures : Dict (List String) → Dict (List α)) : Except PyError (Dict (List α)) := do
  let featureDict := featureDictOf (← loadModelFrom loadModel optionalDict)
  let featureResult := assembleFeatures featureDict
  let model ← loadModelFrom loadModel optionalDict
  let xs := model.getPerUnitXsFromAResult featureResult
  let disableClipScore := flagOrFalse optionalDict OptionalDict.disableClipScore
  let enableTransformScore := flagOrFalse optionalDict OptionalDict.enableTransformScore
  let ysPred := predictWithModel cls model xs ⟨some disableClipScore, some enableTransformScore⟩
  let resultDict := Dict.update ∅ featureResult
  pure (resultDict.insert (getScoresKey cls.runner.type) ysPred)

/-- `VmafPhoneQualityRunner._assert_args`, past `Executor._assert_args`. -/
def assertArgs (optionalDict : Option OptionalDict) : Except PyError Unit :=
  match optionalDict with
  | some d =>
    if d.enableTransformScore.isSome then
      .error (.assertionError
        "Cannot specify enable_transform_score option in VmafPhoneQualityRunner.")
    else .ok ()
  | none => .ok ()

/-- The options with `enable_transform_score` set to `True`, the rest kept. -/
def forceTransform (optionalDict : Option OptionalDict) : Option OptionalDict :=
  some { optionalDict.getD ⟨none, none, none, none, none⟩ with enableTransformScore := some true }

theorem assertArgs_eq_ok_iff (optionalDict : Option OptionalDict) :
    assertArgs optionalDict = .ok () ↔ ∀ d ∈ optionalDict, d.enableTransformScore = none := by
  cases optionalDict with
  | none => simp [assertArgs]
  | some d => cases h : d.enableTransformScore <;> simp [assertArgs, h]

theorem predictWithModel_phone (model : TrainTestModel X α) (xs : X) (kwargs : PredictKwargs) :
    predictWithModel .vmafPhoneQualityRunner model xs kwargs =
      predictWithModel .vmafQualityRunner model xs
        { kwargs with enableTransformScore := some true } :=
  rfl

omit [LinearOrderedField α] in
theorem loadModelFrom_forceTransform (loadModel : String → Except PyError (TrainTestModel X α))
    (optionalDict : Option OptionalDict) :
    loadModelFrom loadModel (forceTransform optionalDict) =
      loadModelFrom loadModel optionalDict := by
  cases optionalDict <;> rfl

theorem flagOrFalse_forceTransform (optionalDict : Option OptionalDict) :
    flagOrFalse (forceTransform optionalDict) OptionalDict.disableClipScore =
      flagOrFalse optionalDict OptionalDict.disableClipScore := by
  cases optionalDict <;> rfl

/-- The phone variant accepts exactly the options without `enable_transform_score`; it
stores, under its own key, the features and scores `VmafQualityRunner` stores when
`enable_transform_score` is `True`. -/
theorem runOnAsset_phone (optionalDict : Option OptionalDict)
    (loadModel : String → Except PyError (TrainTestModel X α))
    (assembleFeatures : Dict (List String) → Dict (List α)) :
    (assertArgs optionalDict = .ok () ↔ ∀ d ∈ optionalDict, d.enableTransformScore = none) ∧
    ∃ result : Except PyError (Dict (List α) × List α),
      runOnAsset .vmafPhoneQualityRunner optionalDict loadModel assembleFeatures =
        result.map (fun r => r.1.insert (getScoresKey Runner.vmafPhone.type) r.2) ∧
      runOnAsset .vmafQualityRunner (forceTransform optionalDict) loadModel assembleFeatures =
        result.map (fun r => r.1.insert (getScoresKey Runner.vmaf.type) r.2) := by
  refine ⟨assertArgs_eq_ok_iff optionalDict, ?_⟩
  cases h : loadModelFrom loadModel optionalDict with
  | error e =>
    refine ⟨.error e, ?_, ?_⟩ <;> simp only [runOnAsset, loadModelFrom_forceTransform, h] <;> rfl
  | ok model =>
    let featureResult := assembleFeatures (featureDictOf model)
    refine ⟨.ok (featureResult, predictWithModel .vmafPhoneQualityRunner model
      (model.getPerUnitXsFromAResult featureResult)
      ⟨some (flagOrFalse optionalDict OptionalDict.disableClipScore),
        some (flagOrFalse optionalDict OptionalDict.enableTransformScore)⟩), ?_, ?_⟩
    · simp only [runOnAsset, h, Dict.update_empty]; rfl
    · simp only [runOnAsset, loadModelFrom_forceTransform, h, flagOrFalse_forceTransform,
        predictWithModel_phone, Dict.update_empty]; rfl

/-- Unless `disable_clip_score` is set, a run whose model loads returns normally, and
every score it stores lies within the model's `score_clip`. -/
theorem runOnAsset_scores_clipped (cls : Cls) (optionalDict : Option OptionalDict)
    (loadModel : String → Except PyError (TrainTestModel X α))
    (assembleFeatures : Dict (List String) → Dict (List α)) {model : TrainTestModel X α}
    {lb ub : α} (hm : loadModelFrom loadModel optionalDict = .ok model)
    (hclip : model.scoreClip = some (lb, ub)) (hlu : lb ≤ ub)
    (hd : flagOrFalse optionalDict OptionalDict.disableClipScore = false) :
    ∃ result scores, runOnAsset cls optionalDict loadModel assembleFeatures = .ok result ∧
      result.lookup (getScoresKey cls.runner.type) = some scores ∧
      ∀ y ∈ scores, lb ≤ y ∧ y ≤ ub := by
  refine ⟨_, _, by simp only [runOnAsset, hm]; rfl, AList.lookup_insert _, fun y hy => ?_⟩
  rw [predictWithModel_eq_map, List.mem_map] at hy
  obtain ⟨y₀, -, rfl⟩ := hy
  simp only [postProcess, hd, clipValue, hclip]
  exact ⟨lower_le_npClip hlu _, npClip_le_upper _ _ _⟩

theorem runOnAsset_scores_clipped_lteInModel :
    ∃ result scores, runOnAsset .vmafQualityRunner none (fun _ => .ok lteInModel)
        (fun _ => ∅) = .ok result ∧
      result.lookup (getScoresKey Runner.vmaf.type) = some scores ∧
      ∀ y ∈ scores, (0 : ℚ) ≤ y ∧ y ≤ 100 :=
  runOnAsset_scores_clipped .vmafQualityRunner none _ _ rfl rfl (by norm_num) rfl

-- ════════════════════════════════════════════════════════════════════════
-- The phone runner against the VMAF runner
-- ════════════════════════════════════════════════════════════════════════

theorem runOnAsset_of_load (cls : Cls) (optionalDict : Option OptionalDict)
    (loadModel : String → Except PyError (TrainTestModel X α))
    (assembleFeatures : Dict (List String) → Dict (List α)) {model : TrainTestModel X α}
    (hm : loadModelFrom loadModel optionalDict = .ok model) :
    runOnAsset cls optionalDict loadModel assembleFeatures =
      .ok ((assembleFeatures (featureDictOf model)).insert (getScoresKey cls.runner.type)
        (predictWithModel cls model
          (model.getPerUnitXsFromAResult (assembleFeatures (featureDictOf model)))
          ⟨some (flagOrFalse optionalDict OptionalDict.disableClipScore),
            some (flagOrFalse optionalDict OptionalDict.enableTransformScore)⟩)) := by
  simp only [runOnAsset, hm, Dict.update_empty]; rfl

/-- The assembler and the prediction never raise: a run fails exactly when loading the
model does, with the loader's exception. -/
theorem runOnAsset_eq_error_iff (cls : Cls) (optionalDict : Option OptionalDict)
    (loadModel : String → Except PyError (TrainTestModel X α))
    (assembleFeatures : Dict (List String) → Dict (List α)) (e : PyError) :
    runOnAsset cls optionalDict loadModel assembleFeatures = .error e ↔
      loadModelFrom loadModel optionalDict = .error e := by
  cases hm : loadModelFrom loadModel optionalDict with
  | error e' => simp [runOnAsset, hm, bind, Except.bind]
  | ok model => simp [runOnAsset_of_load cls optionalDict loadModel assembleFeatures hm]

section PhoneBounds

variable {model : TrainTestModel X α} {kwargs : PredictKwargs} {y : α}

/-- Where the transform raises a prediction, the phone runner's score is at least the
VMAF runner's. -/
theorem postProcess_le_phone (hy : y ≤ transformValue model y) :
    postProcess .vmafQualityRunner model kwargs y ≤
      postProcess .vmafPhoneQualityRunner model kwargs y := by
  have hp : doTransformScore .vmafPhoneQualityRunner kwargs = true := rfl
  unfold postProcess
  by_cases hT : doTransformScore .vmafQualityRunner kwargs = true <;>
    by_cases hD : kwargs.disableClipScore = some true <;>
    simp only [hT, hp, hD, if_true, if_false, Bool.false_eq_true]
  exacts [le_rfl, le_rfl, hy, clipValue_mono model hy]

/-- Where the transform lowers a prediction, the phone runner's score is at most the
VMAF runner's. -/
theorem phone_le_postProcess (hy : transformValue model y ≤ y) :
    postProcess .vmafPhoneQualityRunner model kwargs y ≤
      postProcess .vmafQualityRunner model kwargs y := by
  have hp : doTransformScore .vmafPhoneQualityRunner kwargs = true := rfl
  unfold postProcess
  by_cases hT : doTransformScore .vmafQualityRunner kwargs = true <;>
    by_cases hD : kwargs.disableClipScore = some true <;>
    simp only [hT, hp, hD, if_true, if_false, Bool.false_eq_true]
  exacts [le_rfl, le_rfl, hy, clipValue_mono model hy]

end PhoneBounds

/-- On the same asset and options, the two runners store the same features, and the phone
runner's scores compare with the VMAF runner's frame by frame: equal when the model has no
`score_transform`; above them when its transform is rectified by `out_gte_in`, below by
`out_lte_in`, whatever its polynomial, the clip and the flags. -/
theorem runOnAsset_phone_bounds (optionalDict : Option OptionalDict)
    (loadModel : String → Except PyError (TrainTestModel X α))
    (assembleFeatures : Dict (List String) → Dict (List α)) {model : TrainTestModel X α}
    (hm : loadModelFrom loadModel optionalDict = .ok model) :
    ∃ (featureResult : Dict (List α)) (scores scoresPhone : List α),
      runOnAsset .vmafQualityRunner optionalDict loadModel assembleFeatures =
        .ok (featureResult.insert "VMAF_scores" scores) ∧
      runOnAsset .vmafPhoneQualityRunner optionalDict loadModel assembleFeatures =
        .ok (featureResult.insert "VMAF_Phone_scores" scoresPhone) ∧
      (model.scoreTransform = none → scores = scoresPhone) ∧
      ∀ t, model.scoreTransform = some t →
        (t.outGteIn = some "true" → List.Forall₂ (· ≤ ·) scores scoresPhone) ∧
        (t.outLteIn = some "true" → List.Forall₂ (· ≥ ·) scores scoresPhone) := by
  refine ⟨_, _, _, runOnAsset_of_load .vmafQualityRunner _ _ _ hm,
    runOnAsset_of_load .vmafPhoneQualityRunner _ _ _ hm, fun hn => ?_, fun t ht => ⟨fun hg => ?_,
      fun hl => ?_⟩⟩ <;>
  simp only [predictWithModel_eq_map, List.forall₂_map_left_iff, List.forall₂_map_right_iff]
  · have hy : ∀ y, transformValue model y = y := fun y => by simp only [transformValue, hn]
    exact List.map_congr_left fun y _ => le_antisymm (postProcess_le_phone (hy y).ge)
      (phone_le_postProcess (hy y).le)
  · exact List.forall₂_same.mpr fun y _ =>
      postProcess_le_phone (by simp only [transformValue, ht]; exact le_rectify t hg _ y)
  · exact List.forall₂_same.mpr fun y _ =>
      phone_le_postProcess (by simp only [transformValue, ht]; exact rectify_le t hl _ y)

theorem runOnAsset_phone_bounds_lteInModel :
    ∃ (featureResult : Dict (List ℚ)) (scores scoresPhone : List ℚ),
      runOnAsset .vmafQualityRunner none (fun _ => .ok lteInModel) (fun _ => ∅) =
        .ok (featureResult.insert "VMAF_scores" scores) ∧
      runOnAsset .vmafPhoneQualityRunner none (fun _ => .ok lteInModel) (fun _ => ∅) =
        .ok (featureResult.insert "VMAF_Phone_scores" scoresPhone) ∧
      (lteInModel.scoreTransform = none → scores = scoresPhone) ∧
      ∀ t, lteInModel.scoreTransform = some t →
        (t.outGteIn = some "true" → List.Forall₂ (· ≤ ·) scores scoresPhone) ∧
        (t.outLteIn = some "true" → List.Forall₂ (· ≥ ·) scores scoresPhone) :=
  runOnAsset_phone_bounds none (fun _ => .ok lteInModel) (fun _ => ∅) rfl

end VmafQuality.VmafQualityRunner
