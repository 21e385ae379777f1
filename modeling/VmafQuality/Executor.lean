import VmafQuality.Python

/-!
# What every quality runner shares

Every runner names itself by `TYPE` and `VERSION`. The type alone fixes the field
names of its results: `get_scores_key`, `get_score_key`, and for the VMAFOSSEXEC
runner `get_feature_scores_key`. The VMAFOSSEXEC reader relies on two facts about them:
distinct atom features get distinct fields (`getFeatureScoresKey_injective`), and a
per-feature field is never the scores field (`getFeatureScoresKey_ne_getScoresKey`).

Runners are configured through `optional_dict`, whose recognised entries are
`OptionalDict`.
-/

namespace VmafQuality

/-- `QualityRunner.get_scores_key`. -/
def getScoresKey (type : String) : String := type ++ "_scores"

/-- `QualityRunner.get_score_key`. -/
def getScoreKey (type : String) : String := type ++ "_score"

/-- `VmafossExecQualityRunner.get_feature_scores_key`:
`"{type}_{atom_feature}_scores".format(...)`. -/
def getFeatureScoresKey (type atomFeature : String) : String :=
  type ++ "_" ++ atomFeature ++ "_scores"

theorem getFeatureScoresKey_injective (type : String) :
    Function.Injective (getFeatureScoresKey type) := by
  intro a b h
  simpa [getFeatureScoresKey, String.ext_iff] using h

theorem getFeatureScoresKey_ne_getScoresKey (type atomFeature : String) :
    getFeatureScoresKey type atomFeature ≠ getScoresKey type := by
  intro h
  have := congrArg String.length h
  have hs : "_scores".length = 7 := rfl
  have hu : "_".length = 1 := rfl
  simp only [getFeatureScoresKey, getScoresKey, String.length_append] at this
  omega

/-- The concrete runners of `quality_runner.py`, one per class. -/
inductive Runner where
  | psnr | vmafLegacy | vmaf | vmafPhone | vmafossExec | ssim | msSsim
  | adm2 | vifScale0 | vifScale1 | vifScale2 | vifScale3 | motion | strred
  deriving DecidableEq, Repr

namespace Runner

/-- `TYPE`. -/
def type : Runner → String
  | psnr => "PSNR"
  | vmafLegacy => "VMAF_legacy"
  | vmaf => "VMAF"
  | vmafPhone => "VMAF_Phone"
  | vmafossExec => "VMAFOSSEXEC"
  | ssim => "SSIM"
  | msSsim => "MS_SSIM"
  | adm2 => "ADM2"
  | vifScale0 => "VIF_SCALE0"
  | vifScale1 => "VIF_SCALE1"
  | vifScale2 => "VIF_SCALE2"
  | vifScale3 => "VIF_SCALE3"
  | motion => "MOTION"
  | strred => "STRRED"

/-- `VmafQualityRunner.VERSION`. -/
def vmafVersion (featureVersion : String) : String := "F" ++ featureVersion ++ "-0.6.1"

/-- `VERSION`, from `VmafFeatureExtractor.VERSION` and `StrredFeatureExtractor.VERSION`,
which are defined outside `quality_runner.py`. -/
def version (featureVersion strredVersion : String) : Runner → String
  | psnr | ssim | msSsim => "1.0"
  | vmafLegacy => "F" ++ featureVersion ++ "-1.1"
  | vmaf | vmafossExec => vmafVersion featureVersion
  | vmafPhone => vmafVersion featureVersion ++ "-phone"
  | adm2 | vifScale0 | vifScale1 | vifScale2 | vifScale3 | motion => "F" ++ featureVersion ++ "-0"
  | strred => "F" ++ strredVersion ++ "-1.1"

end Runner

/-- The recognised entries of `optional_dict`, `none` for an absent key. The runners
test a flag only through `is True`, so a flag is a `Bool`; a `model_filepath` of
`None` reads as absent, as `_load_model` treats it. -/
structure OptionalDict where
  modelFilepath : Option String
  disableClipScore : Option Bool
  enableTransformScore : Option Bool
  phoneModel : Option Bool
  disableAvx : Option Bool

/-- The pattern `optional_dict[key] if optional_dict is not None and key in optional_dict
else False` that the runners use for every flag. -/
def flagOrFalse (optionalDict : Option OptionalDict) (key : OptionalDict → Option Bool) : Bool :=
  (optionalDict.bind key).getD false

/-- The model path of `_load_model` and `_generate_result`: `model_filepath` when given and
not `None`, else the runner's default. -/
def modelFilepathOr (optionalDict : Option OptionalDict) (defaultModelFilepath : String) : String :=
  (optionalDict.bind OptionalDict.modelFilepath).getD defaultModelFilepath

end VmafQuality
