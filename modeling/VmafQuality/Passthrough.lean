import VmafQuality.Executor

/-!
# Runners that pass a feature through

`SsimQualityRunner`, `MsSsimQualityRunner` and `StrredQualityRunner` run one feature
extractor and return its result with one score list renamed: stored under the runner's
`get_scores_key()` and deleted under the extractor's key. Their three `_run_on_asset`
bodies differ only in those two keys, so they are `renameScores` applied to their own.
`VmafSingleFeatureQualityRunner` asks the assembler for one feature of `VMAF_feature`
and returns it alone under the runner's key; its six subclasses differ only in `TYPE`
and `FEATURE_NAME`.

The extractors' keys (`SsimFeatureExtractor.get_scores_key('ssim')` and the like) are
defined outside this file and are parameters here, as is the feature assembler.

Main results:
* `renameScores_eq_ok_iff`, `renameScores_eq_error_iff`: a rename succeeds exactly when
  the extractor's scores are present, and it then moves them; otherwise it raises the
  `KeyError` of the extractor's key (the `del` never raises);
* `renameScores_moves_scores`: the frame lemma of a rename, entry by entry;
* `runOnAsset_eq_ok_iff`, `runOnAsset_eq_error_iff`: a single-feature run returns one
  entry, the feature's scores, or raises the `KeyError` of the missing feature.
-/

namespace VmafQuality

variable {α : Type}

/-- The body shared by the `_run_on_asset` of `SsimQualityRunner`, `MsSsimQualityRunner`
and `StrredQualityRunner`, once the assembler has produced `featureResult`. -/
def renameScores (scoresKey extractorScoresKey : String) (featureResult : Dict (List α)) :
    Except PyError (Dict (List α)) := do
  let resultDict := Dict.update ∅ featureResult
  let scores ← featureResult.getItem extractorScoresKey
  Dict.delItem (resultDict.insert scoresKey scores) extractorScoresKey

/-- `SsimQualityRunner._run_on_asset`; `ssimScoresKey` is
`SsimFeatureExtractor.get_scores_key('ssim')`. -/
def SsimQualityRunner.runOnAsset (ssimScoresKey : String) (featureResult : Dict (List α)) :
    Except PyError (Dict (List α)) :=
  renameScores (getScoresKey Runner.ssim.type) ssimScoresKey featureResult

/-- `MsSsimQualityRunner._run_on_asset`; `msSsimScoresKey` is
`MsSsimFeatureExtractor.get_scores_key('ms_ssim')`. -/
def MsSsimQualityRunner.runOnAsset (msSsimScoresKey : String) (featureResult : Dict (List α)) :
    Except PyError (Dict (List α)) :=
  renameScores (getScoresKey Runner.msSsim.type) msSsimScoresKey featureResult

/-- `StrredQualityRunner._run_on_asset`; `strredScoresKey` is
`StrredFeatureExtractor.get_scores_key('strred')`. -/
def StrredQualityRunner.runOnAsset (strredScoresKey : String) (featureResult : Dict (List α)) :
    Except PyError (Dict (List α)) :=
  renameScores (getScoresKey Runner.strred.type) strredScoresKey featureResult

namespace VmafSingleFeatureQualityRunner

/-- The `feature_dict` of `_get_vmaf_feature_assembler_instance`. -/
def featureDict (featureName : String) : Dict (List String) :=
  AList.singleton "VMAF_feature" [featureName]

/-- `_run_on_asset` of a runner `runner` with `FEATURE_NAME` `featureName`, given the
assembler and `VmafFeatureExtractor.get_scores_key`. -/
def runOnAsset (assembleFeatures : Dict (List String) → Dict (List α))
    (getVmafScoresKey : String → String) (runner : Runner) (featureName : String) :
    Except PyError (Dict (List α)) := do
  let featureResult := assembleFeatures (featureDict featureName)
  let scores ← featureResult.getItem (getVmafScoresKey featureName)
  pure (AList.singleton (getScoresKey runner.type) scores)

theorem runOnAsset_eq_ok_iff (assembleFeatures : Dict (List String) → Dict (List α))
    (getVmafScoresKey : String → String) (runner : Runner) (featureName : String)
    (result : Dict (List α)) :
    runOnAsset assembleFeatures getVmafScoresKey runner featureName = .ok result ↔
      ∃ scores, (assembleFeatures (featureDict featureName)).lookup
          (getVmafScoresKey featureName) = some scores ∧
        result = AList.singleton (getScoresKey runner.type) scores := by
  simp only [runOnAsset, Except.bind_eq_ok_iff, Dict.getItem_eq_ok]
  exact exists_congr fun _ => and_congr_right fun _ => ⟨fun h => (Except.ok.inj h).symm,
    fun h => h ▸ rfl⟩

theorem runOnAsset_eq_error_iff (assembleFeatures : Dict (List String) → Dict (List α))
    (getVmafScoresKey : String → String) (runner : Runner) (featureName : String)
    (e : PyError) :
    runOnAsset assembleFeatures getVmafScoresKey runner featureName = .error e ↔
      (assembleFeatures (featureDict featureName)).lookup (getVmafScoresKey featureName) = none ∧
        e = .keyError (getVmafScoresKey featureName) := by
  cases h : (assembleFeatures (featureDict featureName)).lookup (getVmafScoresKey featureName) <;>
    simp [runOnAsset, Dict.getItem, h, bind, Except.bind, pure, Except.pure, eq_comm]

end VmafSingleFeatureQualityRunner

section Rename

variable {scoresKey extractorScoresKey : String} {featureResult : Dict (List α)}

theorem renameScores_eq_ok_iff {result : Dict (List α)} :
    renameScores scoresKey extractorScoresKey featureResult = .ok result ↔
      ∃ scores, featureResult.lookup extractorScoresKey = some scores ∧
        result = (featureResult.insert scoresKey scores).erase extractorScoresKey := by
  simp only [renameScores, Dict.update_empty, Except.bind_eq_ok_iff, Dict.getItem_eq_ok]
  refine exists_congr fun scores => and_congr_right fun h => ?_
  have hmem : extractorScoresKey ∈ featureResult.insert scoresKey scores := by
    rw [AList.mem_insert]
    exact Or.inr (AList.lookup_isSome.mp (by simp [h]))
  simp [Dict.delItem, hmem, eq_comm]

theorem renameScores_of_lookup_none (h : featureResult.lookup extractorScoresKey = none) :
    renameScores scoresKey extractorScoresKey featureResult =
      .error (.keyError extractorScoresKey) := by
  simp [renameScores, Dict.getItem, h, bind, Except.bind]

theorem renameScores_eq_error_iff {e : PyError} :
    renameScores scoresKey extractorScoresKey featureResult = .error e ↔
      featureResult.lookup extractorScoresKey = none ∧ e = .keyError extractorScoresKey := by
  cases h : featureResult.lookup extractorScoresKey with
  | none => simp [renameScores_of_lookup_none h, eq_comm]
  | some scores => simp [renameScores_eq_ok_iff.mpr ⟨scores, h, rfl⟩]

/-- When the runner's key differs from the extractor's, a run fails with the `KeyError`
of the extractor's key exactly when the feature result lacks it; otherwise the scores
are found under the runner's key only, and every other entry is the feature result's. -/
theorem renameScores_moves_scores (hne : scoresKey ≠ extractorScoresKey) :
    (featureResult.lookup extractorScoresKey = none →
      renameScores scoresKey extractorScoresKey featureResult =
        .error (.keyError extractorScoresKey)) ∧
    ∀ scores, featureResult.lookup extractorScoresKey = some scores →
      ∃ result, renameScores scoresKey extractorScoresKey featureResult = .ok result ∧
        result.lookup scoresKey = some scores ∧ result.lookup extractorScoresKey = none ∧
        ∀ key, key ≠ scoresKey → key ≠ extractorScoresKey →
          result.lookup key = featureResult.lookup key := by
  refine ⟨renameScores_of_lookup_none, fun scores h => ⟨_, renameScores_eq_ok_iff.mpr
    ⟨scores, h, rfl⟩, ?_, AList.lookup_erase _ _, fun key hs he => ?_⟩⟩
  · rw [AList.lookup_erase_ne hne, AList.lookup_insert]
  · rw [AList.lookup_erase_ne he, AList.lookup_insert_ne hs]

end Rename

end VmafQuality
