import VmafQuality.Executor

/-!
# `VmafossExecQualityRunner._get_quality_scores`

`vmafossexec` writes an XML log with one `frame` element per frame. Its attributes hold
the final score `vmaf` and the sub-features of `FEATURES`. The reader is given the
attribute maps of the `frames/frame` elements, in document order. A frame without
`vmaf` raises `KeyError`. A missing sub-feature is skipped by `except KeyError: pass`.
A value that `float` rejects raises `ValueError`, which nothing catches.

The loop's state is `scores` and `feature_scores`, one list per feature. After any
prefix of the frames the state is `stateAfter` of that prefix: the values `float`
gives to each attribute over the frames that carry it. The step lemma
`step_stateAfter_eq_ok_iff` and the run lemma `foldlM_step_eq_ok_iff` say so;
`step_stateAfter` and `foldlM_step_eq` add the exception a frame raises (`frameError`).

Main results:
* `getQualityScores_eq_ok_iff_readable`: the reader succeeds exactly on a nonempty
  list of readable frames, and returns `resultOf` them;
* `getQualityScores_reads_frames`: the entries of that result, key by key;
* `getQualityScores_fails_at_first_unreadable_frame`: otherwise the first unreadable
  frame decides the exception (`frameError`), and later frames are never read.
-/

namespace VmafQuality.VmafossExecQualityRunner

variable {α : Type}

/-- `FEATURES`, the sub-features read from each frame. -/
def features : List String :=
  ["adm2", "adm_scale0", "adm_scale1", "adm_scale2", "adm_scale3", "motion", "vif_scale0",
    "vif_scale1", "vif_scale2", "vif_scale3", "vif", "psnr", "ssim", "ms_ssim", "motion2"]

/-- `DEFAULT_MODEL_FILEPATH`, the file `vmaf_v0.6.1.pkl` of `VmafConfig`'s model
directory. -/
def defaultModelFilepath : String := "vmaf_v0.6.1.pkl"

/-- The arguments of `ExternalProgramCaller.call_vmafossexec` that the options decide. -/
structure CallArgs where
  model : String
  disableClipScore : Bool
  enableTransformScore : Bool
  phoneModel : Bool
  disableAvx : Bool
  exe : Option String

/-- `_get_exec`: `None`, which selects the default executable. -/
def getExec : Option String := none

/-- `_generate_result` up to the call of the executable: every option falls back to
its default when absent. -/
def generateResult (optionalDict : Option OptionalDict) : CallArgs where
  model := modelFilepathOr optionalDict defaultModelFilepath
  disableClipScore := flagOrFalse optionalDict OptionalDict.disableClipScore
  enableTransformScore := flagOrFalse optionalDict OptionalDict.enableTransformScore
  phoneModel := flagOrFalse optionalDict OptionalDict.phoneModel
  disableAvx := flagOrFalse optionalDict OptionalDict.disableAvx
  exe := getExec

/-- `feature_scores[i_feature].append(float(frame.attrib[feature]))` inside its `try`:
only the `KeyError` of a missing attribute is caught. -/
def appendFeature (float : String → Option α) (frame : Dict String) (feature : String)
    (featureScore : List α) : Except PyError (List α) :=
  tryCatch
    (do
      let score ← pyFloat float (← frame.getItem feature)
      pure (featureScore ++ [score]))
    fun
    | .keyError _ => pure featureScore
    | e => throw e

/-- The variables of the loop of `_get_quality_scores`. -/
structure State (α : Type) where
  scores : List α
  featureScores : List (List α)

/-- One frame of `for frame in root.findall('frames/frame')`: its `vmaf`, then each
feature of `enumerate(self.FEATURES)` with its list. -/
def step (float : String → Option α) (s : State α) (frame : Dict String) :
    Except PyError (State α) := do
  let score ← pyFloat float (← frame.getItem "vmaf")
  let featureScores ← (features.zip s.featureScores).mapM fun (feature, featureScore) =>
    appendFeature float frame feature featureScore
  pure ⟨s.scores ++ [score], featureScores⟩

/-- `quality_result[self.get_feature_scores_key(feature)] = feature_scores[i_feature]`
when the list is nonempty. -/
def insertFeatureScores (qualityResult : Dict (List α)) (p : String × List α) :
    Dict (List α) :=
  if p.2.length ≠ 0 then qualityResult.insert (getFeatureScoresKey Runner.vmafossExec.type p.1) p.2
  else qualityResult

/-- `_get_quality_scores` on the attribute maps of the frames of the log. -/
def getQualityScores (float : String → Option α) (frames : List (Dict String)) :
    Except PyError (Dict (List α)) := do
  let s ← frames.foldlM (step float) ⟨[], features.map fun _ => []⟩
  if s.scores.length ≠ 0 then
    pure ((features.zip s.featureScores).foldl insertFeatureScores
      (AList.singleton (getScoresKey Runner.vmafossExec.type) s.scores))
  else throw (.assertionError "")

-- ════════════════════════════════════════════════════════════════════════
-- What the loop computes
-- ════════════════════════════════════════════════════════════════════════

/-- The values `float` gives to attribute `key` of the frames that carry it, in order. -/
def attributeValues (float : String → Option α) (key : String) (frames : List (Dict String)) :
    List α :=
  frames.filterMap fun frame => (frame.lookup key).bind float

/-- The loop's state once it has read `frames`. -/
def stateAfter (float : String → Option α) (frames : List (Dict String)) : State α :=
  ⟨attributeValues float "vmaf" frames, features.map fun f => attributeValues float f frames⟩

/-- `float` accepts attribute `key` of `frame` when the frame carries it. -/
def Parses (float : String → Option α) (frame : Dict String) (key : String) : Prop :=
  ∀ text ∈ frame.lookup key, ∃ score, float text = some score

/-- A frame the loop reads without raising: it carries `vmaf`, and `float` accepts its
`vmaf` and every feature it carries. -/
def Readable (float : String → Option α) (frame : Dict String) : Prop :=
  "vmaf" ∈ frame ∧ ∀ key ∈ "vmaf" :: features, Parses float frame key

/-- The `ValueError` `float(frame.attrib[key])` raises: the frame carries `key` and
`float` rejects its text. -/
def attributeError (float : String → Option α) (frame : Dict String) (key : String) :
    Option PyError :=
  match frame.lookup key with
  | some text =>
    if (float text).isNone then some (.valueError ("could not convert string to float: " ++ text))
    else none
  | none => none

/-- The exception the loop raises on `frame`, in the order it reads the frame: the
`KeyError` of a missing `vmaf`, else the `ValueError` of the first of `vmaf` and
`FEATURES` whose text `float` rejects. -/
def frameError (float : String → Option α) (frame : Dict String) : Option PyError :=
  match frame.lookup "vmaf" with
  | none => some (.keyError "vmaf")
  | some _ => ("vmaf" :: features).findSome? (attributeError float frame)

/-- The exception `_get_quality_scores` raises on the frames of a log, `none` when it
returns: that of the first unreadable frame (`frameError`), else on a log without frames
the `AssertionError` of `assert len(scores) != 0`. -/
def logError (float : String → Option α) (frames : List (Dict String)) : Option PyError :=
  if frames = [] then some (.assertionError "") else frames.findSome? (frameError float)

/-- The dict `_get_quality_scores` builds from the values of `frames`. -/
def resultOf (float : String → Option α) (frames : List (Dict String)) : Dict (List α) :=
  (features.map fun f => (f, attributeValues float f frames)).foldl insertFeatureScores
    (AList.singleton (getScoresKey Runner.vmafossExec.type) (attributeValues float "vmaf" frames))

section Frames

variable {float : String → Option α} {key : String} {frames : List (Dict String)}
  {frame : Dict String}

@[simp] theorem attributeValues_nil : attributeValues float key [] = [] := rfl

theorem attributeValues_append_singleton :
    attributeValues float key (frames ++ [frame]) =
      attributeValues float key frames ++ ((frame.lookup key).bind float).toList := by
  simp only [attributeValues, List.filterMap_append, List.filterMap_cons, List.filterMap_nil]
  cases (frame.lookup key).bind float <;> rfl

theorem stateAfter_nil : stateAfter float [] = ⟨[], features.map fun _ => []⟩ := rfl

/-- Where `float` accepts every `key` present, `attributeValues` holds one value per
frame carrying `key`, the value of its text. -/
theorem forall₂_attributeValues (h : ∀ frame ∈ frames, Parses float frame key) :
    List.Forall₂ (fun text score => float text = some score)
      (frames.filterMap (·.lookup key)) (attributeValues float key frames) := by
  induction frames with
  | nil => exact .nil
  | cons frame frames ih =>
    have ht := h frame (List.mem_cons_self _ _)
    have hr := ih fun f hf => h f (List.mem_cons_of_mem _ hf)
    cases hl : frame.lookup key with
    | none =>
      simp only [attributeValues, List.filterMap_cons, hl, Option.none_bind]
      exact hr
    | some text =>
      obtain ⟨score, hs⟩ := ht text hl
      simp only [attributeValues, List.filterMap_cons, hl, Option.some_bind, hs]
      exact .cons hs hr

/-- Where every frame carries `key`, its values are one per frame. -/
theorem forall₂_frames_attributeValues
    (h : ∀ frame ∈ frames, key ∈ frame ∧ Parses float frame key) :
    List.Forall₂ (fun frame score => ∃ text, frame.lookup key = some text ∧ float text = some score)
      frames (attributeValues float key frames) := by
  induction frames with
  | nil => exact .nil
  | cons frame frames ih =>
    obtain ⟨hm, hp⟩ := h frame (List.mem_cons_self _ _)
    have hr := ih fun f hf => h f (List.mem_cons_of_mem _ hf)
    obtain ⟨text, hl⟩ := Option.isSome_iff_exists.mp (AList.lookup_isSome.mpr hm)
    obtain ⟨score, hs⟩ := hp text hl
    simpa [attributeValues, hl, hs] using List.Forall₂.cons ⟨text, hl, hs⟩ hr

end Frames

-- ════════════════════════════════════════════════════════════════════════
-- The loop
-- ════════════════════════════════════════════════════════════════════════

section Loop

variable {float : String → Option α} {frames : List (Dict String)} {frame : Dict String}

theorem appendFeature_eq_ok_iff {feature : String} {featureScore featureScore' : List α} :
    appendFeature float frame feature featureScore = .ok featureScore' ↔
      Parses float frame feature ∧
      featureScore' = featureScore ++ ((frame.lookup feature).bind float).toList := by
  unfold appendFeature Parses
  cases hl : frame.lookup feature with
  | none =>
    simp [hl, Dict.getItem, tryCatch, tryCatchThe, MonadExceptOf.tryCatch, Except.tryCatch,
      bind, Except.bind, pure, Except.pure, eq_comm]
  | some text =>
    cases hf : float text <;>
      simp [hl, hf, Dict.getItem, pyFloat, tryCatch, tryCatchThe, MonadExceptOf.tryCatch,
        Except.tryCatch, bind, Except.bind, pure, Except.pure, eq_comm]

/-- The inner loop over `FEATURES`, from the lists of the frames read so far. -/
theorem mapM_appendFeature_eq_ok_iff (keys : List String) {featureScores : List (List α)} :
    (keys.zip (keys.map fun f => attributeValues float f frames)).mapM
        (fun (feature, featureScore) => appendFeature float frame feature featureScore) =
        .ok featureScores ↔
      (∀ key ∈ keys, Parses float frame key) ∧
      featureScores = keys.map fun f => attributeValues float f (frames ++ [frame]) := by
  induction keys generalizing featureScores with
  | nil =>
    rw [List.map_nil, List.zip_nil_left, List.mapM_nil]
    simp [pure, Except.pure, eq_comm]
  | cons key keys ih =>
    simp only [List.map_cons, List.zip_cons_cons, List.mapM_cons, Except.bind_eq_ok_iff,
      appendFeature_eq_ok_iff, ih, List.forall_mem_cons, attributeValues_append_singleton]
    constructor
    · rintro ⟨_, ⟨hk, rfl⟩, _, ⟨hks, rfl⟩, h⟩
      exact ⟨⟨hk, hks⟩, (Except.ok.inj h).symm⟩
    · rintro ⟨⟨hk, hks⟩, rfl⟩
      exact ⟨_, ⟨hk, rfl⟩, _, ⟨hks, rfl⟩, rfl⟩

/-- One frame: it is read without raising exactly when it is readable, and the state
then covers it too. -/
theorem step_stateAfter_eq_ok_iff {s' : State α} :
    step float (stateAfter float frames) frame = .ok s' ↔
      Readable float frame ∧ s' = stateAfter float (frames ++ [frame]) := by
  simp only [step, stateAfter, Readable, Except.bind_eq_ok_iff, Dict.getItem_eq_ok,
    pyFloat_eq_ok, mapM_appendFeature_eq_ok_iff, List.forall_mem_cons,
    attributeValues_append_singleton, ← AList.lookup_isSome, Option.isSome_iff_exists]
  constructor
  · rintro ⟨text, hl, score, hs, _, ⟨hks, rfl⟩, h⟩
    refine ⟨⟨⟨text, hl⟩, fun t ht => ⟨score, ?_⟩, hks⟩, ?_⟩
    · rw [hl, Option.mem_some_iff] at ht; exact ht ▸ hs
    · rw [← Except.ok.inj h, hl, Option.some_bind, hs]; rfl
  · rintro ⟨⟨⟨text, hl⟩, hv, hks⟩, rfl⟩
    obtain ⟨score, hs⟩ := hv text hl
    refine ⟨text, hl, score, hs, _, ⟨hks, rfl⟩, ?_⟩
    rw [hl, Option.some_bind, hs]; rfl

/-- A run of the loop reads exactly the readable frames, and ends in the state that
covers them. -/
theorem foldlM_step_eq_ok_iff (frames₀ frames : List (Dict String)) {s' : State α} :
    frames.foldlM (step float) (stateAfter float frames₀) = .ok s' ↔
      (∀ frame ∈ frames, Readable float frame) ∧ s' = stateAfter float (frames₀ ++ frames) := by
  induction frames generalizing frames₀ with
  | nil => simp [pure, Except.pure, eq_comm]
  | cons frame frames ih =>
    rw [List.foldlM_cons, Except.bind_eq_ok_iff, List.forall_mem_cons]
    constructor
    · rintro ⟨_, hs, hrun⟩
      obtain ⟨hr, rfl⟩ := step_stateAfter_eq_ok_iff.mp hs
      obtain ⟨hrs, rfl⟩ := (ih _).mp hrun
      exact ⟨⟨hr, hrs⟩, by simp⟩
    · rintro ⟨⟨hr, hrs⟩, rfl⟩
      exact ⟨_, step_stateAfter_eq_ok_iff.mpr ⟨hr, rfl⟩, (ih _).mpr ⟨hrs, by simp⟩⟩

end Loop

-- ════════════════════════════════════════════════════════════════════════
-- The result
-- ════════════════════════════════════════════════════════════════════════

theorem vmafossexec_scoresKey : getScoresKey Runner.vmafossExec.type = "VMAFOSSEXEC_scores" := by
  decide

theorem vmafossexec_featureScoresKey (f : String) :
    getFeatureScoresKey Runner.vmafossExec.type f = "VMAFOSSEXEC_" ++ f ++ "_scores" := by
  rw [getFeatureScoresKey, show Runner.vmafossExec.type ++ "_" = "VMAFOSSEXEC_" by decide]

section Result

variable {d : Dict (List α)}

/-- Inserting feature lists leaves every key that is not a feature key as it was. -/
theorem lookup_foldl_insertFeatureScores_of_ne {k : String}
    (hk : ∀ f, k ≠ getFeatureScoresKey Runner.vmafossExec.type f) (ps : List (String × List α)) :
    (ps.foldl insertFeatureScores d).lookup k = d.lookup k := by
  induction ps generalizing d with
  | nil => rfl
  | cons p ps ih =>
    rw [List.foldl_cons, ih, insertFeatureScores]
    split_ifs
    · exact AList.lookup_insert_ne (hk p.1)
    · rfl

/-- The feature key of `f` holds `g f` once some feature list is inserted for it and is
nonempty; a feature inserted twice gets the same list twice. -/
theorem lookup_foldl_insertFeatureScores (g : String → List α) (f : String) (keys : List String) :
    ((keys.map fun f => (f, g f)).foldl insertFeatureScores d).lookup
        (getFeatureScoresKey Runner.vmafossExec.type f) =
      if f ∈ keys ∧ (g f).length ≠ 0 then some (g f)
      else d.lookup (getFeatureScoresKey Runner.vmafossExec.type f) := by
  induction keys generalizing d with
  | nil => simp
  | cons key keys ih =>
    rw [List.map_cons, List.foldl_cons, ih, insertFeatureScores]
    by_cases hkey : key = f
    · subst hkey
      by_cases hg : (g key).length = 0 <;> simp [hg]
    · have hne : getFeatureScoresKey Runner.vmafossExec.type f ≠
          getFeatureScoresKey Runner.vmafossExec.type key :=
        fun h => hkey (getFeatureScoresKey_injective _ h).symm
      split_ifs <;> simp_all [AList.lookup_insert_ne hne, Ne.symm hkey]

end Result

section Reads

variable {float : String → Option α} {frames : List (Dict String)}

theorem zip_features_map (g : String → List α) :
    features.zip (features.map g) = features.map fun f => (f, g f) := by
  simpa using List.zip_map' id g features

/-- Readable frames have one `vmaf` value each. -/
theorem forall₂_vmaf_attributeValues (h : ∀ frame ∈ frames, Readable float frame) :
    List.Forall₂ (fun frame score =>
      ∃ text, frame.lookup "vmaf" = some text ∧ float text = some score)
      frames (attributeValues float "vmaf" frames) :=
  forall₂_frames_attributeValues fun frame hf =>
    ⟨(h frame hf).1, (h frame hf).2 _ (List.mem_cons_self _ _)⟩

theorem getQualityScores_eq_ok_iff_readable (result : Dict (List α)) :
    getQualityScores float frames = .ok result ↔
      frames ≠ [] ∧ (∀ frame ∈ frames, Readable float frame) ∧ result = resultOf float frames := by
  rw [getQualityScores, ← @stateAfter_nil α float, Except.bind_eq_ok_iff]
  simp only [foldlM_step_eq_ok_iff, List.nil_append]
  constructor
  · rintro ⟨_, ⟨hr, rfl⟩, hres⟩
    by_cases hn : (attributeValues float "vmaf" frames).length = 0
    · simp [hn, stateAfter, throw, throwThe, MonadExceptOf.throw] at hres
    · simp only [hn, stateAfter, ne_eq, not_false_eq_true, if_true, pure, Except.pure,
        Except.ok.injEq] at hres
      refine ⟨fun h => hn (by simp [h]), hr, ?_⟩
      rw [← hres, resultOf, zip_features_map]
  · rintro ⟨hne, hr, rfl⟩
    have hn : (attributeValues float "vmaf" frames).length ≠ 0 := by
      rw [← (forall₂_vmaf_attributeValues hr).length_eq]
      exact fun h => hne (List.eq_nil_of_length_eq_zero h)
    refine ⟨_, ⟨hr, rfl⟩, ?_⟩
    simp only [hn, stateAfter, ne_eq, not_false_eq_true, if_true, pure, Except.pure, resultOf,
      zip_features_map]

theorem resultOf_lookup_scores (float : String → Option α) (frames : List (Dict String)) :
    (resultOf float frames).lookup (getScoresKey Runner.vmafossExec.type) =
      some (attributeValues float "vmaf" frames) := by
  rw [resultOf, lookup_foldl_insertFeatureScores_of_ne
    (fun f h => getFeatureScoresKey_ne_getScoresKey _ f h.symm)]
  exact Dict.lookup_singleton

theorem resultOf_lookup_feature (float : String → Option α) (frames : List (Dict String))
    (f : String) :
    (resultOf float frames).lookup (getFeatureScoresKey Runner.vmafossExec.type f) =
      if f ∈ features ∧ (attributeValues float f frames).length ≠ 0 then
        some (attributeValues float f frames)
      else none := by
  rw [resultOf, lookup_foldl_insertFeatureScores, Dict.lookup_singleton_ne
    (getFeatureScoresKey_ne_getScoresKey _ f)]

/-- The result has no keys but the scores key and the keys of `FEATURES`. -/
theorem resultOf_keys (float : String → Option α) (frames : List (Dict String)) {key : String}
    (h : key ∈ resultOf float frames) :
    key = getScoresKey Runner.vmafossExec.type ∨
      ∃ f ∈ features, key = getFeatureScoresKey Runner.vmafossExec.type f := by
  rw [← AList.lookup_isSome] at h
  by_contra hk
  push_neg at hk
  by_cases hf : ∃ f, key = getFeatureScoresKey Runner.vmafossExec.type f
  · obtain ⟨f, rfl⟩ := hf
    have hnf : f ∉ features := fun hm => hk.2 f hm rfl
    simp [resultOf_lookup_feature, hnf] at h
  · push_neg at hf
    rw [resultOf, lookup_foldl_insertFeatureScores_of_ne hf, Dict.lookup_singleton_ne hk.1] at h
    exact Bool.false_ne_true h

/-- The reader succeeds exactly on a nonempty list of frames that all carry `vmaf` and
whose `vmaf` and feature values `float` accepts. Its result then holds the `vmaf`
values, one per frame; for each feature, an entry exactly when some frame carries it,
holding its values over those frames in order; and nothing else. -/
theorem getQualityScores_reads_frames (float : String → Option α) (frames : List (Dict String)) :
    ((∃ result, getQualityScores float frames = .ok result) ↔
      frames ≠ [] ∧ ∀ frame ∈ frames, "vmaf" ∈ frame ∧
        ∀ key ∈ "vmaf" :: features, ∀ text ∈ frame.lookup key, ∃ score, float text = some score) ∧
    ∀ result, getQualityScores float frames = .ok result →
      (∃ scores, result.lookup "VMAFOSSEXEC_scores" = some scores ∧
        List.Forall₂ (fun frame score =>
          ∃ text, frame.lookup "vmaf" = some text ∧ float text = some score) frames scores) ∧
      (∀ f ∈ features,
        ((result.lookup ("VMAFOSSEXEC_" ++ f ++ "_scores")).isSome ↔ ∃ frame ∈ frames, f ∈ frame) ∧
        ∀ scores ∈ result.lookup ("VMAFOSSEXEC_" ++ f ++ "_scores"),
          List.Forall₂ (fun text score => float text = some score)
            (frames.filterMap (·.lookup f)) scores) ∧
      ∀ key ∈ result,
        key = "VMAFOSSEXEC_scores" ∨ ∃ f ∈ features, key = "VMAFOSSEXEC_" ++ f ++ "_scores" := by
  refine ⟨⟨fun ⟨_, h⟩ => ?_, fun ⟨hne, hr⟩ => ?_⟩, fun result h => ?_⟩
  · have h' := (getQualityScores_eq_ok_iff_readable _).mp h
    exact ⟨h'.1, h'.2.1⟩
  · exact ⟨_, (getQualityScores_eq_ok_iff_readable _).mpr ⟨hne, hr, rfl⟩⟩
  obtain ⟨-, hr, rfl⟩ := (getQualityScores_eq_ok_iff_readable result).mp h
  refine ⟨⟨_, vmafossexec_scoresKey ▸ resultOf_lookup_scores float frames,
    forall₂_vmaf_attributeValues hr⟩, fun f hf => ?_, fun key hk => by
      simpa [vmafossexec_scoresKey, vmafossexec_featureScoresKey] using
        resultOf_keys float frames hk⟩
  have hvals := forall₂_attributeValues fun frame hm =>
    (hr frame hm).2 f (List.mem_cons_of_mem _ hf)
  have hcarry : (attributeValues float f frames).length ≠ 0 ↔ ∃ frame ∈ frames, f ∈ frame := by
    simp [← hvals.length_eq, List.filterMap_eq_nil_iff, ← AList.lookup_isSome,
      Option.isSome_iff_exists, Option.ne_none_iff_exists']
  rw [← vmafossexec_featureScoresKey, resultOf_lookup_feature]
  by_cases hn : (attributeValues float f frames).length = 0
  · simp only [hn, ne_eq, not_true_eq_false, and_false, if_false] at hcarry ⊢
    simp [← hcarry]
  · simp only [hf, hn, ne_eq, not_false_eq_true, and_self, if_true] at hcarry ⊢
    exact ⟨by simpa using hcarry, fun scores hs => Option.mem_some_iff.mp hs ▸ hvals⟩

/- Three frames, the second without `adm2`: three `vmaf` values, two `adm2` values, and
no entry for a feature no frame carries. -/
example : (getQualityScores (fun text => some (digitsValue text.data))
      [List.toAList [⟨"vmaf", "80"⟩, ⟨"adm2", "1"⟩], List.toAList [⟨"vmaf", "70"⟩],
        List.toAList [⟨"vmaf", "90"⟩, ⟨"adm2", "3"⟩]]).map
      (fun r => (r.lookup "VMAFOSSEXEC_scores", r.lookup "VMAFOSSEXEC_adm2_scores",
        r.lookup "VMAFOSSEXEC_vif_scores")) =
    .ok (some [80, 70, 90], some [1, 3], none) := rfl

example : getQualityScores (fun text => some (digitsValue text.data))
    [List.toAList [⟨"vmaf", "80"⟩], List.toAList [⟨"adm2", "1"⟩]] = .error (.keyError "vmaf") :=
  rfl

end Reads

-- ════════════════════════════════════════════════════════════════════════
-- Errors
-- ════════════════════════════════════════════════════════════════════════

section Errors

variable {float : String → Option α} {frames : List (Dict String)} {frame : Dict String}

theorem attributeError_eq_none_iff {key : String} :
    attributeError float frame key = none ↔ Parses float frame key := by
  unfold attributeError Parses
  cases frame.lookup key with
  | none => simp
  | some text => cases hf : float text <;> simp [hf]

theorem frameError_eq_none_iff : frameError float frame = none ↔ Readable float frame := by
  unfold frameError Readable
  cases hl : frame.lookup "vmaf" with
  | none => simp [← AList.lookup_isSome, hl]
  | some text =>
    simp [← AList.lookup_isSome, hl, List.findSome?_eq_none_iff, attributeError_eq_none_iff]

theorem appendFeature_eq {feature : String} {featureScore : List α} :
    appendFeature float frame feature featureScore =
      match attributeError float frame feature with
      | some e => .error e
      | none => .ok (featureScore ++ ((frame.lookup feature).bind float).toList) := by
  unfold appendFeature attributeError
  cases hl : frame.lookup feature with
  | none =>
    simp [Dict.getItem, hl, tryCatch, tryCatchThe, MonadExceptOf.tryCatch, Except.tryCatch,
      bind, Except.bind, pure, Except.pure]
  | some text =>
    cases hf : float text <;>
      simp [Dict.getItem, hl, hf, pyFloat, tryCatch, tryCatchThe, MonadExceptOf.tryCatch,
        Except.tryCatch, bind, Except.bind, pure, Except.pure, throw, throwThe,
        MonadExceptOf.throw]

/-- The inner loop over `FEATURES` raises the error of the first feature whose text
`float` rejects, and otherwise extends every list. -/
theorem mapM_appendFeature_eq (keys : List String) :
    (keys.zip (keys.map fun f => attributeValues float f frames)).mapM
        (fun (feature, featureScore) => appendFeature float frame feature featureScore) =
      match keys.findSome? (attributeError float frame) with
      | some e => .error e
      | none => .ok (keys.map fun f => attributeValues float f (frames ++ [frame])) := by
  induction keys with
  | nil => rfl
  | cons key keys ih =>
    simp only [List.map_cons, List.zip_cons_cons, List.mapM_cons, ih]
    rw [appendFeature_eq, List.findSome?_cons]
    cases attributeError float frame key with
    | some e => rfl
    | none =>
      cases keys.findSome? (attributeError float frame) with
      | some e => rfl
      | none => simp only [List.map_cons, attributeValues_append_singleton]; rfl

/-- What one frame does to the loop: it raises the frame's error, or extends every list. -/
theorem step_stateAfter :
    step float (stateAfter float frames) frame =
      match frameError float frame with
      | some e => .error e
      | none => .ok (stateAfter float (frames ++ [frame])) := by
  unfold step frameError
  cases hv : frame.lookup "vmaf" with
  | none => simp [Dict.getItem, hv, bind, Except.bind]
  | some text =>
    cases hf : float text with
    | none => simp [Dict.getItem, hv, hf, pyFloat, attributeError, bind, Except.bind]
    | some score =>
      have hvmaf : attributeError float frame "vmaf" = none := by simp [attributeError, hv, hf]
      simp only [stateAfter, Dict.getItem, hv, pyFloat, hf, bind, Except.bind,
        mapM_appendFeature_eq, List.findSome?_cons, hvmaf, attributeValues_append_singleton,
        Option.some_bind, Option.toList_some]
      cases features.findSome? (attributeError float frame) <;> rfl

/-- The run from any reachable state: the first unreadable frame raises its error, and
the frames after it are never read. -/
theorem foldlM_step_eq (frames₀ frames : List (Dict String)) :
    frames.foldlM (step float) (stateAfter float frames₀) =
      match frames.findSome? (frameError float) with
      | some e => .error e
      | none => .ok (stateAfter float (frames₀ ++ frames)) := by
  induction frames generalizing frames₀ with
  | nil => simp [pure, Except.pure]
  | cons frame frames ih =>
    rw [List.foldlM_cons, step_stateAfter, List.findSome?_cons]
    cases frameError float frame with
    | some e => rfl
    | none => simp only [bind, Except.bind, ih, List.append_assoc, List.singleton_append]

theorem getQualityScores_eq_error_iff (float : String → Option α) (frames : List (Dict String))
    (e : PyError) : getQualityScores float frames = .error e ↔ logError float frames = some e := by
  rw [getQualityScores, ← @stateAfter_nil α float, foldlM_step_eq, logError]
  cases hf : frames.findSome? (frameError float) with
  | some e' =>
    have hne : frames ≠ [] := by rintro rfl; cases hf
    simp [hne, bind, Except.bind]
  | none =>
    have hr : ∀ frame ∈ frames, Readable float frame := fun frame hm =>
      frameError_eq_none_iff.mp (List.findSome?_eq_none_iff.mp hf frame hm)
    have hlen := (forall₂_vmaf_attributeValues hr).length_eq
    simp only [List.nil_append, stateAfter, ← hlen, bind, Except.bind]
    by_cases hn : frames = []
    · simp [hn, throw, throwThe, MonadExceptOf.throw]
    · simp [hn, pure, Except.pure]

/-- The reader fails on a log without frames with the `AssertionError` of
`assert len(scores) != 0`, and otherwise exactly when some frame is unreadable: the first
such frame decides the error, its `KeyError` or `ValueError` in the order the loop reads
it. -/
theorem getQualityScores_fails_at_first_unreadable_frame (float : String → Option α)
    (frames : List (Dict String)) (e : PyError) :
    getQualityScores float frames = .error e ↔
      (frames = [] ∧ e = .assertionError "") ∨ frames.findSome? (frameError float) = some e := by
  rw [getQualityScores_eq_error_iff, logError]
  by_cases hn : frames = [] <;> simp [hn, @eq_comm _ e]

/- The first frame's `adm2` is rejected before the second frame's missing `vmaf` is met. -/
example : getQualityScores (fun text => if text = "x" then none else some (digitsValue text.data))
    [List.toAList [⟨"vmaf", "80"⟩, ⟨"adm2", "x"⟩], List.toAList [⟨"adm2", "1"⟩]] =
      .error (.valueError "could not convert string to float: x") := rfl

end Errors

end VmafQuality.VmafossExecQualityRunner
