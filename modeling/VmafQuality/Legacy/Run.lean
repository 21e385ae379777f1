import VmafQuality.Legacy.Score

/-!
# `VmafLegacyQualityRunner._run_on_asset`

The run rescales the four features of `SVM_MODEL_ORDERED_SCORES_KEYS`, zips them
into one vector per frame, and queries the SVR model once per frame. The model is
an oracle `predict : List α → m α` in an arbitrary monad, so the queries a run
makes can be observed: `recordQuery` logs them in `StateM`.

Main results:
* `runOnAsset_svm_queries`: a run queries the model exactly once per frame, in
  frame order, with the rescaled features, each in `[0, 1]`;
* `runWithModel_of_carriesFrames`: the scores a run stores, frame by frame;
* `runWithModel_ignores_motion_correction`: `_post_correction` receives the
  rescaled motion, at most 1, so its motion correction never applies;
* `runWithModel_truncates`: sequences of unequal lengths are cut to the shortest by
  `zip(*)`, not rejected;
* `runWithModel_score_mono`: `_post_correction` grows with motion and prediction over
  all of `α`, across its breakpoints 12 and 20, and lands in `[0, 100]`; so between two
  runs, on feature sequences of any lengths, a frame's score grows with its prediction
  and raw motion, and every score lies in `[0, 100]`;
* `runWithModel_fails_on_missing_feature`: a run fails exactly on a missing feature,
  with the `KeyError` of the first one, and before any query to the model.
-/

namespace VmafQuality.VmafLegacyQualityRunner

variable {α : Type} [LinearOrderedField α]

/-- The first half of `_run_on_asset`: the features of `SVM_MODEL_ORDERED_SCORES_KEYS`,
each rescaled with its bounds in `FEATURE_RESCALE_DICT`. -/
def orderedScaledScoresList (featureResult : Dict (List α)) : Except PyError (List (List α)) :=
  svmModelOrderedScoresKeys.mapM fun scoresKey => do
    let scores ← featureResult.getItem scoresKey
    let lowerUpperBound ← featureRescaleDict.getItem scoresKey
    pure (rescale scores lowerUpperBound)

/-- `zip(*lists)`: the tuples of same-index elements, as many as the shortest list has. -/
def zipStar {β : Type} : List (List β) → List (List β)
  | [] => []
  | [l] => l.map ([·])
  | l :: ls => List.zipWith (· :: ·) l (zipStar ls)

/-- The loop of `_run_on_asset`: one `svm_predict` query per score vector, in order,
each prediction passed through `_post_correction` with the vector's motion. -/
def predictLoop {m : Type → Type} [Monad m] (predict : List α → m α) :
    List (List α) → ExceptT PyError m (List α)
  | [] => pure []
  | [vif, adm, ansnr, motion] :: scoreVectors => do
    let score ← predict [vif, adm, ansnr, motion]
    let score := postCorrection motion score
    let scores ← predictLoop predict scoreVectors
    pure (score :: scores)
  | scoreVector :: _ =>
    throw (.valueError (if scoreVector.length < 4 then "not enough values to unpack"
      else "too many values to unpack"))

/-- `_run_on_asset` from the feature result on; `predict` stands for `svm_predict` with
the model loaded from `SVM_MODEL_FILE`. -/
def runOnAsset {m : Type → Type} [Monad m] (predict : List α → m α)
    (featureResult : Dict (List α)) : ExceptT PyError m (Dict (List α)) := do
  let orderedScaledScoresList ← ExceptT.mk (pure (orderedScaledScoresList featureResult))
  let scores ← predictLoop predict (zipStar orderedScaledScoresList)
  let resultDict := Dict.update ∅ featureResult
  pure (resultDict.insert (getScoresKey Runner.vmafLegacy.type) scores)

/-- A run with a deterministic model `svm`. -/
def runWithModel (svm : List α → α) (featureResult : Dict (List α)) :
    Except PyError (Dict (List α)) :=
  (runOnAsset (m := Id) (fun xs => pure (svm xs)) featureResult).run

/-- The model `svm`, logging every query it answers. -/
def recordQuery (svm : List α → α) (xs : List α) : StateM (List (List α)) α :=
  modifyGet fun log => (svm xs, log ++ [xs])

omit [LinearOrderedField α] in
@[simp] theorem recordQuery_run (svm : List α → α) (xs : List α) (log : List (List α)) :
    (recordQuery svm xs).run log = (svm xs, log ++ [xs]) := rfl

-- ════════════════════════════════════════════════════════════════════════
-- Frames
-- ════════════════════════════════════════════════════════════════════════

/-- The four raw legacy features of one frame. -/
structure Frame (α : Type) where
  vif : α
  adm : α
  ansnr : α
  motion : α

/-- `featureResult` holds the legacy features of `frames`, frame by frame: its four
sequences share the length `frames.length` (`exists_carriesFrames`). -/
def CarriesFrames (featureResult : Dict (List α)) (frames : List (Frame α)) : Prop :=
  featureResult.lookup vifKey = some (frames.map Frame.vif) ∧
  featureResult.lookup admKey = some (frames.map Frame.adm) ∧
  featureResult.lookup ansnrKey = some (frames.map Frame.ansnr) ∧
  featureResult.lookup motionKey = some (frames.map Frame.motion)

/-- The frames `zip(*)` forms from four feature sequences: as many as the shortest has. -/
def framesOf : List α → List α → List α → List α → List (Frame α)
  | v :: vif, a :: adm, b :: ansnr, c :: motion => ⟨v, a, b, c⟩ :: framesOf vif adm ansnr motion
  | _, _, _, _ => []

/-- The frames a run forms from a feature result: `zip(*)` of its four legacy feature
sequences, as many as the shortest has; `none` when one of them is missing. -/
def resultFrames (featureResult : Dict (List α)) : Option (List (Frame α)) := do
  let vif ← featureResult.lookup vifKey
  let adm ← featureResult.lookup admKey
  let ansnr ← featureResult.lookup ansnrKey
  let motion ← featureResult.lookup motionKey
  pure (framesOf vif adm ansnr motion)

/-- The SVR query for a frame: its features rescaled with the bounds of
`FEATURE_RESCALE_DICT`, in `SVM_MODEL_ORDERED_SCORES_KEYS` order. -/
def Frame.query (f : Frame α) : List α :=
  [rescaleValue (0.0, 1.0) f.vif, rescaleValue (0.4, 1.0) f.adm,
    rescaleValue (10.0, 50.0) f.ansnr, rescaleValue (0.0, 20.0) f.motion]

/-- The score a run stores for a frame. -/
def frameScore (svm : List α → α) (f : Frame α) : α :=
  postCorrection (rescaleValue (0.0, 20.0) f.motion) (svm f.query)

omit [LinearOrderedField α] in
theorem exists_carriesFrames {featureResult : Dict (List α)} {vif adm ansnr motion : List α}
    (h₁ : featureResult.lookup vifKey = some vif) (h₂ : featureResult.lookup admKey = some adm)
    (h₃ : featureResult.lookup ansnrKey = some ansnr)
    (h₄ : featureResult.lookup motionKey = some motion) (ha : adm.length = vif.length)
    (hb : ansnr.length = vif.length) (hc : motion.length = vif.length) :
    ∃ frames, CarriesFrames featureResult frames ∧ frames.length = vif.length := by
  suffices ∀ vif adm ansnr motion : List α, adm.length = vif.length → ansnr.length = vif.length →
      motion.length = vif.length → ∃ frames : List (Frame α), frames.map Frame.vif = vif ∧
        frames.map Frame.adm = adm ∧ frames.map Frame.ansnr = ansnr ∧
        frames.map Frame.motion = motion by
    obtain ⟨frames, e₁, e₂, e₃, e₄⟩ := this vif adm ansnr motion ha hb hc
    exact ⟨frames, ⟨e₁ ▸ h₁, e₂ ▸ h₂, e₃ ▸ h₃, e₄ ▸ h₄⟩, by rw [← e₁, List.length_map]⟩
  intro vif
  induction vif with
  | nil =>
    intro adm ansnr motion ha hb hc
    exact ⟨[], by simp_all [List.length_eq_zero]⟩
  | cons v vif ih =>
    rintro (_ | ⟨a, adm⟩) (_ | ⟨b, ansnr⟩) (_ | ⟨c, motion⟩) ha hb hc <;> simp at ha hb hc
    obtain ⟨frames, e₁, e₂, e₃, e₄⟩ := ih adm ansnr motion ha hb hc
    exact ⟨⟨v, a, b, c⟩ :: frames, by simp [e₁, e₂, e₃, e₄]⟩

omit [LinearOrderedField α] in
theorem framesOf_map (frames : List (Frame α)) :
    framesOf (frames.map Frame.vif) (frames.map Frame.adm) (frames.map Frame.ansnr)
      (frames.map Frame.motion) = frames := by
  induction frames with
  | nil => rfl
  | cons f frames ih => simp [framesOf, ih]

omit [LinearOrderedField α] in
theorem length_framesOf : ∀ vif adm ansnr motion : List α,
    (framesOf vif adm ansnr motion).length =
      min (min vif.length adm.length) (min ansnr.length motion.length)
  | _ :: vif, _ :: adm, _ :: ansnr, _ :: motion => by
    simp only [framesOf, List.length_cons, length_framesOf vif adm ansnr motion]
    omega
  | [], _, _, _ | _ :: _, [], _, _ | _ :: _, _ :: _, [], _ | _ :: _, _ :: _, _ :: _, [] => by
    show 0 = _
    simp only [List.length_nil, List.length_cons]
    omega

/-- One frame with raw motion 20. -/
def motionTwentyResult : Dict (List ℚ) :=
  List.toAList [⟨vifKey, [1.0]⟩, ⟨admKey, [1.0]⟩, ⟨ansnrKey, [50.0]⟩, ⟨motionKey, [20.0]⟩]

theorem motionTwentyResult_carriesFrames :
    CarriesFrames motionTwentyResult [⟨1.0, 1.0, 50.0, 20.0⟩] :=
  ⟨rfl, rfl, rfl, rfl⟩

-- ════════════════════════════════════════════════════════════════════════
-- The run, step by step
-- ════════════════════════════════════════════════════════════════════════

theorem orderedScaledScoresList_of_lookup {featureResult : Dict (List α)}
    {vif adm ansnr motion : List α} (h₁ : featureResult.lookup vifKey = some vif)
    (h₂ : featureResult.lookup admKey = some adm) (h₃ : featureResult.lookup ansnrKey = some ansnr)
    (h₄ : featureResult.lookup motionKey = some motion) :
    orderedScaledScoresList featureResult = .ok
      [rescale vif (0.0, 1.0), rescale adm (0.4, 1.0), rescale ansnr (10.0, 50.0),
        rescale motion (0.0, 20.0)] := by
  obtain ⟨r₁, r₂, r₃, r₄⟩ := featureRescaleDict_lookup (α := α)
  simp only [orderedScaledScoresList, svmModelOrderedScoresKeys, List.mapM_cons, List.mapM_nil,
    Dict.getItem, h₁, h₂, h₃, h₄, r₁, r₂, r₃, r₄]
  rfl

/-- `zip(*)` of the rescaled sequences is the list of the frames' queries. -/
theorem zipStar_rescale : ∀ vif adm ansnr motion : List α,
    zipStar [rescale vif (0.0, 1.0), rescale adm (0.4, 1.0), rescale ansnr (10.0, 50.0),
        rescale motion (0.0, 20.0)] = (framesOf vif adm ansnr motion).map Frame.query
  | _ :: vif, _ :: adm, _ :: ansnr, _ :: motion => by
    have ih := zipStar_rescale vif adm ansnr motion
    simp only [zipStar, rescale, List.map_cons, List.zipWith_cons_cons] at ih ⊢
    rw [ih]; rfl
  | [], _, _, _ | _ :: _, [], _, _ | _ :: _, _ :: _, [], _ | _ :: _, _ :: _, _ :: _, [] => rfl

theorem predictLoop_cons {m : Type → Type} [Monad m] [LawfulMonad m] (predict : List α → m α)
    (vif adm ansnr motion : α) (scoreVectors : List (List α)) :
    (predictLoop predict ([vif, adm, ansnr, motion] :: scoreVectors)).run =
      predict [vif, adm, ansnr, motion] >>= fun score =>
        Except.map (postCorrection motion score :: ·) <$>
          (predictLoop predict scoreVectors).run := by
  simp only [predictLoop, ExceptT.run_bind, liftM, monadLift, MonadLift.monadLift, ExceptT.lift,
    ExceptT.mk, ExceptT.run_pure]
  rw [ExceptT.run, bind_map_left]
  simp only [map_eq_pure_bind]
  congr 1; funext score; congr 1; funext r; cases r <;> rfl

theorem runOnAsset_run_of_ok {m : Type → Type} [Monad m] [LawfulMonad m]
    (predict : List α → m α) {featureResult : Dict (List α)} {scaled : List (List α)}
    (h : orderedScaledScoresList featureResult = .ok scaled) :
    (runOnAsset predict featureResult).run =
      Except.map (featureResult.insert (getScoresKey Runner.vmafLegacy.type)) <$>
        (predictLoop predict (zipStar scaled)).run := by
  simp only [runOnAsset, h, ExceptT.run_bind, ExceptT.run_mk, pure_bind, Dict.update_empty,
    map_eq_pure_bind]
  congr 1; funext r; cases r <;> rfl

/-- A run whose rescale loop fails raises its error without querying the model. -/
theorem runOnAsset_run_of_error {m : Type → Type} [Monad m] [LawfulMonad m]
    (predict : List α → m α) {featureResult : Dict (List α)} {e : PyError}
    (h : orderedScaledScoresList featureResult = .error e) :
    (runOnAsset predict featureResult).run = pure (.error e) := by
  simp only [runOnAsset, h, ExceptT.run_bind, ExceptT.run_mk, pure_bind]

theorem runOnAsset_run {m : Type → Type} [Monad m] [LawfulMonad m] (predict : List α → m α)
    {featureResult : Dict (List α)} {vif adm ansnr motion : List α}
    (h₁ : featureResult.lookup vifKey = some vif) (h₂ : featureResult.lookup admKey = some adm)
    (h₃ : featureResult.lookup ansnrKey = some ansnr)
    (h₄ : featureResult.lookup motionKey = some motion) :
    (runOnAsset predict featureResult).run =
      Except.map (featureResult.insert (getScoresKey Runner.vmafLegacy.type)) <$>
        (predictLoop predict ((framesOf vif adm ansnr motion).map Frame.query)).run := by
  rw [runOnAsset_run_of_ok predict (orderedScaledScoresList_of_lookup h₁ h₂ h₃ h₄),
    zipStar_rescale]

theorem runOnAsset_run_of_carriesFrames {m : Type → Type} [Monad m] [LawfulMonad m]
    (predict : List α → m α) {featureResult : Dict (List α)} {frames : List (Frame α)}
    (h : CarriesFrames featureResult frames) :
    (runOnAsset predict featureResult).run =
      Except.map (featureResult.insert (getScoresKey Runner.vmafLegacy.type)) <$>
        (predictLoop predict (frames.map Frame.query)).run := by
  obtain ⟨h₁, h₂, h₃, h₄⟩ := h
  rw [runOnAsset_run predict h₁ h₂ h₃ h₄, framesOf_map]

theorem predictLoop_id (svm : List α → α) (frames : List (Frame α)) :
    (predictLoop (m := Id) (fun xs => pure (svm xs)) (frames.map Frame.query)).run =
      .ok (frames.map (frameScore svm)) := by
  induction frames with
  | nil => rfl
  | cons f frames ih =>
    rw [List.map_cons, Frame.query, predictLoop_cons, ← Frame.query, ih]
    rfl

theorem predictLoop_record (svm : List α → α) (frames : List (Frame α)) (log : List (List α)) :
    (predictLoop (recordQuery svm) (frames.map Frame.query)).run.run log =
      (.ok (frames.map (frameScore svm)), log ++ frames.map Frame.query) := by
  induction frames generalizing log with
  | nil => simp [predictLoop]
  | cons f frames ih =>
    rw [List.map_cons, Frame.query, predictLoop_cons, StateT.run_bind, ← Frame.query]
    simp [ih, frameScore, Except.map]

-- ════════════════════════════════════════════════════════════════════════
-- Whole runs
-- ════════════════════════════════════════════════════════════════════════

section Runs

variable {featureResult : Dict (List α)} {frames : List (Frame α)}

theorem vmafLegacy_scoresKey : getScoresKey Runner.vmafLegacy.type = "VMAF_legacy_scores" := by
  decide

theorem runWithModel_of_lookup (svm : List α → α) {vif adm ansnr motion : List α}
    (h₁ : featureResult.lookup vifKey = some vif) (h₂ : featureResult.lookup admKey = some adm)
    (h₃ : featureResult.lookup ansnrKey = some ansnr)
    (h₄ : featureResult.lookup motionKey = some motion) :
    runWithModel svm featureResult = .ok (featureResult.insert (getScoresKey Runner.vmafLegacy.type)
      ((framesOf vif adm ansnr motion).map (frameScore svm))) := by
  rw [runWithModel, runOnAsset_run _ h₁ h₂ h₃ h₄, predictLoop_id]
  rfl

/-- A run stores, under `VMAF_legacy_scores`, one corrected score per frame. -/
theorem runWithModel_of_carriesFrames (svm : List α → α)
    (h : CarriesFrames featureResult frames) :
    runWithModel svm featureResult = .ok (featureResult.insert
      (getScoresKey Runner.vmafLegacy.type) (frames.map (frameScore svm))) := by
  obtain ⟨h₁, h₂, h₃, h₄⟩ := h
  rw [runWithModel_of_lookup svm h₁ h₂ h₃ h₄, framesOf_map]

/-- Feature sequences of unequal lengths are not rejected: `zip(*)` cuts them to the
shortest, and the run stores one score per frame of that length. -/
theorem runWithModel_truncates (svm : List α → α) {vif adm ansnr motion : List α}
    (h₁ : featureResult.lookup vifKey = some vif) (h₂ : featureResult.lookup admKey = some adm)
    (h₃ : featureResult.lookup ansnrKey = some ansnr)
    (h₄ : featureResult.lookup motionKey = some motion) :
    ∃ scores, runWithModel svm featureResult =
        .ok (featureResult.insert "VMAF_legacy_scores" scores) ∧
      scores = (framesOf vif adm ansnr motion).map (frameScore svm) ∧
      scores.length = min (min vif.length adm.length) (min ansnr.length motion.length) :=
  ⟨_, vmafLegacy_scoresKey ▸ runWithModel_of_lookup svm h₁ h₂ h₃ h₄, rfl,
    (List.length_map _ _).trans (length_framesOf vif adm ansnr motion)⟩

/-- A feature result whose `vif` sequence is one frame longer than the others. -/
def unevenResult : Dict (List ℚ) :=
  List.toAList [⟨vifKey, [1.0, 0.5]⟩, ⟨admKey, [1.0]⟩, ⟨ansnrKey, [50.0]⟩, ⟨motionKey, [20.0]⟩]

theorem runWithModel_truncates_uneven :
    ∃ scores, runWithModel (fun _ => (50 : ℚ)) unevenResult =
        .ok (unevenResult.insert "VMAF_legacy_scores" scores) ∧
      scores = (framesOf [1.0, 0.5] [1.0] [50.0] [20.0]).map (frameScore fun _ => 50) ∧
      scores.length = min (min [(1.0 : ℚ), 0.5].length [(1.0 : ℚ)].length)
        (min [(50.0 : ℚ)].length [(20.0 : ℚ)].length) :=
  runWithModel_truncates _ rfl rfl rfl rfl

theorem runOnAsset_svm_queries (svm : List α → α) (h : CarriesFrames featureResult frames) :
    ((runOnAsset (recordQuery svm) featureResult).run.run []).2 = frames.map Frame.query ∧
    ∀ key ∈ svmModelOrderedScoresKeys, ∀ lowerUpperBound : α × α,
      (featureRescaleDict (α := α)).lookup key = some lowerUpperBound →
      lowerUpperBound.2 - lowerUpperBound.1 ≠ 0 ∧ Monotone (rescaleValue lowerUpperBound) ∧
      ∀ v, (0 ≤ rescaleValue lowerUpperBound v ∧ rescaleValue lowerUpperBound v ≤ 1) ∧
        (v ≤ lowerUpperBound.1 → rescaleValue lowerUpperBound v = 0) ∧
        (lowerUpperBound.2 ≤ v → rescaleValue lowerUpperBound v = 1) := by
  refine ⟨?_, fun _ _ lowerUpperBound hb => ?_⟩
  · rw [runOnAsset_run_of_carriesFrames _ h, StateT.run_map, predictLoop_record]
    simp
  · have hlt := featureRescaleDict_lower_lt_upper hb
    exact ⟨(sub_pos.mpr hlt).ne', rescaleValue_mono hlt, fun v =>
      ⟨rescaleValue_mem hlt v, rescaleValue_of_le_lower hlt, rescaleValue_of_upper_le hlt⟩⟩

theorem runOnAsset_svm_queries_motion_twenty :
    ((runOnAsset (recordQuery fun _ => (50 : ℚ)) motionTwentyResult).run.run []).2 =
      [Frame.query ⟨1.0, 1.0, 50.0, 20.0⟩] ∧
    ∀ key ∈ svmModelOrderedScoresKeys, ∀ lowerUpperBound : ℚ × ℚ,
      (featureRescaleDict (α := ℚ)).lookup key = some lowerUpperBound →
      lowerUpperBound.2 - lowerUpperBound.1 ≠ 0 ∧ Monotone (rescaleValue lowerUpperBound) ∧
      ∀ v, (0 ≤ rescaleValue lowerUpperBound v ∧ rescaleValue lowerUpperBound v ≤ 1) ∧
        (v ≤ lowerUpperBound.1 → rescaleValue lowerUpperBound v = 0) ∧
        (lowerUpperBound.2 ≤ v → rescaleValue lowerUpperBound v = 1) :=
  runOnAsset_svm_queries _ motionTwentyResult_carriesFrames

/-- `_post_correction` is handed the rescaled motion, at most 1, never above 12: every
stored score is the model's prediction clipped into `[0, 100]`. -/
theorem runWithModel_ignores_motion_correction (svm : List α → α)
    (h : CarriesFrames featureResult frames) :
    runWithModel svm featureResult = .ok (featureResult.insert
      (getScoresKey Runner.vmafLegacy.type) (frames.map fun f => npClip (svm f.query) 0 100)) := by
  rw [runWithModel_of_carriesFrames svm h]
  congr 3
  funext f
  have hle : rescaleValue (0.0, 20.0) f.motion ≤ (12 : α) :=
    (rescaleValue_mem (by norm_num) f.motion).2.trans (by norm_num)
  exact postCorrection_of_le hle _

theorem runWithModel_ignores_motion_correction_motion_twenty :
    runWithModel (fun _ => (50 : ℚ)) motionTwentyResult = .ok (motionTwentyResult.insert
      (getScoresKey Runner.vmafLegacy.type) [npClip 50 0 100]) :=
  runWithModel_ignores_motion_correction _ motionTwentyResult_carriesFrames

/-- The first half of a run raises the `KeyError` of the first of `keys` the feature
result lacks, when each of `keys` has its bounds. -/
theorem mapM_rescale_eq_error {keys : List String} {key : String}
    (hd : ∀ k ∈ keys, ∃ b, (featureRescaleDict (α := α)).lookup k = some b)
    (h : keys.find? (fun k => (featureResult.lookup k).isNone) = some key) :
    keys.mapM (fun scoresKey => do
      let scores ← featureResult.getItem scoresKey
      let lowerUpperBound ← featureRescaleDict.getItem scoresKey
      pure (rescale scores lowerUpperBound)) = .error (.keyError key) := by
  induction keys with
  | nil => cases h
  | cons k keys ih =>
    rw [List.mapM_cons]
    cases hk : featureResult.lookup k with
    | none =>
      obtain rfl : k = key := by simpa [hk] using h
      simp [Dict.getItem, hk, bind, Except.bind]
    | some scores =>
      obtain ⟨b, hb⟩ := hd k (List.mem_cons_self _ _)
      rw [ih (fun k' hk' => hd k' (List.mem_cons_of_mem _ hk')) (by simpa [hk] using h)]
      simp [Dict.getItem, hk, hb, bind, Except.bind, pure, Except.pure]

theorem orderedScaledScoresList_eq_error {key : String}
    (h : svmModelOrderedScoresKeys.find? (fun k => (featureResult.lookup k).isNone) = some key) :
    orderedScaledScoresList featureResult = .error (.keyError key) := by
  obtain ⟨r₁, r₂, r₃, r₄⟩ := featureRescaleDict_lookup (α := α)
  refine mapM_rescale_eq_error (fun k hk => ?_) h
  simp only [svmModelOrderedScoresKeys, List.mem_cons, List.mem_singleton, List.not_mem_nil,
    or_false] at hk
  rcases hk with rfl | rfl | rfl | rfl
  exacts [⟨_, r₁⟩, ⟨_, r₂⟩, ⟨_, r₃⟩, ⟨_, r₄⟩]

theorem runWithModel_eq_error_iff (svm : List α → α) (e : PyError) :
    runWithModel svm featureResult = .error e ↔
      ∃ key, svmModelOrderedScoresKeys.find? (fun k => (featureResult.lookup k).isNone) =
        some key ∧ e = .keyError key := by
  cases hf : svmModelOrderedScoresKeys.find? (fun k => (featureResult.lookup k).isNone) with
  | none =>
    have hp := List.find?_eq_none.mp hf
    simp only [svmModelOrderedScoresKeys, List.forall_mem_cons, List.not_mem_nil,
      Option.isNone_iff_eq_none, ← ne_eq, Option.ne_none_iff_exists'] at hp
    obtain ⟨⟨_, h₁⟩, ⟨_, h₂⟩, ⟨_, h₃⟩, ⟨_, h₄⟩, -⟩ := hp
    simp [runWithModel_of_lookup svm h₁ h₂ h₃ h₄]
  | some key =>
    have hr : runWithModel svm featureResult = .error (.keyError key) :=
      runOnAsset_run_of_error _ (orderedScaledScoresList_eq_error hf)
    simp [hr, eq_comm]

/-- A run fails exactly when the feature result lacks one of the four features, with the
`KeyError` of the first missing one in `SVM_MODEL_ORDERED_SCORES_KEYS` order: the bounds
of `FEATURE_RESCALE_DICT` are always found, and unpacking a score vector into
`vif, adm, ansnr, motion` never fails. Such a run raises before it queries the model. -/
theorem runWithModel_fails_on_missing_feature (svm : List α → α)
    (featureResult : Dict (List α)) :
    (∀ e, runWithModel svm featureResult = .error e ↔
      ∃ key, svmModelOrderedScoresKeys.find? (fun k => (featureResult.lookup k).isNone) =
        some key ∧ e = .keyError key) ∧
    ∀ key, svmModelOrderedScoresKeys.find? (fun k => (featureResult.lookup k).isNone) =
        some key →
      (runOnAsset (recordQuery svm) featureResult).run.run [] = (.error (.keyError key), []) :=
  ⟨runWithModel_eq_error_iff svm, fun _ hf => by
    rw [runOnAsset_run_of_error _ (orderedScaledScoresList_eq_error hf)]; rfl⟩

/- Without `vif` and `ansnr`, the run names `vif`, the first in the model's order. -/
example : runWithModel (fun _ => (50 : ℚ)) (List.toAList [⟨admKey, [1]⟩, ⟨motionKey, [0]⟩]) =
    .error (.keyError vifKey) := rfl

theorem runWithModel_lookup (svm : List α → α) (h : resultFrames featureResult = some frames) :
    (runWithModel svm featureResult).map (·.lookup (getScoresKey Runner.vmafLegacy.type)) =
      .ok (some (frames.map (frameScore svm))) := by
  simp only [resultFrames, Option.bind_eq_bind, Option.bind_eq_some, Option.pure_def,
    Option.some.injEq] at h
  obtain ⟨vif, h₁, adm, h₂, ansnr, h₃, motion, h₄, rfl⟩ := h
  simp [runWithModel_of_lookup svm h₁ h₂ h₃ h₄, Except.map]

end Runs

/-- **Monotone, bounded scores.** `_post_correction` is non-decreasing in the motion and in
the prediction over all of `α`, across its breakpoints 12 and 20, and lands in `[0, 100]`.
So between any two runs, on feature sequences of any lengths, a frame's score grows with
the frame's prediction and raw motion (the run hands `_post_correction` the rescaled
motion, itself monotone), and every score lies in `[0, 100]`. -/
theorem runWithModel_score_mono :
    (∀ motion motion' score score' : α, motion ≤ motion' → score ≤ score' →
      postCorrection motion score ≤ postCorrection motion' score') ∧
    (∀ motion score : α, 0 ≤ postCorrection motion score ∧ postCorrection motion score ≤ 100) ∧
    ∀ (svm₁ svm₂ : List α → α) (featureResult₁ featureResult₂ : Dict (List α))
      (frames₁ frames₂ : List (Frame α)), resultFrames featureResult₁ = some frames₁ →
      resultFrames featureResult₂ = some frames₂ →
      ∀ i (hi₁ : i < frames₁.length) (hi₂ : i < frames₂.length),
        svm₁ frames₁[i].query ≤ svm₂ frames₂[i].query → frames₁[i].motion ≤ frames₂[i].motion →
        ∃ scores₁ scores₂ : List α,
          (runWithModel svm₁ featureResult₁).map
            (·.lookup (getScoresKey Runner.vmafLegacy.type)) = .ok (some scores₁) ∧
          (runWithModel svm₂ featureResult₂).map
            (·.lookup (getScoresKey Runner.vmafLegacy.type)) = .ok (some scores₂) ∧
          (∃ x₁ x₂, scores₁[i]? = some x₁ ∧ scores₂[i]? = some x₂ ∧ x₁ ≤ x₂) ∧
          ∀ x ∈ scores₁ ++ scores₂, 0 ≤ x ∧ x ≤ 100 := by
  refine ⟨fun _ _ _ _ => postCorrection_mono, postCorrection_mem,
    fun svm₁ svm₂ _ _ frames₁ frames₂ h₁ h₂ i hi₁ hi₂ hp hm => ?_⟩
  refine ⟨frames₁.map (frameScore svm₁), frames₂.map (frameScore svm₂),
    runWithModel_lookup svm₁ h₁, runWithModel_lookup svm₂ h₂,
    ⟨frameScore svm₁ frames₁[i], frameScore svm₂ frames₂[i], by simp [hi₁], by simp [hi₂], ?_⟩, ?_⟩
  · exact postCorrection_mono (rescaleValue_mono (by norm_num) hm) hp
  · simp only [List.mem_append, List.mem_map]
    rintro _ (⟨f, -, rfl⟩ | ⟨f, -, rfl⟩) <;> exact postCorrection_mem _ _

theorem runWithModel_score_mono_motion_twenty :
    ∃ scores₁ scores₂ : List ℚ,
      (runWithModel (fun _ => 50) motionTwentyResult).map
        (·.lookup (getScoresKey Runner.vmafLegacy.type)) = .ok (some scores₁) ∧
      (runWithModel (fun _ => 60) unevenResult).map
        (·.lookup (getScoresKey Runner.vmafLegacy.type)) = .ok (some scores₂) ∧
      (∃ x₁ x₂, scores₁[0]? = some x₁ ∧ scores₂[0]? = some x₂ ∧ x₁ ≤ x₂) ∧
      ∀ x ∈ scores₁ ++ scores₂, 0 ≤ x ∧ x ≤ 100 :=
  runWithModel_score_mono.2.2 (fun _ => 50) (fun _ => 60) motionTwentyResult unevenResult
    [⟨1.0, 1.0, 50.0, 20.0⟩] [⟨1.0, 1.0, 50.0, 20.0⟩] rfl rfl 0 (by decide) (by decide)
    (by norm_num) le_rfl

/-- At raw motion 20 the correction turns a prediction of 50 into `50 * 1.12 = 56`; the run
stores 50. -/
theorem runWithModel_motion_twenty :
    runWithModel (fun _ => (50 : ℚ)) motionTwentyResult =
      .ok (motionTwentyResult.insert "VMAF_legacy_scores" [50]) ∧
    npClip (50 * correctionFactor (20 : ℚ)) 0 100 = 56 := by
  refine ⟨?_, by norm_num [correctionFactor, npClip]⟩
  rw [runWithModel_of_carriesFrames _ motionTwentyResult_carriesFrames]
  norm_num [frameScore, postCorrection_eq_npClip, correctionFactor, rescaleValue, npClip]
  rfl

end VmafQuality.VmafLegacyQualityRunner
