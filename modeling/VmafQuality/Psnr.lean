import VmafQuality.Executor

/-!
# `PsnrQualityRunner._get_quality_scores`

The PSNR log is read line by line. A line is a record when
`re.match(r"psnr: ([0-9]+) ([0-9.-]+)", line)` succeeds; each record must carry
the next frame index, and its value is read with `float`. The loop is a step
function on `State`, and its runs are characterised by the records of the log.

Main results:
* `getQualityScores_eq_ok_iff`: the reader succeeds exactly on logs whose records
  are nonempty, carry the indices `0, 1, 2, ...` and hold values `float` accepts,
  and it then returns those values in order;
* `getQualityScores_reads_records`: a successful read returns one score per matched
  record, `float` of the pattern's second group, and a rejected value fails the read;
* `getQualityScores_truncates_exponent`: that group stops at the first character
  outside `[0-9.-]`, so `1e-05` is read as `1`;
* `matchRecord_eq_some_iff`: what the pattern matches, with maximal groups;
* `getQualityScores_fails_at_first_bad_record`: a failing read fails at its first bad
  record (`recordError`), or on a log without records;
* `getQualityScores_reads_well_formed_log`: a log in the record format, lines numbered by
  `str`, is read back as its values.
-/

namespace VmafQuality.PsnrQualityRunner

variable {α : Type}

/-- The character class `[0-9.-]`. -/
def isValueChar (c : Char) : Bool := c.isDigit || c = '.' || c = '-'

/-- `"psnr: "`, the literal head of the record pattern. -/
def recordPrefix : List Char := "psnr: ".data

/-- `re.match(r"psnr: ([0-9]+) ([0-9.-]+)", line)`, as its two groups. The match is
anchored at the start of the line only; both groups are greedy and nothing follows
the second, so each is the longest run of its class. -/
def matchRecord (line : List Char) : Option (List Char × List Char) :=
  match recordPrefix.isPrefixOf? line with
  | none => none
  | some rest =>
    let (index, rest) := rest.span Char.isDigit
    match rest with
    | ' ' :: rest =>
      let value := rest.takeWhile isValueChar
      if index ≠ [] ∧ value ≠ [] then some (index, value) else none
    | _ => none

/-- The variables of the loop of `_get_quality_scores`. -/
structure State (α : Type) where
  psnrScores : List α
  counter : ℕ

/-- One line of the loop: a record must carry index `counter` (`assert cur_idx ==
counter`), and its value is appended once `float` reads it. -/
def step (float : String → Option α) (s : State α) (line : String) : Except PyError (State α) :=
  match matchRecord line.data with
  | none => pure s
  | some (index, value) =>
    if digitsValue index = s.counter then do
      let score ← pyFloat float (String.mk value)
      pure ⟨s.psnrScores ++ [score], s.counter + 1⟩
    else throw (.assertionError "")

/-- `_get_quality_scores` on the lines of the log file. -/
def getQualityScores (float : String → Option α) (lines : List String) :
    Except PyError (Dict (List α)) := do
  let s ← lines.foldlM (step float) ⟨[], 0⟩
  if s.psnrScores.length ≠ 0 then
    pure (AList.singleton (getScoresKey Runner.psnr.type) s.psnrScores)
  else throw (.assertionError "")

/-- The groups of every line the pattern matches, in order. -/
def records (lines : List String) : List (List Char × List Char) :=
  lines.filterMap fun line => matchRecord line.data

/-- The exception record `r` raises when the loop reaches it with `counter` records
read: the `AssertionError` of `assert cur_idx == counter`, else the `ValueError` of a
value `float` rejects. -/
def recordError (float : String → Option α) (counter : ℕ) (r : List Char × List Char) :
    Option PyError :=
  if digitsValue r.1 = counter then
    if (float (String.mk r.2)).isNone then
      some (.valueError ("could not convert string to float: " ++ String.mk r.2))
    else none
  else some (.assertionError "")

/-- The exception `_get_quality_scores` raises on a log, `none` when it returns: that of the
first failing record (`recordError`, records numbered from 0), else on a log without
records the `AssertionError` of `assert len(psnr_scores) != 0`. -/
def logError (float : String → Option α) (lines : List String) : Option PyError :=
  if records lines = [] then some (.assertionError "")
  else (records lines).enum.findSome? fun p => recordError float p.1 p.2

/-- Line `index` of a log in the format the record pattern reads: `psnr: `, the index as
`str` writes it, a space and the value. -/
def recordLine (index : ℕ) (value : String) : String :=
  "psnr: " ++ toString index ++ " " ++ value

-- ════════════════════════════════════════════════════════════════════════
-- The pattern
-- ════════════════════════════════════════════════════════════════════════

theorem isPrefixOf?_eq_some_iff {p l t : List Char} : p.isPrefixOf? l = some t ↔ l = p ++ t := by
  induction p generalizing l with
  | nil => simp [List.isPrefixOf?, eq_comm]
  | cons a p ih =>
    cases l with
    | nil => simp [List.isPrefixOf?]
    | cons b l =>
      by_cases hab : a = b
      · subst hab; simp [List.isPrefixOf?, ih]
      · simp [List.isPrefixOf?, hab, Ne.symm hab]

theorem takeWhile_eq_nil_of_head {p : Char → Bool} {l : List Char}
    (h : ∀ c ∈ l.head?, p c = false) : l.takeWhile p = [] := by
  cases l with
  | nil => rfl
  | cons c l => simp_all [List.takeWhile_cons]

theorem head_dropWhile_false {p : Char → Bool} (l : List Char) :
    ∀ c ∈ (l.dropWhile p).head?, p c = false := by
  intro c hc
  have := List.head?_dropWhile_not p l
  rw [Option.mem_def.mp hc] at this
  exact this

/-- What a match reads: `psnr: `, the digit run of the first group, a space, the `[0-9.-]`
run of the second, and a rest that does not continue it. -/
theorem parts_of_matchRecord {line index value : List Char}
    (h : matchRecord line = some (index, value)) :
    ∃ rest, line = recordPrefix ++ (index ++ ' ' :: (value ++ rest)) ∧
      index ≠ [] ∧ (∀ c ∈ index, c.isDigit) ∧ value ≠ [] ∧ (∀ c ∈ value, isValueChar c) ∧
      ∀ c ∈ rest.head?, isValueChar c = false := by
  unfold matchRecord at h
  cases hp : recordPrefix.isPrefixOf? line with
  | none => simp [hp] at h
  | some a =>
    simp only [hp, List.span_eq_take_drop] at h
    rw [isPrefixOf?_eq_some_iff] at hp
    cases hd : a.dropWhile Char.isDigit with
    | nil => simp [hd] at h
    | cons c r =>
      by_cases hc : c = ' '
      · subst hc
        simp only [hd, ne_eq, Option.ite_none_right_eq_some, Option.some.injEq,
          Prod.mk.injEq] at h
        obtain ⟨⟨hi, hv⟩, rfl, rfl⟩ := h
        refine ⟨r.dropWhile isValueChar, ?_, hi, fun c hc => List.mem_takeWhile_imp hc, hv,
          fun c hc => List.mem_takeWhile_imp hc, head_dropWhile_false r⟩
        rw [hp, List.takeWhile_append_dropWhile, ← hd, List.takeWhile_append_dropWhile]
      · simp [hd, hc] at h

/-- A line made of `psnr: `, a run of digits, a space, a run of `[0-9.-]` and a rest that
does not continue it is a record with those two runs as its groups. -/
theorem matchRecord_of_parts {line index value : List Char}
    (h : ∃ rest, line = recordPrefix ++ (index ++ ' ' :: (value ++ rest)) ∧
      index ≠ [] ∧ (∀ c ∈ index, c.isDigit) ∧ value ≠ [] ∧ (∀ c ∈ value, isValueChar c) ∧
      ∀ c ∈ rest.head?, isValueChar c = false) :
    matchRecord line = some (index, value) := by
  obtain ⟨rest, rfl, hi, hid, hv, hvv, hr⟩ := h
  have hsp : ' '.isDigit = false := by decide
  have htw : (value ++ rest).takeWhile isValueChar = value := by
    rw [List.takeWhile_append_of_pos hvv, takeWhile_eq_nil_of_head hr, List.append_nil]
  simp only [matchRecord, isPrefixOf?_eq_some_iff.mpr rfl, List.span_eq_take_drop,
    List.takeWhile_append_of_pos hid, List.dropWhile_append_of_pos hid, List.takeWhile_cons,
    List.dropWhile_cons, hsp, htw]
  simp [hi, hv, htw]

/-- The pattern matches a line exactly when the line is `psnr: `, a run of digits, a
space, a run of `[0-9.-]`, and a rest that does not continue that run; the groups are
the two runs. -/
theorem matchRecord_eq_some_iff {line index value : List Char} :
    matchRecord line = some (index, value) ↔
      ∃ rest, line = recordPrefix ++ (index ++ ' ' :: (value ++ rest)) ∧
        index ≠ [] ∧ (∀ c ∈ index, c.isDigit) ∧ value ≠ [] ∧ (∀ c ∈ value, isValueChar c) ∧
        ∀ c ∈ rest.head?, isValueChar c = false :=
  ⟨parts_of_matchRecord, matchRecord_of_parts⟩

-- ════════════════════════════════════════════════════════════════════════
-- The loop
-- ════════════════════════════════════════════════════════════════════════

/-- From state `s`, the loop reads the records `rs` into state `s'`: they carry the
indices `s.counter, s.counter + 1, ...`, `float` accepts their values, and `s'` has
those values appended. -/
def ReadsInto (float : String → Option α) (rs : List (List Char × List Char)) (s s' : State α) :
    Prop :=
  rs.map (fun r => digitsValue r.1) = List.range' s.counter rs.length ∧
  ∃ scores, List.Forall₂ (fun r score => float (String.mk r.2) = some score) rs scores ∧
    s' = ⟨s.psnrScores ++ scores, s.counter + rs.length⟩

section Loop

variable {float : String → Option α} {s s' : State α}

theorem readsInto_nil : ReadsInto float [] s s' ↔ s' = s := by
  cases s
  simp [ReadsInto, List.forall₂_nil_left_iff]

theorem readsInto_cons {r : List Char × List Char} {rs : List (List Char × List Char)} :
    ReadsInto float (r :: rs) s s' ↔ digitsValue r.1 = s.counter ∧
      ∃ score, float (String.mk r.2) = some score ∧
        ReadsInto float rs ⟨s.psnrScores ++ [score], s.counter + 1⟩ s' := by
  have hc : s.counter + 1 + rs.length = s.counter + (rs.length + 1) := by omega
  simp only [ReadsInto, List.map_cons, List.length_cons, List.range'_succ, List.cons.injEq,
    List.forall₂_cons_left_iff, and_assoc, hc, List.append_assoc, List.singleton_append]
  refine and_congr_right fun _ => ⟨?_, ?_⟩
  · rintro ⟨hmap, _, ⟨score, scores, hf, hrest, rfl⟩, rfl⟩
    exact ⟨score, hf, hmap, scores, hrest, rfl⟩
  · rintro ⟨score, hf, hmap, scores, hrest, rfl⟩
    exact ⟨hmap, _, ⟨score, scores, hf, hrest, rfl⟩, rfl⟩

theorem step_of_none {line : String} (h : matchRecord line.data = none) :
    step float s line = .ok s := by
  simp [step, h, pure, Except.pure]

theorem step_of_some {line : String} {index value : List Char}
    (h : matchRecord line.data = some (index, value)) :
    step float s line = .ok s' ↔ digitsValue index = s.counter ∧
      ∃ score, float (String.mk value) = some score ∧
        s' = ⟨s.psnrScores ++ [score], s.counter + 1⟩ := by
  simp only [step, h]
  split_ifs with hi
  · simp [hi, Except.map_eq_ok_iff, @eq_comm _ s']
  · simp [hi, throw, throwThe, MonadExceptOf.throw]

/-- A run of the loop reads exactly the records of the lines it goes through. -/
theorem foldlM_step_eq_ok_iff (lines : List String) :
    lines.foldlM (step float) s = .ok s' ↔ ReadsInto float (records lines) s s' := by
  induction lines generalizing s with
  | nil =>
    rw [records, List.filterMap_nil, readsInto_nil]
    exact ⟨fun h => (Except.ok.inj h).symm, fun h => h ▸ rfl⟩
  | cons line lines ih =>
    rw [List.foldlM_cons, Except.bind_eq_ok_iff]
    cases hm : matchRecord line.data with
    | none => simp [step_of_none hm, ih, records, hm]
    | some r =>
      obtain ⟨index, value⟩ := r
      simp only [records, List.filterMap_cons, hm] at ih ⊢
      rw [readsInto_cons]
      constructor
      · rintro ⟨s₁, hs, hrun⟩
        obtain ⟨hi, score, hf, rfl⟩ := (step_of_some hm).mp hs
        exact ⟨hi, score, hf, ih.mp hrun⟩
      · rintro ⟨hi, score, hf, hrest⟩
        exact ⟨_, (step_of_some hm).mpr ⟨hi, score, hf, rfl⟩, ih.mpr hrest⟩

end Loop

theorem psnr_scoresKey : getScoresKey Runner.psnr.type = "PSNR_scores" := by decide

/-- The closing `assert len(psnr_scores) != 0` and the result it lets through. -/
theorem assert_nonempty_eq_ok_iff (scores : List α) (result : Dict (List α)) :
    (if scores.length ≠ 0 then pure (AList.singleton (getScoresKey Runner.psnr.type) scores)
      else throw (.assertionError "") : Except PyError (Dict (List α))) = .ok result ↔
      scores ≠ [] ∧ result = AList.singleton "PSNR_scores" scores := by
  rw [psnr_scoresKey]
  by_cases h : scores = []
  · simp [h, throw, throwThe, MonadExceptOf.throw]
  · simp [h, pure, Except.pure, eq_comm]

/-- **The logs the reader accepts.** The reader succeeds exactly on logs whose records are
nonempty, carry the indices `0, 1, 2, ...` and hold values `float` accepts, and it then
returns those values in order. The records are what the pattern reads, as
`matchRecord_eq_some_iff` states: a line's groups are its maximal digit run after `psnr: `
and its maximal `[0-9.-]` run after the space. -/
theorem getQualityScores_eq_ok_iff (float : String → Option α) (lines : List String)
    (result : Dict (List α)) :
    (getQualityScores float lines = .ok result ↔
      records lines ≠ [] ∧
      (records lines).map (fun r => digitsValue r.1) = List.range (records lines).length ∧
      ∃ scores, List.Forall₂ (fun r score => float (String.mk r.2) = some score)
        (records lines) scores ∧ result = AList.singleton "PSNR_scores" scores) ∧
    ∀ line index value, matchRecord line = some (index, value) ↔
      ∃ rest, line = recordPrefix ++ (index ++ ' ' :: (value ++ rest)) ∧
        index ≠ [] ∧ (∀ c ∈ index, c.isDigit) ∧ value ≠ [] ∧ (∀ c ∈ value, isValueChar c) ∧
        ∀ c ∈ rest.head?, isValueChar c = false := by
  refine ⟨?_, fun _ _ _ => ⟨parts_of_matchRecord, matchRecord_of_parts⟩⟩
  rw [getQualityScores, Except.bind_eq_ok_iff]
  simp only [foldlM_step_eq_ok_iff, ReadsInto, List.range_eq_range', List.nil_append, zero_add]
  constructor
  · rintro ⟨_, ⟨hmap, scores, hs, rfl⟩, hr⟩
    obtain ⟨hne, rfl⟩ := (assert_nonempty_eq_ok_iff scores result).mp hr
    refine ⟨fun h => hne ?_, hmap, scores, hs, rfl⟩
    exact List.eq_nil_of_length_eq_zero (hs.length_eq ▸ h ▸ rfl)
  · rintro ⟨hne, hmap, scores, hs, rfl⟩
    refine ⟨_, ⟨hmap, scores, hs, rfl⟩, (assert_nonempty_eq_ok_iff scores _).mpr ⟨?_, rfl⟩⟩
    rintro rfl
    exact hne (List.eq_nil_of_length_eq_zero hs.length_eq)

theorem forall₂_exists_of_mem {β γ : Type} {R : β → γ → Prop} :
    ∀ {l : List β} {l' : List γ}, List.Forall₂ R l l' → ∀ {a}, a ∈ l → ∃ b, R a b
  | _, _, .nil, _, h => absurd h (List.not_mem_nil _)
  | _, _, .cons hab hrest, _, h => by
    rcases List.mem_cons.mp h with rfl | h
    exacts [⟨_, hab⟩, forall₂_exists_of_mem hrest h]

/-- A successful read returns the scores of the records, and only them. -/
theorem getQualityScores_eq_ok_records {float : String → Option α} {lines : List String}
    {result : Dict (List α)} (h : getQualityScores float lines = .ok result) :
    ∃ scores, result = AList.singleton "PSNR_scores" scores ∧
      List.Forall₂ (fun r score => float (String.mk r.2) = some score) (records lines) scores := by
  obtain ⟨_, hrun, hr⟩ := Except.bind_eq_ok_iff.mp h
  obtain ⟨-, scores, hs, rfl⟩ := (foldlM_step_eq_ok_iff lines).mp hrun
  exact ⟨scores, ((assert_nonempty_eq_ok_iff scores result).mp hr).2, hs⟩

/-- **What a successful read returns.** One score per record, in order, the value `float`
gives its `[0-9.-]` run; a record whose run `float` rejects fails the read. The records
are the lines the pattern matches, with the groups `matchRecord_eq_some_iff` describes. -/
theorem getQualityScores_reads_records (float : String → Option α) (lines : List String) :
    (∀ result, getQualityScores float lines = .ok result → ∃ scores,
      result = AList.singleton "PSNR_scores" scores ∧
      List.Forall₂ (fun r score => float (String.mk r.2) = some score) (records lines) scores) ∧
    ((∃ r ∈ records lines, float (String.mk r.2) = none) →
      ∃ e, getQualityScores float lines = .error e) ∧
    ∀ line index value, matchRecord line = some (index, value) ↔
      ∃ rest, line = recordPrefix ++ (index ++ ' ' :: (value ++ rest)) ∧
        index ≠ [] ∧ (∀ c ∈ index, c.isDigit) ∧ value ≠ [] ∧ (∀ c ∈ value, isValueChar c) ∧
        ∀ c ∈ rest.head?, isValueChar c = false := by
  refine ⟨fun result => getQualityScores_eq_ok_records, fun ⟨r, hr, hf⟩ => ?_,
    fun _ _ _ => ⟨parts_of_matchRecord, matchRecord_of_parts⟩⟩
  cases h : getQualityScores float lines with
  | error e => exact ⟨e, rfl⟩
  | ok result =>
    obtain ⟨scores, -, hs⟩ := getQualityScores_eq_ok_records h
    obtain ⟨score, hscore⟩ := forall₂_exists_of_mem hs hr
    simp [hf] at hscore

/-- A record `psnr: 0 1e-05` is read as 1: the pattern's `[0-9.-]+` stops at `e`, so the
exponent is dropped rather than read or rejected. -/
theorem getQualityScores_truncates_exponent :
    getQualityScores decimalFloat ["psnr: 0 1e-05"] =
      .ok (AList.singleton "PSNR_scores" [(1 : ℚ)]) ∧
    decimalFloat (α := ℚ) "1e-05" = some (1 / 100000) := by
  have hm : matchRecord "psnr: 0 1e-05".data = some (['0'], ['1']) := by decide
  have hf : decimalFloat (α := ℚ) (String.mk ['1']) = some 1 := by
    rw [decimalFloat, show readDecimal (String.mk ['1']).data = some ⟨1, 1, 0, 0⟩ by decide]
    norm_num [Decimal.value]
  refine ⟨?_, ?_⟩
  · simp only [getQualityScores, List.foldlM_cons, List.foldlM_nil, step, hm, pyFloat, hf]
    rw [psnr_scoresKey]
    rfl
  · rw [decimalFloat, show readDecimal "1e-05".data = some ⟨1, 1, 0, -5⟩ by decide]
    norm_num [Decimal.value]

-- ════════════════════════════════════════════════════════════════════════
-- Errors
-- ════════════════════════════════════════════════════════════════════════

section Errors

variable {float : String → Option α} {s : State α}

theorem records_cons_of_none {line : String} {lines : List String}
    (h : matchRecord line.data = none) : records (line :: lines) = records lines := by
  simp [records, h]

theorem records_cons_of_some {line : String} {lines : List String} {r : List Char × List Char}
    (h : matchRecord line.data = some r) : records (line :: lines) = r :: records lines := by
  simp [records, h]

/-- What a record does to the loop: it raises the record's error, or appends its value. -/
theorem step_of_some_eq {line : String} {r : List Char × List Char}
    (h : matchRecord line.data = some r) :
    step float s line =
      match recordError float s.counter r with
      | some e => .error e
      | none => .ok ⟨s.psnrScores ++ (float (String.mk r.2)).toList, s.counter + 1⟩ := by
  by_cases hi : digitsValue r.1 = s.counter
  · cases hf : float (String.mk r.2) <;>
      simp [step, h, recordError, hi, hf, pyFloat, bind, Except.bind, pure, Except.pure]
  · simp [step, h, recordError, hi, throw, throwThe, MonadExceptOf.throw]

/-- The run from any state fails exactly when some record fails; the first such record,
numbered from the state's `counter`, decides the error. -/
theorem foldlM_step_eq_error_iff (lines : List String) {e : PyError} :
    lines.foldlM (step float) s = .error e ↔
      ((records lines).enumFrom s.counter).findSome? (fun p => recordError float p.1 p.2) =
        some e := by
  induction lines generalizing s with
  | nil => simp [records, pure, Except.pure]
  | cons line lines ih =>
    rw [List.foldlM_cons]
    cases hm : matchRecord line.data with
    | none => simpa [step_of_none hm, records_cons_of_none hm, bind, Except.bind] using ih
    | some r =>
      rw [step_of_some_eq hm, records_cons_of_some hm, List.enumFrom_cons, List.findSome?_cons]
      cases recordError float s.counter r with
      | some e' => simp [bind, Except.bind]
      | none => exact ih

theorem getQualityScores_eq_error_iff (float : String → Option α) (lines : List String)
    (e : PyError) : getQualityScores float lines = .error e ↔ logError float lines = some e := by
  rw [getQualityScores, logError]
  cases hf : (records lines).enum.findSome? (fun p => recordError float p.1 p.2) with
  | some e' =>
    have hrun : lines.foldlM (step float) ⟨[], 0⟩ = .error e' :=
      (foldlM_step_eq_error_iff lines).mpr hf
    have hne : records lines ≠ [] := by intro h; rw [h] at hf; cases hf
    simp [hrun, hne, bind, Except.bind]
  | none =>
    cases hrun : lines.foldlM (step float) ⟨[], 0⟩ with
    | error e' => cases hf.symm.trans ((foldlM_step_eq_error_iff lines).mp hrun)
    | ok s' =>
      obtain ⟨-, scores, hs, rfl⟩ := (foldlM_step_eq_ok_iff lines).mp hrun
      have hlen : scores.length = 0 ↔ records lines = [] := by
        rw [← hs.length_eq, List.length_eq_zero]
      by_cases hn : records lines = []
      · simp [hn, hlen.mpr hn, bind, Except.bind, throw, throwThe, MonadExceptOf.throw]
      · simp [hn, mt hlen.mp hn, bind, Except.bind, pure, Except.pure]

/-- The reader fails on a log without records with the `AssertionError` of
`assert len(psnr_scores) != 0`, and otherwise exactly when some record fails: the first
record whose index is not its position or whose value `float` rejects decides the error,
and the lines after it are never read. -/
theorem getQualityScores_fails_at_first_bad_record (float : String → Option α)
    (lines : List String) (e : PyError) :
    getQualityScores float lines = .error e ↔
      (records lines = [] ∧ e = .assertionError "") ∨
      (records lines).enum.findSome? (fun p => recordError float p.1 p.2) = some e := by
  rw [getQualityScores_eq_error_iff, logError]
  by_cases hn : records lines = [] <;> simp [hn, @eq_comm _ e]

/- A value `float` rejects in the second record, then a wrong index in the third: the
read stops at the second. -/
example : getQualityScores (fun text => if text = "31" then none else some (digitsValue text.data))
    ["psnr: 0 30", "psnr: 1 31", "psnr: 0 32"] =
      .error (.valueError "could not convert string to float: 31") := rfl

end Errors

-- ════════════════════════════════════════════════════════════════════════
-- Well-formed logs
-- ════════════════════════════════════════════════════════════════════════

section WellFormed

theorem matchRecord_recordLine {index : ℕ} {value tail : String}
    (hv : value.data ≠ [] ∧ ∀ c ∈ value.data, isValueChar c)
    (ht : ∀ c ∈ tail.data.head?, isValueChar c = false) :
    matchRecord (recordLine index value ++ tail).data =
      some ((toString index).data, value.data) := by
  obtain ⟨hne, hd, -⟩ := toString_digits index
  simpa [recordLine, recordPrefix] using matchRecord_of_parts ⟨_, rfl, hne, hd, hv.1, hv.2, ht⟩

/-- A log in the format the pattern reads, its line `i` being `psnr: i v` and a tail that
does not continue the value, is read back as the values, in order, whenever `float`
accepts them: `int(str(i))` is `i`, so the index check passes on every line. -/
theorem getQualityScores_reads_well_formed_log (float : String → Option α) (values : List String)
    (tail : String) (scores : List α) (hv : ∀ v ∈ values, v.data ≠ [] ∧ ∀ c ∈ v.data, isValueChar c)
    (ht : ∀ c ∈ tail.data.head?, isValueChar c = false)
    (hf : List.Forall₂ (fun v score => float v = some score) values scores) (hne : values ≠ []) :
    getQualityScores float (values.enum.map fun p => recordLine p.1 p.2 ++ tail) =
      .ok (AList.singleton "PSNR_scores" scores) := by
  set lines := values.enum.map fun p => recordLine p.1 p.2 ++ tail with hl
  have hrec : records lines = values.enum.map fun p => ((toString p.1).data, p.2.data) := by
    rw [records, hl, List.filterMap_map, ← List.filterMap_eq_map]
    exact List.filterMap_congr fun p hp =>
      matchRecord_recordLine (hv p.2 (List.snd_mem_of_mem_enum hp)) ht
  have hidx : (records lines).map (fun r => digitsValue r.1) =
      List.range' 0 (records lines).length := by
    simp only [hrec, List.map_map, Function.comp_def, (toString_digits _).2.2, List.length_map,
      List.enum_length]
    rw [← List.range_eq_range', ← List.enum_map_fst]
  have hscores : List.Forall₂ (fun r score => float (String.mk r.2) = some score)
      (records lines) scores := by
    rw [hrec, List.forall₂_map_left_iff]
    exact List.forall₂_map_left_iff.mp ((List.enum_map_snd values).symm ▸ hf)
  rw [getQualityScores, (@foldlM_step_eq_ok_iff α float ⟨[], 0⟩ _ lines).mpr
    ⟨hidx, scores, hscores, rfl⟩]
  refine (assert_nonempty_eq_ok_iff scores _).mpr ⟨fun h => hne ?_, rfl⟩
  exact List.eq_nil_of_length_eq_zero (hf.length_eq.trans (h ▸ rfl))

theorem getQualityScores_reads_well_formed_log_two_records :
    (∀ v ∈ ["30.1", "31.4"], v.data ≠ [] ∧ ∀ c ∈ v.data, isValueChar c) ∧
    (∀ c ∈ "\n".data.head?, isValueChar c = false) ∧
    List.Forall₂ (fun v score => decimalFloat v = some score) ["30.1", "31.4"]
      [(30.1 : ℚ), 31.4] ∧
    ["30.1", "31.4"] ≠ [] ∧
    getQualityScores decimalFloat (["30.1", "31.4"].enum.map fun p => recordLine p.1 p.2 ++ "\n") =
      .ok (AList.singleton "PSNR_scores" [(30.1 : ℚ), 31.4]) := by
  have h₁ : decimalFloat (α := ℚ) "30.1" = some 30.1 := by
    rw [decimalFloat, show readDecimal "30.1".data = some ⟨1, 301, 1, 0⟩ by decide]
    norm_num [Decimal.value]
  have h₂ : decimalFloat (α := ℚ) "31.4" = some 31.4 := by
    rw [decimalFloat, show readDecimal "31.4".data = some ⟨1, 314, 1, 0⟩ by decide]
    norm_num [Decimal.value]
  have hf : List.Forall₂ (fun v score => decimalFloat v = some score) ["30.1", "31.4"]
      [(30.1 : ℚ), 31.4] := .cons h₁ (.cons h₂ .nil)
  exact ⟨by decide, by decide, hf, by decide,
    getQualityScores_reads_well_formed_log _ _ _ _ (by decide) (by decide) hf (by decide)⟩

end WellFormed

end VmafQuality.PsnrQualityRunner
