import Mathlib

/-!
# Python and numpy primitives of the quality runners

The runners in `quality_runner.py` lean on a few behaviours of Python and numpy:
`dict` lookup that raises `KeyError`, the exceptions that abort a run,
`np.clip`, and `float`. They are fixed here once, for every runner.

Scores are elements of an arbitrary linearly ordered field `α`: the definitions
run on `ℚ` and the theorems hold over `ℝ`. Double rounding is not modelled.

The theorems about log readers take `float` as a parameter and hold whatever it
accepts. `decimalFloat` is the concrete reader the model runs with: `float` on
finite decimal literals, that is surrounding whitespace, an optional sign, digits
with at most one point and at least one digit, and an optional exponent. `inf`,
`nan` and digit separators have no value in `α` and read as failures.
-/

namespace VmafQuality

/-- The exceptions that end a run: a failed `assert` with its message (empty when the
`assert` gives none), a missing `dict` key, and a `ValueError` raised by `float` or by
tuple unpacking. -/
inductive PyError where
  | assertionError (message : String)
  | keyError (key : String)
  | valueError (text : String)
  deriving DecidableEq, Repr

/-- A Python `dict` with string keys. Its insertion order is not modelled. -/
abbrev Dict (V : Type) := AList (fun _ : String => V)

namespace Dict

variable {V : Type}

/-- `d[key]`. -/
def getItem (d : Dict V) (key : String) : Except PyError V :=
  match d.lookup key with
  | some v => .ok v
  | none => .error (.keyError key)

/-- `del d[key]`. -/
def delItem (d : Dict V) (key : String) : Except PyError (Dict V) :=
  if key ∈ d then .ok (d.erase key) else .error (.keyError key)

/-- `d.update(e)`: the entries of `e` override those of `d`. -/
def update (d e : Dict V) : Dict V := e ∪ d

theorem getItem_eq_ok {d : Dict V} {key : String} {v : V} :
    d.getItem key = .ok v ↔ d.lookup key = some v := by
  unfold getItem; split <;> simp_all

@[simp] theorem update_empty (e : Dict V) : update ∅ e = e := AList.union_empty

@[simp] theorem lookup_singleton {key : String} {v : V} :
    (AList.singleton key v : Dict V).lookup key = some v := by
  rw [← AList.insert_empty, AList.lookup_insert]

theorem lookup_singleton_ne {key key' : String} {v : V} (h : key' ≠ key) :
    (AList.singleton key v : Dict V).lookup key' = none := by
  rw [← AList.insert_empty, AList.lookup_insert_ne h, AList.lookup_empty]

end Dict

theorem Except.bind_eq_ok_iff {ε β γ : Type} {x : Except ε β} {f : β → Except ε γ} {c : γ} :
    x >>= f = .ok c ↔ ∃ b, x = .ok b ∧ f b = .ok c := by
  cases x <;> simp [bind, Except.bind]

theorem Except.map_eq_ok_iff {ε β γ : Type} {f : β → γ} {x : Except ε β} {c : γ} :
    f <$> x = .ok c ↔ ∃ b, x = .ok b ∧ f b = c := by
  cases x <;> simp [Functor.map, Except.map]

section Clip

variable {α : Type*} [LinearOrder α]

/-- `np.clip(v, lower, upper)`, which numpy defines as
`np.minimum(upper, np.maximum(v, lower))` without checking `lower ≤ upper`. -/
def npClip (v lower upper : α) : α := min (max v lower) upper

theorem npClip_mono (lower upper : α) : Monotone (npClip · lower upper) :=
  fun _ _ h => min_le_min_right _ (max_le_max h le_rfl)

theorem npClip_le_upper (v lower upper : α) : npClip v lower upper ≤ upper :=
  min_le_right _ _

theorem lower_le_npClip {lower upper : α} (h : lower ≤ upper) (v : α) :
    lower ≤ npClip v lower upper :=
  le_min (le_max_right _ _) h

theorem npClip_of_le_lower {v lower upper : α} (hv : v ≤ lower) (h : lower ≤ upper) :
    npClip v lower upper = lower := by
  simp [npClip, max_eq_right hv, h]

theorem npClip_of_upper_le {v lower upper : α} (hv : upper ≤ v) : npClip v lower upper = upper :=
  min_eq_right (hv.trans (le_max_left _ _))

end Clip

-- ════════════════════════════════════════════════════════════════════════
-- `float` on decimal literals
-- ════════════════════════════════════════════════════════════════════════

/-- `float(text)`, given the strings the reader `float` accepts and their values: any
other string raises `ValueError`. -/
def pyFloat {α : Type} (float : String → Option α) (text : String) : Except PyError α :=
  match float text with
  | some v => .ok v
  | none => .error (.valueError ("could not convert string to float: " ++ text))

@[simp] theorem pyFloat_eq_ok {α : Type} {float : String → Option α} {text : String} {v : α} :
    pyFloat float text = .ok v ↔ float text = some v := by
  unfold pyFloat; split <;> simp_all

/-- The value of a run of ASCII digits, as `int` reads it. -/
def digitsValue (ds : List Char) : ℕ :=
  ds.foldl (fun n d => 10 * n + (d.toNat - '0'.toNat)) 0

theorem digitsValue_append_singleton (ds : List Char) (d : Char) :
    digitsValue (ds ++ [d]) = 10 * digitsValue ds + (d.toNat - '0'.toNat) := by
  simp [digitsValue, List.foldl_append]

theorem digitChar_of_lt_ten : ∀ k < 10,
    (Nat.digitChar k).isDigit = true ∧ (Nat.digitChar k).toNat - '0'.toNat = k := by
  decide

/-- `Nat.toDigitsCore` with enough fuel writes the decimal digits of `n` before `ds`. -/
theorem toDigitsCore_ten : ∀ (fuel n : ℕ) (ds : List Char), n < fuel →
    ∃ pre, Nat.toDigitsCore 10 fuel n ds = pre ++ ds ∧ pre ≠ [] ∧
      (∀ c ∈ pre, c.isDigit = true) ∧ digitsValue pre = n
  | 0, n, _, h => absurd h (Nat.not_lt_zero n)
  | fuel + 1, n, ds, h => by
    obtain ⟨hd, hv⟩ := digitChar_of_lt_ten (n % 10) (Nat.mod_lt _ (by norm_num))
    simp only [Nat.toDigitsCore]
    split_ifs with h0
    · refine ⟨[Nat.digitChar (n % 10)], rfl, List.cons_ne_nil _ _, by simpa using hd, ?_⟩
      simp only [digitsValue, List.foldl_cons, List.foldl_nil, hv]
      omega
    · obtain ⟨pre, hpre, -, hdig, hval⟩ :=
        toDigitsCore_ten fuel (n / 10) (Nat.digitChar (n % 10) :: ds) (by omega)
      refine ⟨pre ++ [Nat.digitChar (n % 10)], by simp [hpre], by simp, ?_, ?_⟩
      · simpa [or_imp, forall_and, hd] using hdig
      · rw [digitsValue_append_singleton, hval, hv]
        omega

/-- `int(str(n)) == n`: `str` writes `n` as a nonempty run of digits that reads back as
`n`. -/
theorem toString_digits (n : ℕ) :
    (toString n).data ≠ [] ∧ (∀ c ∈ (toString n).data, c.isDigit = true) ∧
      digitsValue (toString n).data = n := by
  obtain ⟨pre, h, hne, hd, hv⟩ := toDigitsCore_ten (n + 1) n [] (Nat.lt_succ_self n)
  have hs : (toString n).data = pre := h.trans (List.append_nil pre)
  exact hs ▸ ⟨hne, hd, hv⟩

/-- An optional sign and the text after it. -/
def readSign : List Char → ℤ × List Char
  | '-' :: cs => (-1, cs)
  | '+' :: cs => (1, cs)
  | cs => (1, cs)

/-- The exponent, which ends the literal: nothing, or `e` or `E`, an optional sign
and digits. -/
def readExponent : List Char → Option ℤ
  | [] => some 0
  | c :: cs =>
    let (sign, ds) := readSign cs
    if (c = 'e' ∨ c = 'E') ∧ ds ≠ [] ∧ ds.all Char.isDigit then some (sign * digitsValue ds)
    else none

/-- A finite decimal literal: its sign, the value of all its digits, how many of
them follow the point, and its exponent. -/
structure Decimal where
  sign : ℤ
  mantissa : ℕ
  fracDigits : ℕ
  exponent : ℤ
  deriving DecidableEq, Repr

/-- The decimal literal that `float` accepts in `text`, surrounding whitespace
stripped. -/
def readDecimal (text : List Char) : Option Decimal := do
  let cs := ((text.dropWhile Char.isWhitespace).reverse.dropWhile Char.isWhitespace).reverse
  let (sign, cs) := readSign cs
  let (intPart, cs) := cs.span Char.isDigit
  let (fracPart, cs) := match cs with
    | '.' :: cs => cs.span Char.isDigit
    | cs => ([], cs)
  guard (intPart ++ fracPart ≠ [])
  let exponent ← readExponent cs
  pure ⟨sign, digitsValue (intPart ++ fracPart), fracPart.length, exponent⟩

variable {α : Type} [LinearOrderedField α]

/-- The number a decimal literal denotes. -/
def Decimal.value (d : Decimal) : α :=
  ((d.sign * d.mantissa : ℤ) : α) / 10 ^ d.fracDigits * (10 : α) ^ d.exponent

/-- Python's `float` on finite decimal literals. -/
def decimalFloat (text : String) : Option α :=
  (readDecimal text.data).map Decimal.value

end VmafQuality
