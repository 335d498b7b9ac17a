import Scaffold.Yaml.Scalar
import Scaffold.Yaml.Writer
import Scaffold.Proofs.Yaml.Word

namespace Scaffold.Yaml

/-!
# Written integers

Integers are written as plain scalars: a sign in front of the negative ones, and digits without a zero in front.
Such a scalar stands for the integer again if 64 bits hold it.

* `Scalar.magnitude?_toDigits` — the digits of a number stand for that number;
* `Scalar.resolve_int` — the text of an integer stands for that integer.
-/

/-- Decimal digits are digits of ASCII. -/
theorem isAsciiDigit_of_mem_toDigits {n : Nat} {c : Char} (h : c ∈ Nat.toDigits 10 n) : Text.isAsciiDigit c = true :=
  Nat.isDigit_of_mem_toDigits (by decide) (by decide) h

/-- The digits of a positive number do not start with a zero. -/
theorem head?_toDigits {n : Nat} (hn : 0 < n) : (Nat.toDigits 10 n).head? ≠ some '0' := by
  induction n using Nat.strongRecOn with
  | _ n ih =>
    rw [Nat.toDigits_eq_if (by decide)]
    by_cases hsmall : n < 10
    · rw [if_pos hsmall]
      exact (by decide : ∀ m < 10, 0 < m → [Nat.digitChar m].head? ≠ some '0') n hsmall hn
    · have hfront := ih (n / 10) (by omega) (by omega)
      obtain ⟨c, rest, hdigits⟩ := List.exists_cons_of_ne_nil (Nat.toDigits_ne_nil (n := n / 10) (b := 10))
      rw [if_neg hsmall, hdigits]
      rwa [hdigits] at hfront

namespace Scalar

/-- A digit is read as what it stands for. -/
theorem digit?_of_isAsciiDigit {c : Char} (h : Text.isAsciiDigit c = true) :
    digit? 10 c = some (c.toNat - '0'.toNat) := by
  have hbound : c.toNat ≤ 57 := by
    simp only [Text.isAsciiDigit, Bool.and_eq_true, decide_eq_true_eq, Char.le_def, UInt32.le_iff_toNat_le] at h
    exact h.2
  have hzero : '0'.toNat = 48 := rfl
  rw [digit?, if_pos h, hzero, Option.filter_some, if_pos]
  rw [decide_eq_true_eq]
  omega

/-- Digits stand for the number that they are the digits of. -/
theorem natural?_of_digits {digits : List Char} (hne : digits ≠ [])
    (h : ∀ c ∈ digits, Text.isAsciiDigit c = true) : natural? 10 digits = some (Nat.ofDigitChars 10 digits 0) := by
  have hfold (start : Nat) : digits.foldlM (fun n c => (digit? 10 c).map (10 * n + ·)) start
      = some (Nat.ofDigitChars 10 digits start) := by
    clear hne
    induction digits generalizing start with
    | nil => rfl
    | cons c digits ih =>
      rw [List.foldlM_cons, digit?_of_isAsciiDigit (h c List.mem_cons_self), Nat.ofDigitChars_cons]
      exact ih (fun d hd => h d (List.mem_cons_of_mem _ hd)) _
  rw [natural?, if_neg (by simpa using hne), hfold]

/-- No zero stands in front of the digits of a number. -/
theorem hasLeadingZero_toDigits (n : Nat) : hasLeadingZero (Nat.toDigits 10 n) = false := by
  obtain ⟨c, rest, hdigits⟩ := List.exists_cons_of_ne_nil (Nat.toDigits_ne_nil (n := n) (b := 10))
  have hc : Text.isAsciiDigit c = true := isAsciiDigit_of_mem_toDigits (by rw [hdigits]; exact List.mem_cons_self)
  by_cases hn : n = 0
  · rw [hn]
    decide
  · have hzero : c ≠ '0' := fun hzero => head?_toDigits (Nat.pos_of_ne_zero hn) (by rw [hdigits, hzero]; rfl)
    rw [hdigits]
    simp [hasLeadingZero, hzero, ne_of_test hc (show Text.isAsciiDigit '-' = false by decide),
      ne_of_test hc (show Text.isAsciiDigit '+' = false by decide)]

/-- The digits of a number stand for it, if it is below the bound. -/
theorem magnitude?_toDigits (bound n : Nat) :
    magnitude? bound (Nat.toDigits 10 n) = if n < bound then some n else none := by
  have hnatural : natural? 10 (Nat.toDigits 10 n) = some n := by
    rw [natural?_of_digits Nat.toDigits_ne_nil fun _ => isAsciiDigit_of_mem_toDigits,
      Nat.ofDigitChars_toDigits (by decide) (by decide)]
  -- Digits without a leading zero are read in base ten.
  have hdecimal : magnitude? bound (Nat.toDigits 10 n)
      = if hasLeadingZero (Nat.toDigits 10 n) then none
        else (natural? 10 (Nat.toDigits 10 n)).filter (· < bound) := by
    by_cases hn : n = 0
    · rw [hn]
      rfl
    · obtain ⟨c, rest, hdigits⟩ := List.exists_cons_of_ne_nil (Nat.toDigits_ne_nil (n := n) (b := 10))
      have hzero : c ≠ '0' := fun hzero => head?_toDigits (Nat.pos_of_ne_zero hn) (by rw [hdigits, hzero]; rfl)
      rw [hdigits]
      simp [magnitude?, hzero]
  rw [hdecimal, hasLeadingZero_toDigits, hnatural]
  simp [Option.filter_some]

/-- A text that starts with a digit or a sign is no word. -/
theorem resolve_of_int? {s : String} {c : Char} {rest : List Char} (hs : s.toList = c :: rest)
    (hc : (Text.isAsciiDigit c || c == '-') = true) {r : Resolved} (hint : int? s.toList = some r) : resolve s = r := by
  -- The words that stand for other values start with neither a digit nor a sign.
  have hword : ∀ t : String, t.toList.head?.any (fun d => Text.isAsciiDigit d || d == '-') = false → s ≠ t := by
    rintro t ht rfl
    rw [hs, List.head?_cons, Option.any_some, hc] at ht
    cases ht
  have hempty : s.isEmpty = false := by
    rw [Bool.eq_false_iff, Ne, String.isEmpty_iff]
    exact hword "" (by decide)
  have hnull : isNullWord s = false := by
    simp [isNullWord, hword "null" (by decide), hword "Null" (by decide), hword "NULL" (by decide),
      hword "~" (by decide)]
  have hbool : boolWord? s = none := by
    simp [boolWord?, hword "true" (by decide), hword "True" (by decide), hword "TRUE" (by decide),
      hword "false" (by decide), hword "False" (by decide), hword "FALSE" (by decide)]
  simp [resolve, hempty, hnull, hbool, hint]

/-- A number that is not negative is written as its digits. -/
theorem toList_toString_nonneg {i : Int} (h : 0 ≤ i) : (toString i).toList = Nat.toDigits 10 i.toNat := by
  show i.repr.toList = _
  rw [Int.repr_eq_if, if_pos h, Nat.repr_eq_ofList_toDigits, String.toList_ofList]

/-- A negative number is written as its digits behind a sign. -/
theorem toList_toString_neg {i : Int} (h : i < 0) : (toString i).toList = '-' :: Nat.toDigits 10 (-i).toNat := by
  show i.repr.toList = _
  rw [Int.repr_eq_if, if_neg (by omega), Nat.repr_eq_ofList_toDigits, String.toList_append, String.toList_ofList,
    String.toList_ofList]
  rfl

/-- An integer is written with digits and a sign. -/
theorem eq_or_isAsciiDigit_of_mem_toString {i : Int} {c : Char} (h : c ∈ (toString i).toList) :
    c = '-' ∨ Text.isAsciiDigit c = true := by
  by_cases hi : 0 ≤ i
  · rw [toList_toString_nonneg hi] at h
    exact .inr (isAsciiDigit_of_mem_toDigits h)
  · rw [toList_toString_neg (by omega)] at h
    exact (List.mem_cons.1 h).imp_right isAsciiDigit_of_mem_toDigits

/-- **Written integers.** The text of an integer stands for that integer if 64 bits hold it. -/
theorem resolve_int {i : Int} (hlow : -Int.pow 2 63 ≤ i) (hhigh : i < Int.pow 2 64) :
    resolve (toString i) = .value (.number (.int i)) := by
  by_cases hi : 0 ≤ i
  -- A number that is not negative is read without a sign.
  · have htext := toList_toString_nonneg hi
    obtain ⟨c, rest, hdigits⟩ := List.exists_cons_of_ne_nil (Nat.toDigits_ne_nil (n := i.toNat) (b := 10))
    have hc : Text.isAsciiDigit c = true := isAsciiDigit_of_mem_toDigits (by rw [hdigits]; exact List.mem_cons_self)
    refine resolve_of_int? (htext.trans hdigits) (by rw [hc, Bool.true_or]) ?_
    have hplus : c ≠ '+' := ne_of_test hc (by decide)
    have hbound : i.toNat < Nat.pow 2 64 := by
      have hnat : Nat.pow 2 64 = 18446744073709551616 := by decide
      have hint : Int.pow 2 64 = 18446744073709551616 := by decide
      omega
    have hmagnitude := magnitude?_toDigits (Nat.pow 2 64) i.toNat
    rw [if_pos hbound] at hmagnitude
    have hunsigned : unsigned? 64 (Nat.toDigits 10 i.toNat) = some i := by
      rw [hdigits] at hmagnitude ⊢
      have hsign : unsigned? 64 (c :: rest) = (magnitude? (Nat.pow 2 64) (c :: rest)).map Int.ofNat := by
        simp [unsigned?, hplus]
      rw [hsign, hmagnitude, Option.map_some]
      exact congrArg some (Int.toNat_of_nonneg hi)
    rw [int?, htext, hunsigned]
    rfl
  -- A sign is no digit, so the unsigned form fails and the signed one is taken.
  · have htext := toList_toString_neg (i := i) (by omega)
    refine resolve_of_int? htext (by decide) ?_
    have hbound : (-i).toNat < Nat.pow 2 63 + 1 := by
      have hnat : Nat.pow 2 63 = 9223372036854775808 := by decide
      have hint : Int.pow 2 63 = 9223372036854775808 := by decide
      omega
    have hmagnitude := magnitude?_toDigits (Nat.pow 2 63 + 1) (-i).toNat
    rw [if_pos hbound] at hmagnitude
    have hunsigned : unsigned? 64 ('-' :: Nat.toDigits 10 (-i).toNat) = none := by
      have hdash : digit? 10 '-' = none := by decide
      simp [unsigned?, magnitude?, natural?, hdash]
    have hnegative : negative? 64 ('-' :: Nat.toDigits 10 (-i).toNat) = some i := by
      simp only [negative?, hmagnitude, Option.map_some, Option.some.injEq]
      rw [show -Int.ofNat (-i).toNat = i by simp; omega]
    rw [int?, htext, hunsigned, hnegative]
    rfl

end Scalar

end Scaffold.Yaml
