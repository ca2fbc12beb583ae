import Mend.Number.Numeral
import Mathlib.Tactic.Ring
import Mathlib.Data.List.Basic

/-!
# Decimal numerals

The decimal numeral of a number consists of ASCII digits, has no leading zero, stands for the number,
and has at most `k` digits just if the number is below `10 ^ k`. So a number has no more digits than a
numeral may have just if its numeral is not too long.
-/

namespace Mend

namespace Text

theorem decimal_of_lt {n : Nat} (h : n < 10) : decimal n = [0x30 + n] := by
  rw [decimal, if_pos h]

theorem decimal_of_le {n : Nat} (h : 10 ≤ n) : decimal n = decimal (n / 10) ++ [0x30 + n % 10] := by
  rw [decimal, if_neg (by omega)]

/-- Induction along the digits of a number, the last one first. -/
theorem decimal_induction {motive : Nat → Prop} (small : ∀ n < 10, motive n)
    (step : ∀ n, 10 ≤ n → motive (n / 10) → motive n) (n : Nat) : motive n := by
  induction n using Nat.strong_induction_on with
  | h n ih =>
      by_cases hn : n < 10
      · exact small n hn
      · exact step n (by omega) (ih (n / 10) (by omega))

theorem isAsciiDigit_iff {c : Nat} : isAsciiDigit c = true ↔ 0x30 ≤ c ∧ c ≤ 0x39 := by
  simp [isAsciiDigit]

theorem isAsciiDigit_of_mem_decimal (n : Nat) : ∀ c ∈ decimal n, isAsciiDigit c = true := by
  induction n using decimal_induction with
  | small n hn =>
      rw [decimal_of_lt hn]
      intro c hc
      rw [List.mem_singleton.1 hc, isAsciiDigit_iff]
      omega
  | step n hn ih =>
      rw [decimal_of_le hn]
      intro c hc
      rcases List.mem_append.1 hc with hc | hc
      · exact ih c hc
      · rw [List.mem_singleton.1 hc, isAsciiDigit_iff]
        omega

/-- A numeral begins with a digit, and with a zero only if it is the zero. -/
theorem exists_decimal_eq_cons (n : Nat) :
    ∃ d ds, decimal n = d :: ds ∧ isAsciiDigit d = true ∧ (d = 0x30 → n = 0 ∧ ds = []) := by
  induction n using decimal_induction with
  | small n hn =>
      refine ⟨0x30 + n, [], decimal_of_lt hn, ?_, fun h => ⟨by simpa using h, rfl⟩⟩
      rw [isAsciiDigit_iff]
      omega
  | step n hn ih =>
      obtain ⟨d, ds, hds, hdigit, hzero⟩ := ih
      refine ⟨d, ds ++ [0x30 + n % 10], by rw [decimal_of_le hn, hds]; rfl, hdigit, fun h => ?_⟩
      have := (hzero h).1
      omega

theorem length_decimal_pos (n : Nat) : 0 < (decimal n).length := by
  obtain ⟨d, ds, hds, -⟩ := exists_decimal_eq_cons n
  rw [hds]
  exact Nat.succ_pos _

theorem length_decimal_le_iff {n k : Nat} (hk : 0 < k) : (decimal n).length ≤ k ↔ n < 10 ^ k := by
  induction n using decimal_induction generalizing k with
  | small n hn =>
      rw [decimal_of_lt hn]
      have hpow : 10 ^ 1 ≤ 10 ^ k := Nat.pow_le_pow_right (by omega) hk
      exact iff_of_true hk (by omega)
  | step n hn ih =>
      obtain ⟨k, rfl⟩ : ∃ j, k = j + 1 := ⟨k - 1, by omega⟩
      have hpos := length_decimal_pos (n / 10)
      have hlength : (decimal n).length = (decimal (n / 10)).length + 1 := by
        rw [decimal_of_le hn, List.length_append, List.length_singleton]
      rw [hlength, pow_succ]
      rcases Nat.eq_zero_or_pos k with rfl | hk
      · exact iff_of_false (by omega) (by omega)
      · rw [Nat.add_le_add_iff_right, ih hk]
        omega

theorem digit?_of_isAsciiDigit {c : Nat} (h : isAsciiDigit c = true) : digit? c = some (c - 0x30) :=
  if_pos h

/-- No white space stands between the exclamation mark and the end of ASCII. -/
theorem isBlank_of_visible {c : Nat} (hlow : 0x21 ≤ c) (hhigh : c < 0x7F) : isBlank c = false := by
  revert hlow
  revert hhigh
  revert c
  decide

theorem isBlank_of_isAsciiDigit {c : Nat} (h : isAsciiDigit c = true) : isBlank c = false := by
  rw [isAsciiDigit_iff] at h
  exact isBlank_of_visible (by omega) (by omega)

end Text

namespace Numeral

open Text

@[simp] theorem value_append_singleton (ds : List Nat) (d : Nat) :
    value (ds ++ [d]) = 10 * value ds + d := by
  simp [value]

/-- The value of the digits of a numeral. -/
theorem value_decimal (n : Nat) : value ((decimal n).map (· - 0x30)) = n := by
  induction n using decimal_induction with
  | small n hn => simp [decimal_of_lt hn, value]
  | step n hn ih =>
      rw [decimal_of_le hn, List.map_append, List.map_singleton, value_append_singleton, ih]
      omega

/-- A number fits just if its numeral has no more digits than are read. -/
theorem fits_iff {n : Int} : fits n = true ↔ (decimal n.natAbs).length ≤ maxDigits := by
  rw [fits, decide_eq_true_iff, Nat.pow_eq, length_decimal_le_iff (by decide)]

theorem fits_of_lt_million {n : Nat} (h : n < 10 ^ 6) : fits n = true :=
  fits_iff.2 (Nat.le_trans ((length_decimal_le_iff (by decide)).2 h) (by decide))

theorem digits?_of_isAsciiDigit {t : Text} (hne : t ≠ []) (h : ∀ c ∈ t, isAsciiDigit c = true) :
    digits? t = some (t.map (· - 0x30)) := by
  induction t with
  | nil => exact absurd rfl hne
  | cons c t ih =>
      have hc := digit?_of_isAsciiDigit (h c (List.mem_cons_self ..))
      cases t with
      | nil =>
          unfold digits?
          simp only [hc]
          rfl
      | cons u t =>
          have hu : (u == 0x5F) = false := by
            have hdigit := isAsciiDigit_iff.1 (h u (by simp))
            rw [beq_eq_false_iff_ne]
            rintro rfl
            exact absurd hdigit.2 (by decide)
          unfold digits?
          simp only [hc, hu, Bool.false_eq_true, if_false]
          rw [ih (List.cons_ne_nil u t) fun d hd => h d (List.mem_cons_of_mem c hd)]
          rfl

end Numeral

end Mend
