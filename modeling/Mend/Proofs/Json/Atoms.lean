import Mend.Json.Reader
import Mend.Json.Writer
import Mend.Proofs.Number.Numeral

/-!
# Strings and numerals of documents, read back

A string is written with escapes and read by undoing them; a whole number is written as a decimal
numeral. Both are read back wherever they stand, as long as what follows does not carry them on.

## Main statements

* `Json.string_flatMap_escape` — strings are read back.
* `Json.number_ofInt` — whole numbers are read back.
-/

namespace Mend.Json

/-! ## Escapes -/

theorem hexValue?_hexDigit {n : Nat} (h : n < 16) : hexValue? (Text.hexDigit n) = some n := by
  revert h
  revert n
  decide

/-- Four hexadecimal digits are read back, whatever follows. -/
theorem hex4?_hex {c : Nat} (h : c < 0x10000) (t : Text) :
    hex4? (Text.hex 4 c ++ t) = some (c, t) := by
  have hdigit (n : Nat) : hexValue? (Text.hexDigit (n % 16)) = some (n % 16) :=
    hexValue?_hexDigit (Nat.mod_lt n (by decide))
  have hvalue : ((c / 16 / 16 / 16 % 16 * 16 + c / 16 / 16 % 16) * 16 + c / 16 % 16) * 16 + c % 16 = c := by
    omega
  simp [Text.hex, hex4?, hdigit, hvalue]

theorem drop_hex (c : Nat) (t : Text) : (Text.hex 4 c ++ t).drop 4 = t := by
  simp [Text.hex]

/-- A character of the first plane, written by its number, is read back. -/
theorem unicodeEscape_hex {c : Nat} {t : Text} (h : c < 0x10000) (hhigh : isHigh c = false)
    (ht : t ≠ []) : unicodeEscape (Text.hex 4 c ++ t) = .ok (c, t) := by
  rw [unicodeEscape, drop_hex, if_neg (by simpa using ht), hex4?_hex h]
  simp [hhigh]

theorem isHigh_iff {c : Nat} : isHigh c = true ↔ 0xD800 ≤ c ∧ c < 0xDC00 := by
  simp [isHigh]

theorem isLow_iff {c : Nat} : isLow c = true ↔ 0xDC00 ≤ c ∧ c < 0xE000 := by
  simp [isLow]

/-- A character beyond the first plane, written as a pair, is read back. -/
theorem unicodeEscape_pair {high low : Nat} {t : Text} (hhigh : isHigh high = true)
    (hlow : isLow low = true) (ht : t ≠ []) :
    unicodeEscape (Text.hex 4 high ++ (numbered low ++ t)) = .ok (joinPair high low, t) := by
  have hh : high < 0x10000 := by
    have := isHigh_iff.1 hhigh
    omega
  have hl : low < 0x10000 := by
    have := isLow_iff.1 hlow
    omega
  rw [unicodeEscape, drop_hex, if_neg (by simp [numbered]), hex4?_hex hh]
  have hnumbered : numbered low ++ t = 0x5C :: 0x75 :: (Text.hex 4 low ++ t) := rfl
  simp [hhigh, hnumbered, drop_hex, ht, hex4?_hex hl, hlow]

/-! ## Strings -/

theorem chars_letter {e u : Code} (he : e ≠ 0x75) (hu : unescape? e = some u) (fuel : Nat)
    (t acc : Text) : chars (fuel + 1) (0x5C :: e :: t) acc = chars fuel t (u :: acc) := by
  rw [chars, if_neg (by decide), if_pos (by decide), hu]
  exact he

theorem chars_number {u : Code} {more t : Text} (h : unicodeEscape more = .ok (u, t)) (fuel : Nat)
    (acc : Text) : chars (fuel + 1) (0x5C :: 0x75 :: more) acc = chars fuel t (u :: acc) := by
  rw [chars, if_neg (by decide), if_pos (by decide), h]

theorem chars_plain {c : Code} (hquote : c ≠ 0x22) (hslash : c ≠ 0x5C) (hlow : 0x20 ≤ c)
    (fuel : Nat) (t acc : Text) : chars (fuel + 1) (c :: t) acc = chars fuel t (c :: acc) := by
  rw [chars.eq_def]
  simp only []
  rw [if_neg (by simpa using hquote), if_neg (by simpa using hslash),
    if_neg (Nat.not_le.2 (Nat.lt_of_succ_le hlow))]

/-- A character is read back from the way it is written inside a string. -/
theorem chars_escape {c : Nat} (hc : Text.isScalar c = true) (fuel : Nat) {t : Text} (ht : t ≠ [])
    (acc : Text) : chars (fuel + 1) (escape c ++ t) acc = chars fuel t (c :: acc) := by
  have hscalar : c < 0xD800 ∨ (0xE000 ≤ c ∧ c < 0x110000) := by simpa [Text.isScalar] using hc
  fun_cases escape c
  case case1 h =>
    obtain rfl | rfl : c = 0x22 ∨ c = 0x5C := by simpa using h
    · exact chars_letter (by decide) rfl fuel t acc
    · exact chars_letter (by decide) rfl fuel t acc
  case case7 hspecial _ _ _ _ _ hshown =>
    have hshown : 0x20 ≤ c ∧ c < 0x7F := by simpa using hshown
    have hspecial : c ≠ 0x22 ∧ c ≠ 0x5C := by simpa using hspecial
    exact chars_plain hspecial.1 hspecial.2 hshown.1 fuel t acc
  case case8 hsmall =>
    have hhigh : isHigh c = false := by
      rw [← Bool.not_eq_true, isHigh_iff]
      omega
    exact chars_number (unicodeEscape_hex hsmall hhigh ht) fuel acc
  case case9 hlarge =>
    have hlarge : 0x10000 ≤ c := Nat.le_of_not_lt hlarge
    have hhigh : isHigh (0xD800 + (c - 0x10000) / 0x400) = true := by
      rw [isHigh_iff]
      omega
    have hlow : isLow (0xDC00 + (c - 0x10000) % 0x400) = true := by
      rw [isLow_iff]
      omega
    have hjoin : joinPair (0xD800 + (c - 0x10000) / 0x400) (0xDC00 + (c - 0x10000) % 0x400) = c := by
      show 0x10000 + (0xD800 + (c - 0x10000) / 0x400 - 0xD800) * 0x400 +
        (0xDC00 + (c - 0x10000) % 0x400 - 0xDC00) = c
      omega
    have hpair := unicodeEscape_pair hhigh hlow ht
    rw [hjoin] at hpair
    rw [List.append_assoc]
    exact chars_number hpair fuel acc
  -- The characters with a letter of their own.
  all_goals
    rename_i h
    obtain rfl := beq_iff_eq.1 h
    exact chars_letter (by decide) rfl fuel t acc

theorem length_escape_pos (c : Code) : 0 < (escape c).length := by
  fun_cases escape c <;> simp [numbered]

theorem length_le_length_flatMap_escape (t : Text) : t.length ≤ (t.flatMap escape).length := by
  induction t with
  | nil => exact Nat.le_refl 0
  | cons c t ih =>
      have := length_escape_pos c
      rw [List.flatMap_cons, List.length_append, List.length_cons]
      omega

theorem chars_flatMap_escape {s : Text} (hs : ∀ c ∈ s, Text.isScalar c = true) {fuel : Nat}
    (hfuel : s.length < fuel) (rest acc : Text) :
    chars fuel (s.flatMap escape ++ 0x22 :: rest) acc = .ok (some (acc.reverse ++ s, rest)) := by
  induction s generalizing fuel acc with
  | nil =>
      obtain ⟨fuel, rfl⟩ : ∃ n, fuel = n + 1 := ⟨fuel - 1, by simp at hfuel; omega⟩
      simp [chars]
  | cons c s ih =>
      obtain ⟨fuel, rfl⟩ : ∃ n, fuel = n + 1 := ⟨fuel - 1, by simp at hfuel; omega⟩
      rw [List.flatMap_cons, List.append_assoc,
        chars_escape (hs c (List.mem_cons_self ..)) fuel (by simp),
        ih (fun d hd => hs d (List.mem_cons_of_mem c hd)) (by simpa using hfuel)]
      simp

/-- A string is read back up to its closing quote, whatever follows. -/
theorem string_flatMap_escape {s : Text} (hs : ∀ c ∈ s, Text.isScalar c = true) {size : Nat}
    (hsize : s.length < size) (rest : Text) :
    string size (s.flatMap escape ++ 0x22 :: rest) = .ok (s, rest) := by
  rw [string, chars_flatMap_escape hs hsize]
  rfl

/-! ## Whole numbers -/

/-- A text that does not carry on a numeral that it follows. -/
def EndsNumeral (t : Text) : Prop :=
  ∀ c, t.head? = some c → Text.isAsciiDigit c = false ∧ c ≠ 0x2E ∧ c ≠ 0x65 ∧ c ≠ 0x45

theorem endsNumeral_nil : EndsNumeral [] := by
  intro c h
  cases h

theorem endsNumeral_cons {c : Code} {t : Text} (hdigit : Text.isAsciiDigit c = false)
    (hpoint : c ≠ 0x2E) (hsmall : c ≠ 0x65) (hlarge : c ≠ 0x45) : EndsNumeral (c :: t) := by
  intro d h
  obtain rfl := Option.some.inj h
  exact ⟨hdigit, hpoint, hsmall, hlarge⟩

theorem spanDigits_append {ds rest : Text} (hds : ∀ c ∈ ds, Text.isAsciiDigit c = true)
    (hrest : EndsNumeral rest) : spanDigits (ds ++ rest) = (ds, rest) := by
  have hnone : rest.takeWhile Text.isAsciiDigit = [] ∧ rest.dropWhile Text.isAsciiDigit = rest := by
    cases rest with
    | nil => exact ⟨rfl, rfl⟩
    | cons c t =>
        have hc := (hrest c rfl).1
        exact ⟨List.takeWhile_cons_of_neg (by simp [hc]), List.dropWhile_cons_of_neg (by simp [hc])⟩
  rw [spanDigits, List.takeWhile_append_of_pos hds, List.dropWhile_append_of_pos hds, hnone.1, hnone.2,
    List.append_nil]

theorem fraction_of_endsNumeral {rest : Text} (h : EndsNumeral rest) : fraction rest = ([], rest) := by
  unfold fraction
  split
  case h_1 rest => exact absurd rfl (h 0x2E rfl).2.1
  case h_2 => rfl

theorem exponent_of_endsNumeral {rest : Text} (h : EndsNumeral rest) :
    exponent rest = (none, rest) := by
  cases rest with
  | nil => rfl
  | cons c t =>
      have hc := h c rfl
      simp [exponent, hc.2.2.1, hc.2.2.2]

/-- The digits of a numeral are read as a whole number if nothing carries them on. -/
theorem numberTail_decimal {n : Nat} (hfits : Numeral.fits n = true) (negative : Bool) {rest : Text}
    (hrest : EndsNumeral rest) :
    numberTail negative (Text.decimal n) rest =
      (.ok (.int (if negative then -(n : Int) else n)), rest) := by
  have hlength : (Text.decimal n).length ≤ Numeral.maxDigits := by simpa using Numeral.fits_iff.1 hfits
  simp [numberTail, fraction_of_endsNumeral hrest, exponent_of_endsNumeral hrest,
    Nat.not_lt.2 hlength, Numeral.value_decimal]

theorem sign_decimal (n : Nat) (rest : Text) :
    sign (Text.decimal n ++ rest) = (false, Text.decimal n ++ rest) := by
  obtain ⟨d, ds, hds, hdigit, -⟩ := Text.exists_decimal_eq_cons n
  unfold sign
  split
  case h_1 tail heq =>
    rw [hds, List.cons_append, List.cons.injEq] at heq
    rw [heq.1] at hdigit
    cases hdigit
  case h_2 => rfl

theorem whole_decimal (n : Nat) {rest : Text} (hrest : EndsNumeral rest) :
    whole (Text.decimal n ++ rest) = (Text.decimal n, rest) := by
  obtain ⟨d, ds, hds, -, hzero⟩ := Text.exists_decimal_eq_cons n
  unfold whole
  split
  case h_1 tail heq =>
    rw [hds, List.cons_append, List.cons.injEq] at heq
    obtain ⟨-, rfl⟩ := hzero heq.1
    rw [hds, heq.1, ← heq.2]
    rfl
  case h_2 => exact spanDigits_append (Text.isAsciiDigit_of_mem_decimal n) hrest

theorem number_of_sign {t rest : Text} {negative : Bool} {n : Nat}
    (hsign : sign t = (negative, Text.decimal n ++ rest)) (hfits : Numeral.fits n = true)
    (hrest : EndsNumeral rest) :
    number t = .ok (.int (if negative then -(n : Int) else n), rest) := by
  obtain ⟨d, ds, hds, -⟩ := Text.exists_decimal_eq_cons n
  have hdigits : (Text.decimal n).isEmpty = false := by rw [hds]; rfl
  simp [number, hsign, whole_decimal n hrest, numberTail_decimal hfits negative hrest, hdigits]

/-- A whole number is read back if nothing carries its numeral on. -/
theorem number_ofInt {n : Int} (hfits : Numeral.fits n = true) {rest : Text}
    (hrest : EndsNumeral rest) : number (Text.ofInt n ++ rest) = .ok (.int n, rest) := by
  cases n with
  | ofNat n => exact number_of_sign (sign_decimal n rest) hfits hrest
  | negSucc n =>
      have hsign : sign (Text.ofInt (.negSucc n) ++ rest) = (true, Text.decimal (n + 1) ++ rest) := rfl
      exact number_of_sign hsign hfits hrest

end Mend.Json
