import Mend.Proofs.Json.Reading

/-!
# Efforts add up

The minutes of an effort are the sum of the minutes of its parts, in whatever order these stand, however
often a unit comes up, and whatever white space there is. An effort that is reported in hours and minutes
is such a text, so it is read as what it was; but one of more hours than a numeral can write is not
reported at all.

## Main definitions

* `Effort.Written` — a part of an effort as it is written.

## Main statements

* `Effort.parts_texts` — the parts of an effort are those that it was written with.
* `Effort.minutes_texts` — the minutes of a written effort are those of its parts.
* `Effort.exists_written` — an effort is reported as a sequence of written parts.
* `Effort.read_report` — what is read of written and of reported efforts.
-/

namespace Mend

namespace Numeral

theorem value_zeros_append (k : Nat) (ds : List Nat) : value (List.replicate k 0 ++ ds) = value ds := by
  induction k with
  | zero => rfl
  | succ k ih => exact ih

/-- A run of ASCII digits that is not too long is read as the number that it stands for. -/
theorem intOfText_of_isAsciiDigit {t : Text} (hne : t ≠ [])
    (h : ∀ c ∈ t, Text.isAsciiDigit c = true) (hlength : t.length ≤ maxDigits) :
    Value.intOfText t = .ok (value (t.map (· - 0x30)) : Nat) := by
  have hdigit : ∀ c ∈ t, Text.isDigit c = true := fun c hc => by
    rw [Text.isDigit, Text.digit?_of_isAsciiDigit (h c hc), Option.isSome_some]
  have hunsigned : unsigned t = .ok (value (t.map (· - 0x30))) := by
    rw [unsigned, digits?_of_isAsciiDigit hne h]
    exact if_neg (by rw [List.length_map]; omega)
  rw [Value.intOfText, read_digits hne hdigit, hunsigned]
  rfl

end Numeral

namespace Effort

open Text

/-! ## Taking an effort apart -/

/-- What has no digit before a text is passed over. -/
theorem parts_append_of_not_isDigit {t : Text} (h : ∀ c ∈ t, isDigit c = false) (rest : Text) :
    parts (t ++ rest) = parts rest := by
  induction t with
  | nil => rfl
  | cons c t ih =>
      obtain ⟨hc, ht⟩ := List.forall_mem_cons.1 h
      rw [List.cons_append, parts, if_neg (by rw [hc]; exact Bool.false_ne_true), ih ht]

theorem unit?_letters (u : Part.Unit) (rest : Text) : unit? (u.letters ++ rest) = some (u, rest) := by
  cases u <;> rfl

/-- A unit begins with a letter. -/
theorem exists_letters_eq_cons (u : Part.Unit) :
    ∃ c rest, u.letters = c :: rest ∧ isDigit c = false ∧ isBlank c = false := by
  cases u <;> exact ⟨_, _, rfl, by decide, by decide⟩

theorem isDigit_of_isBlank {c : Code} (h : isBlank c = true) : isDigit c = false := by
  rw [← Bool.not_eq_true]
  intro hdigit
  rw [isBlank_of_isDigit hdigit] at h
  cases h

/-- A run of digits with a unit behind it is a part, white space between them or not. -/
theorem parts_amount {amount between : Text} (hne : amount ≠ [])
    (hamount : ∀ c ∈ amount, isDigit c = true) (hbetween : ∀ c ∈ between, isBlank c = true)
    (u : Part.Unit) (rest : Text) :
    parts (amount ++ (between ++ (u.letters ++ rest))) = ⟨amount, u⟩ :: parts rest := by
  obtain ⟨c, digits, rfl⟩ := List.exists_cons_of_ne_nil hne
  obtain ⟨hc, hdigits⟩ := List.forall_mem_cons.1 hamount
  obtain ⟨letter, letters, hletters, hdigit, hblank⟩ := exists_letters_eq_cons u
  -- The run of digits ends with the amount, since neither white space nor a unit begins with a digit.
  have hend : (between ++ (u.letters ++ rest)).takeWhile isDigit = [] ∧
      (between ++ (u.letters ++ rest)).dropWhile isDigit = between ++ (u.letters ++ rest) := by
    rw [hletters]
    cases between with
    | nil => simp [hdigit]
    | cons d between => simp [isDigit_of_isBlank (hbetween d List.mem_cons_self)]
  have hunit : unit? ((between ++ (u.letters ++ rest)).dropWhile isBlank) = some (u, rest) := by
    rw [List.dropWhile_append_of_pos hbetween, ← unit?_letters, hletters, List.cons_append,
      List.dropWhile_cons_of_neg (by simp [hblank])]
  rw [List.cons_append, parts, if_pos hc, List.takeWhile_append_of_pos hdigits,
    List.dropWhile_append_of_pos hdigits, hend.1, hend.2, List.append_nil]
  dsimp only
  split
  · rename_i h
    cases hunit.symm.trans h
    rfl
  · rename_i h
    cases hunit.symm.trans h

/-! ## Parts as they are written -/

/-- A part of an effort as it is written: the ASCII digits of the amount and the letters of the unit, with
white space before either. -/
structure Written where
  before : Text
  amount : Text
  between : Text
  unit : Part.Unit
  isBlank_before : ∀ c ∈ before, isBlank c = true
  amount_ne_nil : amount ≠ []
  isAsciiDigit_amount : ∀ c ∈ amount, isAsciiDigit c = true
  length_amount_le : amount.length ≤ Numeral.maxDigits
  isBlank_between : ∀ c ∈ between, isBlank c = true

namespace Written

def text (w : Written) : Text := .cat [w.before, w.amount, w.between, w.unit.letters]

/-- The number that an amount stands for, whether or not there are zeros before it. -/
def number (w : Written) : Nat := Numeral.value (w.amount.map (· - 0x30))

def minutes (w : Written) : Nat := w.number * w.unit.minutes

/-- A part as it is read. -/
def part (w : Written) : Part := ⟨w.amount, w.unit⟩

theorem parts_text_append (w : Written) (rest : Text) :
    parts (w.text ++ rest) = w.part :: parts rest := by
  have htext : w.text ++ rest =
      w.before ++ (w.amount ++ (w.between ++ (w.unit.letters ++ rest))) := by
    simp only [text, Text.cat, List.flatten_cons, List.flatten_nil, List.append_nil, List.append_assoc]
  have hdigits : ∀ c ∈ w.amount, isDigit c = true := fun c hc => by
    rw [isDigit, digit?_of_isAsciiDigit (w.isAsciiDigit_amount c hc), Option.isSome_some]
  rw [htext, parts_append_of_not_isDigit fun c hc => isDigit_of_isBlank (w.isBlank_before c hc),
    parts_amount w.amount_ne_nil hdigits w.isBlank_between]
  rfl

theorem minutes_part (w : Written) : w.part.minutes = .ok (w.minutes : Int) := by
  rw [Part.minutes, part,
    Numeral.intOfText_of_isAsciiDigit w.amount_ne_nil w.isAsciiDigit_amount w.length_amount_le, ok_bind,
    minutes, number, Nat.cast_mul]
  rfl

end Written

variable {ws : List Written} {behind : Text}

/-- The parts of an effort are those that it was written with: none is swallowed, split or passed over. -/
theorem parts_texts (ws : List Written) (hbehind : ∀ c ∈ behind, isBlank c = true) :
    parts (ws.flatMap Written.text ++ behind) = ws.map Written.part := by
  induction ws with
  | nil =>
      have h := parts_append_of_not_isDigit (fun c hc => isDigit_of_isBlank (hbehind c hc)) []
      rw [List.append_nil, parts] at h
      exact h
  | cons w ws ih =>
      rw [List.flatMap_cons, List.append_assoc, Written.parts_text_append, ih, List.map_cons]

theorem sum_parts (ws : List Written) : sum (ws.map Written.part) = .ok (ws.map Written.minutes).sum := by
  have hfold (total : Int) : (ws.map Written.part).foldlM
      (fun (total : Int) p => do return total + (← p.minutes)) total =
        .ok (total + (ws.map Written.minutes).sum) := by
    induction ws generalizing total with
    | nil => simp [pure, Except.pure]
    | cons w ws ih =>
        rw [List.map_cons, List.foldlM_cons, Written.minutes_part, ok_bind, pure_bind, ih,
          List.map_cons, List.sum_cons, Nat.cast_add, Int.add_assoc]
  rw [sum, hfold, Int.zero_add]

/-- The minutes of a written effort are those of its parts. -/
theorem minutes_texts (hne : ws ≠ []) (hbehind : ∀ c ∈ behind, isBlank c = true) :
    minutes (ws.flatMap Written.text ++ behind) = .ok (ws.map Written.minutes).sum := by
  obtain ⟨w, ws, rfl⟩ := List.exists_cons_of_ne_nil hne
  rw [minutes, parts_texts _ hbehind, ← sum_parts]
  rfl

theorem read_texts (hne : ws ≠ []) (hbehind : ∀ c ∈ behind, isBlank c = true) :
    read (.text (ws.flatMap Written.text ++ behind)) = .ok (ws.map Written.minutes).sum := by
  have hgiven : (Value.text (ws.flatMap Written.text ++ behind)).isGiven = true := by
    obtain ⟨w, ws, rfl⟩ := List.exists_cons_of_ne_nil hne
    obtain ⟨c, digits, hamount⟩ := List.exists_cons_of_ne_nil w.amount_ne_nil
    simp [Value.isGiven, Written.text, Text.cat, hamount]
  rw [read, if_pos hgiven]
  exact minutes_texts hne hbehind

/-! ## Reported efforts -/

/-- A part that is written without white space, its amount with zeros up to a width. -/
def Written.tight (width n : Nat) (unit : Part.Unit)
    (h : (padded width n).length ≤ Numeral.maxDigits) : Written where
  before := []
  amount := padded width n
  between := []
  unit := unit
  isBlank_before := List.forall_mem_nil _
  amount_ne_nil := by
    have hpos := length_decimal_pos n
    rw [padded, ← List.length_pos_iff, List.length_append]
    omega
  isAsciiDigit_amount := by
    rw [padded, List.forall_mem_append]
    refine ⟨fun c hc => ?_, isAsciiDigit_of_mem_decimal n⟩
    rw [List.eq_of_mem_replicate hc]
    rfl
  length_amount_le := h
  isBlank_between := List.forall_mem_nil _

namespace Written

variable {width n : Nat} {u : Part.Unit} {h : (padded width n).length ≤ Numeral.maxDigits}

theorem text_tight : (tight width n u h).text = padded width n ++ u.letters := by
  simp [text, tight, Text.cat]

theorem minutes_tight : (tight width n u h).minutes = n * u.minutes := by
  have hnumber : Numeral.value ((padded width n).map (· - 0x30)) = n := by
    rw [padded, List.map_append, List.map_replicate, Numeral.value_zeros_append, Numeral.value_decimal]
  exact congrArg (· * u.minutes) hnumber

end Written

theorem padded_zero (n : Nat) : padded 0 n = decimal n := by
  rw [padded, Nat.zero_sub]
  rfl

/-- An effort in minutes is read back. -/
theorem minutes_decimal {n : Nat} (h : Numeral.fits n = true) :
    minutes (.cat [.decimal n, "min"]) = .ok n := by
  have hlength : (padded 0 n).length ≤ Numeral.maxDigits := by
    rw [padded_zero]
    exact Numeral.fits_iff.1 h
  have hread := minutes_texts (List.cons_ne_nil (.tight 0 n .minute hlength) [])
    (List.forall_mem_nil (isBlank · = true))
  rw [List.append_nil, List.flatMap_singleton, Written.text_tight, padded_zero, List.map_singleton,
    List.sum_singleton, Written.minutes_tight] at hread
  have htext : Text.cat [.decimal n, "min"] = decimal n ++ Part.Unit.minute.letters := by
    simp [Text.cat, Part.Unit.letters]
  rw [htext, hread]
  exact congrArg (fun k : Nat => Except.ok (k : Int)) (Nat.mul_one n)

theorem length_padded_le {width n : Nat} (hwidth : width ≤ 2) (h : n < 60) :
    (padded width n).length ≤ Numeral.maxDigits := by
  have hlength : (decimal n).length ≤ 2 := (length_decimal_le_iff (by decide)).2 (by omega)
  have htwo : 2 ≤ Numeral.maxDigits := by decide
  rw [padded, List.length_append, List.length_replicate]
  omega

/-- How a report is laid out, in hours and minutes. -/
theorem report_eq (m : Nat) : report m =
    if m / 60 = 0 then .ok (decimal (m % 60) ++ Part.Unit.minute.letters)
    else if Numeral.fits (m / 60 : Nat) = false then .error .numberTooLong
    else if m % 60 = 0 then .ok (decimal (m / 60) ++ Part.Unit.hour.letters)
    else .ok (decimal (m / 60) ++ Part.Unit.hour.letters ++
      (padded 2 (m % 60) ++ Part.Unit.minute.letters)) := by
  have hhours : (m : Int).fdiv 60 = (m / 60 : Nat) := Int.fdiv_eq_ediv_of_nonneg _ (by decide)
  have hrest : (m : Int).fmod 60 = (m % 60 : Nat) := Int.fmod_eq_emod_of_nonneg _ (by decide)
  have hzero (n : Nat) : ((n : Int) == 0) = decide (n = 0) := by
    rw [Bool.eq_iff_iff]
    simp
  have hofInt (n : Nat) : Text.ofInt n = decimal n := rfl
  rw [report, hhours, hrest]
  simp only [hzero, hofInt, decide_eq_true_eq, Bool.not_eq_true', Text.cat, List.flatten_cons,
    List.flatten_nil, List.append_nil, List.append_assoc, Int.toNat_natCast]
  rfl

/-- An effort whose hours can be written is reported as a sequence of written parts. -/
theorem exists_written {m : Nat} (h : Numeral.fits (m / 60 : Nat) = true) :
    ∃ ws : List Written, ws ≠ [] ∧ report m = .ok (ws.flatMap Written.text) ∧
      (ws.map Written.minutes).sum = m := by
  have htotal : m / 60 * 60 + m % 60 = m := Nat.div_add_mod' m 60
  have hrest : m % 60 < 60 := Nat.mod_lt _ (by decide)
  have hhours : (padded 0 (m / 60)).length ≤ Numeral.maxDigits := by
    rw [padded_zero]
    exact Numeral.fits_iff.1 h
  rw [report_eq]
  split
  · refine ⟨[.tight 0 (m % 60) .minute (length_padded_le (by decide) hrest)], List.cons_ne_nil _ _, ?_, ?_⟩
    · rw [List.flatMap_singleton, Written.text_tight, padded_zero]
    · simp only [List.map_cons, List.map_nil, Written.minutes_tight, List.sum_singleton,
        Part.Unit.minutes]
      omega
  · rw [if_neg (by rw [h]; decide)]
    split
    · refine ⟨[.tight 0 (m / 60) .hour hhours], List.cons_ne_nil _ _, ?_, ?_⟩
      · rw [List.flatMap_singleton, Written.text_tight, padded_zero]
      · simp only [List.map_cons, List.map_nil, Written.minutes_tight, List.sum_singleton,
          Part.Unit.minutes]
        omega
    · refine ⟨[.tight 0 (m / 60) .hour hhours,
        .tight 2 (m % 60) .minute (length_padded_le (by decide) hrest)], List.cons_ne_nil _ _, ?_, ?_⟩
      · rw [List.flatMap_cons, List.flatMap_singleton, Written.text_tight, Written.text_tight,
          padded_zero]
      · simp only [List.map_cons, List.map_nil, Written.minutes_tight, List.sum_cons, List.sum_nil,
          Part.Unit.minutes]
        omega

/-- An effort whose hours cannot be written is not reported. -/
theorem report_eq_error {m : Nat} (h : Numeral.fits (m / 60 : Nat) = false) :
    report m = .error .numberTooLong := by
  have hne : m / 60 ≠ 0 := by
    intro hzero
    rw [hzero, Numeral.fits_of_lt_million (by decide)] at h
    cases h
  rw [report_eq, if_neg hne, if_pos h]

/-- Efforts add up, and reports are read back. Any parts in any order, with whatever white space, are read
as the sum of their minutes. A reported effort is read as what it was if its hours have no more digits
than a numeral may have; otherwise it is not reported. -/
theorem read_report :
    (∀ (ws : List Written) (behind : Text), ws ≠ [] → (∀ c ∈ behind, isBlank c = true) →
      read (.text (ws.flatMap Written.text ++ behind)) = .ok (ws.map Written.minutes).sum) ∧
    ∀ m : Nat,
      (Numeral.fits (m / 60 : Nat) = true → ∃ t, report m = .ok t ∧ read (.text t) = .ok m) ∧
      (Numeral.fits (m / 60 : Nat) = false → report m = .error .numberTooLong) := by
  refine ⟨fun ws behind => read_texts, fun m => ⟨fun h => ?_, report_eq_error⟩⟩
  obtain ⟨ws, hne, hreport, hsum⟩ := exists_written h
  have hread := read_texts hne (List.forall_mem_nil (isBlank · = true))
  rw [List.append_nil, hsum] at hread
  exact ⟨_, hreport, hread⟩

/-- A day, two hours and thirty minutes, as somebody might write it. -/
def mixed : List Written := [
  { before := "", amount := "1", between := "", unit := .day
    isBlank_before := by decide
    amount_ne_nil := by decide
    isAsciiDigit_amount := by decide
    length_amount_le := by decide
    isBlank_between := by decide },
  { before := "\t", amount := "2", between := " ", unit := .hour
    isBlank_before := by decide
    amount_ne_nil := by decide
    isAsciiDigit_amount := by decide
    length_amount_le := by decide
    isBlank_between := by decide },
  { before := "", amount := "030", between := "", unit := .minute
    isBlank_before := by decide
    amount_ne_nil := by decide
    isAsciiDigit_amount := by decide
    length_amount_le := by decide
    isBlank_between := by decide }]

/-- Parts in any order, with zeros and white space, and a report of two hours and five minutes. -/
theorem read_report_mixed :
    read (.str "1d\t2 h030min\n") = .ok 630 ∧ ∃ t, report 125 = .ok t ∧ read (.text t) = .ok 125 := by
  have htext : mixed.flatMap Written.text ++ Text.ofString "\n" = Text.ofString "1d\t2 h030min\n" := rfl
  have hsum : (mixed.map Written.minutes).sum = 630 := by decide
  have hmixed := read_report.1 mixed "\n" (by simp [mixed]) (by decide)
  rw [htext, hsum] at hmixed
  exact ⟨hmixed, (read_report.2 125).1 (Numeral.fits_of_lt_million (by decide))⟩

/-- An effort whose hours take a digit more than a numeral may have. -/
def vast : Nat := 60 * 10 ^ Numeral.maxDigits

/-- The effort is not reported, so it cannot be read back. -/
theorem report_vast :
    report vast = .error .numberTooLong ∧ ¬∀ m : Nat, ∃ t, report m = .ok t ∧ read (.text t) = .ok m := by
  have hvast : report vast = .error .numberTooLong := by
    refine report_eq_error ?_
    rw [vast, Nat.mul_div_cancel_left _ (by decide), Numeral.fits, Int.natAbs_natCast, Nat.pow_eq]
    simp only [lt_self_iff_false, decide_false]
  refine ⟨hvast, fun h => ?_⟩
  obtain ⟨t, ht, -⟩ := h vast
  rw [hvast] at ht
  cases ht

end Effort

end Mend
