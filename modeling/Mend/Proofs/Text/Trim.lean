import Mend.Text.Basic
import Mathlib.Data.List.DropRight

/-!
# Trimmed texts

What is left of a text when the code points at its ends are dropped.
-/

namespace Mend.Text

variable {p : Code → Bool} {c : Code} {t : Text}

theorem trimRight_append_singleton (h : p c = true) : trimRight p (t ++ [c]) = trimRight p t :=
  List.rdropWhile_concat_pos p t c h

@[simp] theorem trimRight_trimRight : trimRight p (trimRight p t) = trimRight p t :=
  List.rdropWhile_idempotent p t

theorem trim_append_singleton (h : p c = true) : trim p (t ++ [c]) = trim p t := by
  rw [trim, trim, trimLeft, trimLeft, List.dropWhile_append]
  split
  case isTrue hempty =>
    rw [List.isEmpty_iff.1 hempty]
    simp [h]
  case isFalse _ => exact trimRight_append_singleton h

/-- What is dropped stands at the two ends. -/
theorem exists_eq_append_trim (p : Code → Bool) (t : Text) :
    ∃ before behind, t = before ++ trim p t ++ behind ∧ before.all p = true ∧
      behind.all p = true := by
  refine ⟨t.takeWhile p, (trimLeft p t).rtakeWhile p, ?_, ?_, ?_⟩
  · have hright : trim p t ++ (trimLeft p t).rtakeWhile p = trimLeft p t :=
      List.rdropWhile_append_rtakeWhile (p := p) (l := trimLeft p t)
    rw [List.append_assoc, hright, trimLeft, List.takeWhile_append_dropWhile]
  · simp
  · simpa using fun c hc => List.mem_rtakeWhile_imp hc

theorem infix_trim (p : Code → Bool) (t : Text) : trim p t <:+: t := by
  obtain ⟨before, behind, ht, -, -⟩ := exists_eq_append_trim p t
  exact ⟨before, behind, ht.symm⟩

/-- If all that is dropped satisfies `q`, the whole text does just if the rest does. -/
theorem all_trim {q : Code → Bool} (h : ∀ c, p c = true → q c = true) :
    (trim p t).all q = t.all q := by
  obtain ⟨before, behind, ht, hbefore, hbehind⟩ := exists_eq_append_trim p t
  have hall {u : Text} (hu : u.all p = true) : u.all q = true :=
    List.all_eq_true.2 fun c hc => h c (List.all_eq_true.1 hu c hc)
  conv_rhs => rw [ht]
  simp [hall hbefore, hall hbehind]

/-- What is left of a text begins with a code point that is not dropped. -/
theorem of_head?_trim {d : Code} (h : (trim p t).head? = some d) : p d = false := by
  have hstart : trim p t <+: trimLeft p t := List.rdropWhile_prefix p (l := trimLeft p t)
  obtain ⟨rest, hrest⟩ := hstart
  have hhead : (t.dropWhile p).head? = some d := by
    rw [← trimLeft, ← hrest, List.head?_append, h]
    rfl
  have hnot := List.head?_dropWhile_not p t
  rw [hhead] at hnot
  simpa using hnot

/-- What is left of a text ends with a code point that is not dropped. -/
theorem of_getLast?_trim {d : Code} (h : (trim p t).getLast? = some d) : p d = false := by
  have hne : (trimLeft p t).rdropWhile p ≠ [] := fun hnil => by
    rw [trim, trimRight, ← List.rdropWhile, hnil] at h
    cases h
  have hnot := List.rdropWhile_last_not p (trimLeft p t) hne
  rw [trim, trimRight, ← List.rdropWhile, List.getLast?_eq_getLast_of_ne_nil hne] at h
  cases h
  simpa using hnot

/-- Nothing is left of a text just if all of it is dropped. -/
theorem trim_eq_nil_iff : trim p t = [] ↔ t.all p = true := by
  rw [← all_trim (p := p) fun c hc => hc]
  constructor
  · intro h
    rw [h]
    rfl
  · intro h
    cases htrim : trim p t with
    | nil => rfl
    | cons d rest =>
        have hd : p d = false := of_head?_trim (t := t) (by rw [htrim]; rfl)
        simp [htrim, hd] at h

/-- A text that does not begin with a code point to be dropped is trimmed at its end only. -/
theorem trim_eq_trimRight (h : ∀ d, t.head? = some d → p d = false) : trim p t = trimRight p t := by
  cases t with
  | nil => rfl
  | cons d rest => rw [trim, trimLeft, List.dropWhile_cons_of_neg (by simp [h d rfl])]

/-- Nothing is dropped from a text whose ends stay. -/
theorem trim_eq_self (hhead : ∀ d, t.head? = some d → p d = false)
    (hlast : ∀ d, t.getLast? = some d → p d = false) : trim p t = t := by
  rw [trim_eq_trimRight hhead]
  refine List.rdropWhile_eq_self_iff.2 fun ht => ?_
  simp [hlast _ (List.getLast?_eq_getLast_of_ne_nil ht)]

/-- A text that begins with a code point to be dropped, but holds others too, loses it. -/
theorem trim_ne_trimRight {d : Code} (hhead : t.head? = some d) (hd : p d = true)
    (hall : t.all p = false) : trim p t ≠ trimRight p t := by
  intro h
  have hne : trim p t ≠ [] := fun hnil => by simp [trim_eq_nil_iff.1 hnil] at hall
  obtain ⟨rest, hrest⟩ := List.rdropWhile_prefix p (l := t)
  obtain ⟨e, he⟩ : ∃ e, (trim p t).head? = some e := by
    cases htrim : trim p t with
    | nil => exact absurd htrim hne
    | cons e _ => exact ⟨e, rfl⟩
  have hsame : t.head? = some e := by
    rw [← hrest, List.head?_append]
    rw [h, trimRight, ← List.rdropWhile] at he
    rw [he]
    rfl
  obtain rfl : d = e := Option.some.inj (hhead.symm.trans hsame)
  simp [of_head?_trim he] at hd

end Mend.Text
