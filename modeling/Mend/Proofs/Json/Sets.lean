import Mathlib.Data.List.Lex
import Mathlib.Data.List.Sort
import Mend.Proofs.Occurrences
import Mend.Proofs.Plan.Selection

/-!
# Sets of texts

Texts are told apart by what they are, and are in order by their code points. So the members of a set
of texts are the texts in it, each once, and there is one way to put them in ascending order.

## Main statements

* `Text.before_iff_lt` — the order of texts is the lexicographic one.
* `Value.members_texts` — the members of a set of texts.
* `Value.ascending_texts` — the members in ascending order.
-/

namespace Mend

theorem Text.before_iff_lt (s t : Text) : before s t = true ↔ s < t := by
  induction s generalizing t with
  | nil =>
      cases t with
      | nil => simp [before]
      | cons b t => simp [before]
  | cons a s ih =>
      cases t with
      | nil => simp [before]
      | cons b t =>
          rw [before, List.cons_lt_cons_iff]
          by_cases hab : a = b
          · subst hab
            simp [ih]
          · simp [hab]

namespace Value

/-! ## Members -/

theorem exists_texts {vs : List Value} (h : ∀ v ∈ vs, v.IsText) :
    ∃ ts : List Text, vs = ts.map .text := by
  refine ⟨vs.map shown, ?_⟩
  rw [List.map_map]
  refine (List.map_id vs).symm.trans (List.map_congr_left fun v hv => ?_)
  obtain ⟨t, rfl⟩ := h v hv
  rfl

/-- Nothing but a text has the content of a text. -/
theorem same_text_iff {t : Text} {v : Value} : same (.text t) v = true ↔ v = .text t := by
  cases v with
  | text u => rw [same_text, beq_iff_eq, Value.text.injEq, eq_comm]
  | _ => exact iff_of_false (by simp [same]) (by simp)

theorem distinct_texts (ts : List Text) : distinct (ts.map .text) = ts.eraseDups.map .text := by
  have hseen (kept : List Text) (t : Text) :
      (kept.map Value.text).any (same (.text t)) = kept.contains t := by
    rw [List.any_map, List.contains_eq_any_beq]
    exact congrArg _ (funext (same_text t))
  have hfold (kept : List Text) :
      (ts.map Value.text).foldl (fun kept v => if kept.any (same v) then kept else kept ++ [v])
          (kept.map .text) =
        (ts.foldl (fun kept t => if kept.contains t then kept else kept ++ [t]) kept).map .text := by
    induction ts generalizing kept with
    | nil => rfl
    | cons t ts ih =>
        rw [List.map_cons, List.foldl_cons, List.foldl_cons, hseen, ← ih]
        split <;> simp
  rw [← foldl_new_eq_eraseDups]
  exact hfold []

/-- The members of a set of texts are the texts, each once. -/
theorem members_texts (ts : List Text) :
    (Value.list (ts.map .text)).members = .ok (ts.eraseDups.map .text) := by
  rw [members_list fun v hv => ?_, distinct_texts]
  obtain ⟨t, -, rfl⟩ := List.mem_map.1 hv
  exact ⟨t, rfl⟩

/-! ## Order -/

theorem insertSorted_texts (t : Text) (ts : List Text) :
    insertSorted (.text t) (ts.map .text) = (ts.orderedInsert (· < ·) t).map .text := by
  induction ts with
  | nil => rfl
  | cons u ts ih =>
      have hbefore : (Value.text t).before? (.text u) = some (t.before u) := rfl
      rw [List.map_cons, insertSorted, hbefore, List.orderedInsert_cons]
      by_cases htu : t < u
      · rw [if_pos htu, if_pos (by simpa using (Text.before_iff_lt t u).2 htu)]
        rfl
      · rw [if_neg htu, if_neg (by simpa using fun h => htu ((Text.before_iff_lt t u).1 h)), ih]
        rfl

/-- A new text is put into an ascending list. -/
theorem pairwise_orderedInsert {t : Text} {ts : List Text} (h : ts.Pairwise (· < ·))
    (hnew : t ∉ ts) : (ts.orderedInsert (· < ·) t).Pairwise (· < ·) := by
  induction ts with
  | nil => simp
  | cons u ts ih =>
      rw [List.mem_cons, not_or] at hnew
      obtain ⟨hu, hts⟩ := List.pairwise_cons.1 h
      rw [List.orderedInsert_cons]
      split
      · rename_i htu
        refine List.pairwise_cons.2 ⟨fun v hv => ?_, h⟩
        rcases List.mem_cons.1 hv with rfl | hv
        · exact htu
        · exact htu.trans (hu v hv)
      · rename_i htu
        refine List.pairwise_cons.2 ⟨fun v hv => ?_, ih hts hnew.2⟩
        rcases (List.mem_orderedInsert _).1 hv with rfl | hv
        · exact lt_of_le_of_ne (not_lt.1 htu) (Ne.symm hnew.1)
        · exact hu v hv

/-- Distinct texts are put in order one by one. -/
theorem foldl_insertSorted_texts {ts sorted : List Text} (hdistinct : ts.Nodup)
    (hnew : ∀ t ∈ ts, t ∉ sorted) (hsorted : sorted.Pairwise (· < ·)) :
    ∃ us : List Text,
      (ts.map Value.text).foldl (fun sorted v => insertSorted v sorted) (sorted.map .text) =
        us.map .text ∧ us.Pairwise (· < ·) ∧ us.Perm (ts ++ sorted) := by
  induction ts generalizing sorted with
  | nil => exact ⟨sorted, rfl, hsorted, .refl _⟩
  | cons t ts ih =>
      rw [List.nodup_cons] at hdistinct
      have hperm := List.perm_orderedInsert (· < ·) t sorted
      have hrest : ∀ u ∈ ts, u ∉ sorted.orderedInsert (· < ·) t := by
        intro u hu hmem
        rcases List.mem_cons.1 (hperm.mem_iff.1 hmem) with rfl | hmem
        · exact hdistinct.1 hu
        · exact hnew u (List.mem_cons_of_mem t hu) hmem
      obtain ⟨us, hus, hascending, hperm'⟩ := ih hdistinct.2 hrest
        (pairwise_orderedInsert hsorted (hnew t (List.mem_cons_self ..)))
      refine ⟨us, ?_, hascending, hperm'.trans ((hperm.append_left ts).trans List.perm_middle)⟩
      rw [List.map_cons, List.foldl_cons, insertSorted_texts, hus]

theorem sorted?_of_comparable {vs : List Value}
    (h : (vs.all fun v => vs.all fun w => (v.before? w).isSome) = true) :
    sorted? vs = some (vs.foldl (fun sorted v => insertSorted v sorted) []) := by
  unfold sorted?
  split
  · rfl
  · rfl
  · exact if_pos h

/-- Distinct texts can be put in ascending order. -/
theorem ascending_texts {ts : List Text} (h : ts.Nodup) :
    ∃ us : List Text, ascending (ts.map .text) = .ok (us.map .text) ∧ us.Pairwise (· < ·) ∧
      us.Perm ts := by
  have hcomparable : ((ts.map Value.text).all fun v => (ts.map Value.text).all fun w =>
      (v.before? w).isSome) = true := by
    simp [before?]
  obtain ⟨us, hus, hsorted, hperm⟩ :=
    foldl_insertSorted_texts h (fun t _ => List.not_mem_nil) List.Pairwise.nil
  refine ⟨us, ?_, hsorted, List.append_nil ts ▸ hperm⟩
  rw [ascending, sorted?_of_comparable hcomparable]
  exact congrArg Except.ok hus

end Value

end Mend
