import Mend.Text.Basic

/-!
# Joined texts

Texts that are joined by a mark are cut apart at the mark one by one; those in which it does not stand
come out as they were.

## Main statements

* `Text.splitOn_join_eq_flatMap`, `Text.splitOn_join` — texts joined by a mark and cut apart.
-/

namespace Mend

namespace Text

variable {sep : Code}

theorem splitOn_of_notMem {t : Text} (h : sep ∉ t) : t.splitOn sep = [t] := by
  induction t with
  | nil => rfl
  | cons c t ih =>
      simp only [List.mem_cons, not_or] at h
      rw [splitOn, ih h.2]
      simp [Ne.symm h.1]

theorem exists_splitOn_eq_cons (sep : Code) (t : Text) :
    ∃ piece pieces, t.splitOn sep = piece :: pieces := by
  cases t with
  | nil => exact ⟨_, _, rfl⟩
  | cons c t =>
      rw [splitOn]
      split
      · exact ⟨_, _, rfl⟩
      · split <;> exact ⟨_, _, rfl⟩

/-- A text with a mark in it has the pieces of what is before the mark, and of what is behind it. -/
theorem splitOn_append_cons (t u : Text) :
    (t ++ sep :: u).splitOn sep = t.splitOn sep ++ u.splitOn sep := by
  induction t with
  | nil =>
      obtain ⟨piece, pieces, hu⟩ := exists_splitOn_eq_cons sep u
      simp [splitOn, hu]
  | cons c t ih =>
      obtain ⟨piece, pieces, ht⟩ := exists_splitOn_eq_cons sep t
      rw [List.cons_append, splitOn, ih, splitOn, ht]
      dsimp only [List.cons_append]
      split <;> rfl

/-- The pieces of a text that is cut apart at a mark do not have it. -/
theorem notMem_of_mem_splitOn {t piece : Text} (h : piece ∈ t.splitOn sep) : sep ∉ piece := by
  induction t generalizing piece with
  | nil =>
      rw [List.mem_singleton.1 h]
      exact List.not_mem_nil
  | cons c t ih =>
      rw [splitOn] at h
      split at h
      · rw [List.mem_singleton.1 h]
        exact List.not_mem_nil
      · rename_i first pieces hcut
        rw [hcut] at ih
        split at h
        · rcases List.mem_cons.1 h with rfl | h
          · exact List.not_mem_nil
          · exact ih h
        · rename_i hmark
          rcases List.mem_cons.1 h with rfl | h
          · rw [List.mem_cons, not_or]
            exact ⟨fun heq => hmark (beq_iff_eq.2 heq.symm), ih (List.mem_cons_self ..)⟩
          · exact ih (List.mem_cons_of_mem first h)

/-- Texts joined by a mark and cut apart at it are cut apart one by one. -/
theorem splitOn_join_eq_flatMap {ts : List Text} (hne : ts ≠ []) :
    (join [sep] ts).splitOn sep = ts.flatMap (·.splitOn sep) := by
  induction ts with
  | nil => exact absurd rfl hne
  | cons t ts ih =>
      cases ts with
      | nil => rw [join, List.flatMap_singleton]
      | cons u ts =>
          rw [join, List.append_assoc, List.singleton_append, splitOn_append_cons,
            ih (List.cons_ne_nil u ts)]
          exact List.flatMap_cons.symm

/-- Texts joined by a mark that stands in none of them are cut apart again. -/
theorem splitOn_join {ts : List Text} (hne : ts ≠ []) (h : ∀ t ∈ ts, sep ∉ t) :
    (join [sep] ts).splitOn sep = ts := by
  have hwhole : ts.map (·.splitOn sep) = ts.map ([·]) :=
    List.map_congr_left fun t ht => splitOn_of_notMem (h t ht)
  rw [splitOn_join_eq_flatMap hne, List.flatMap_def, hwhole, ← List.flatMap_def,
    List.flatMap_singleton']

theorem join_ne_nil {mark : Text} {ts : List Text} (hne : ts ≠ []) (h : ∀ t ∈ ts, t ≠ []) :
    join mark ts ≠ [] := by
  match ts with
  | [] => exact absurd rfl hne
  | [t] => exact h t (List.mem_cons_self ..)
  | t :: u :: rest =>
      have ht : t ≠ [] := h t (List.mem_cons_self ..)
      simp [join, ht]

end Text

end Mend
