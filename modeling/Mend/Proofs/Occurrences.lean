import Mathlib.Data.List.Nodup
import Mathlib.Data.List.Flatten
import Mathlib.Data.List.Induction

/-!
# First occurrences

Whoever goes through a list and notes down what was not there before ends up with the members of the
list, each once, in the order in which they first occur: `List.eraseDups`. A list can be sorted into
classes by such names; put one behind the other, the classes make up the list again.

## Main statements

* `foldl_new_eq_eraseDups` — noting down what is new.
* `perm_flatMap_filter` — the classes of a list make up the list.
* `eraseDups_flatMap` — the names of classes that are put one behind the other.
-/

namespace Mend

variable {α β : Type} [BEq α] [LawfulBEq α]

theorem eraseDups_concat (l : List α) (a : α) :
    (l ++ [a]).eraseDups = if l.contains a then l.eraseDups else l.eraseDups ++ [a] := by
  rw [List.eraseDups_append, List.removeAll, List.filter_cons, List.filter_nil]
  by_cases h : a ∈ l
  · simp [h]
  · simp [h, List.eraseDups_cons]

theorem nodup_eraseDups (l : List α) : l.eraseDups.Nodup := by
  induction l using List.reverseRecOn with
  | nil => simp
  | append_singleton l a ih =>
      rw [eraseDups_concat]
      split
      · exact ih
      · rename_i hnew
        refine List.nodup_append.2 ⟨ih, List.nodup_singleton a, ?_⟩
        rintro b hb c hc rfl
        rw [List.mem_singleton.1 hc, List.mem_eraseDups, ← List.contains_iff_mem] at hb
        exact hnew hb

theorem eraseDups_of_nodup {l : List α} (h : l.Nodup) : l.eraseDups = l := by
  induction l using List.reverseRecOn with
  | nil => rfl
  | append_singleton l a ih =>
      obtain ⟨hl, -, hnew⟩ := List.nodup_append.1 h
      rw [eraseDups_concat, if_neg, ih hl]
      rw [List.contains_iff_mem]
      exact fun ha => hnew a ha a (List.mem_singleton_self a) rfl

/-- Noting down what is new gives each member once, in the order of first occurrence. -/
theorem foldl_new_eq_eraseDups (l : List α) :
    l.foldl (fun seen a => if seen.contains a then seen else seen ++ [a]) [] = l.eraseDups := by
  induction l using List.reverseRecOn with
  | nil => rfl
  | append_singleton l a ih =>
      have hseen : l.eraseDups.contains a = l.contains a := by
        rw [Bool.eq_iff_iff, List.contains_iff_mem, List.contains_iff_mem, List.mem_eraseDups]
      rw [List.foldl_append, ih, List.foldl_cons, List.foldl_nil, eraseDups_concat, hseen]

/-! ## Classes -/

/-- The classes of a list make up the list. -/
theorem perm_flatMap_filter (name : β → α) {names : List α} (h : names.Nodup) {l : List β}
    (hall : ∀ b ∈ l, name b ∈ names) :
    (names.flatMap fun a => l.filter fun b => name b == a).Perm l := by
  induction names generalizing l with
  | nil =>
      rw [List.eq_nil_iff_forall_not_mem.2 fun b hb => List.not_mem_nil (hall b hb)]
      exact .refl _
  | cons a names ih =>
      rw [List.nodup_cons] at h
      -- The other classes are those of what is left without the first one.
      have hothers : (names.flatMap fun c => l.filter fun b => name b == c) =
          names.flatMap fun c => (l.filter fun b => !(name b == a)).filter fun b => name b == c := by
        refine List.flatMap_congr fun c hc => ?_
        rw [List.filter_filter]
        refine List.filter_congr fun b _ => ?_
        have hca : c ≠ a := fun heq => h.1 (heq ▸ hc)
        by_cases hbc : name b = c
        · simp [hbc, hca]
        · simp [hbc]
      have hrest : ∀ b ∈ l.filter fun b => !(name b == a), name b ∈ names := by
        intro b hb
        obtain ⟨hb, hne⟩ := List.mem_filter.1 hb
        exact (List.mem_cons.1 (hall b hb)).resolve_left (by simpa using hne)
      rw [List.flatMap_cons, hothers]
      exact ((ih h.2 hrest).append_left _).trans (List.filter_append_perm _ l)

/-- A class is found again among all of them. -/
theorem filter_flatMap_filter (name : β → α) {names : List α} (h : names.Nodup) (l : List β) {a : α}
    (ha : a ∈ names) :
    ((names.flatMap fun c => l.filter fun b => name b == c).filter fun b => name b == a) =
      l.filter fun b => name b == a := by
  induction names with
  | nil => cases ha
  | cons c names ih =>
      rw [List.nodup_cons] at h
      rw [List.flatMap_cons, List.filter_append, List.filter_filter]
      by_cases hca : c = a
      · subst hca
        have hnone : ((names.flatMap fun d => l.filter fun b => name b == d).filter
            fun b => name b == c) = [] := by
          rw [List.filter_eq_nil_iff]
          intro b hb hbc
          obtain ⟨d, hd, hb⟩ := List.mem_flatMap.1 hb
          have hbd := (List.mem_filter.1 hb).2
          rw [beq_iff_eq] at hbc hbd
          exact h.1 (hbc ▸ hbd ▸ hd)
        rw [hnone, List.append_nil]
        simp
      · have hnone : (l.filter fun b => name b == a && name b == c) = [] := by
          rw [List.filter_eq_nil_iff]
          intro b _ hb
          rw [Bool.and_eq_true, beq_iff_eq, beq_iff_eq] at hb
          exact hca (hb.2.symm.trans hb.1)
        rw [hnone, List.nil_append]
        exact ih h.2 ((List.mem_cons.1 ha).resolve_left (Ne.symm hca))

/-- If the members of each class have its name, the names come in the order of the classes. -/
theorem eraseDups_flatMap {names : List α} (h : names.Nodup) {f : α → List α}
    (hf : ∀ a ∈ names, f a ≠ [] ∧ ∀ b ∈ f a, b = a) : (names.flatMap f).eraseDups = names := by
  induction names with
  | nil => simp
  | cons a names ih =>
      rw [List.nodup_cons] at h
      obtain ⟨hne, hsame⟩ := hf a (List.mem_cons_self ..)
      obtain ⟨n, hn⟩ : ∃ n, f a = List.replicate (n + 1) a :=
        ⟨(f a).length - 1, List.eq_replicate_iff.2
          ⟨(Nat.sub_add_cancel (List.length_pos_iff.2 hne)).symm, hsame⟩⟩
      have hrest : ((names.flatMap f).removeAll (f a)) = names.flatMap f := by
        rw [List.removeAll, List.filter_eq_self]
        intro b hb
        obtain ⟨c, hc, hb⟩ := List.mem_flatMap.1 hb
        obtain rfl := (hf c (List.mem_cons_of_mem a hc)).2 b hb
        rw [Bool.not_eq_true', Bool.eq_false_iff]
        intro hmem
        exact h.1 (hsame b (List.elem_iff.1 hmem) ▸ hc)
      have hblock : (f a).eraseDups = [a] := by
        rw [hn, List.replicate_succ, List.eraseDups_cons,
          List.filter_eq_nil_iff.2 fun b hb => by simp [List.eq_of_mem_replicate hb]]
        rfl
      rw [List.flatMap_cons, List.eraseDups_append, hrest, hblock,
        ih h.2 fun c hc => hf c (List.mem_cons_of_mem a hc)]
      rfl

end Mend
