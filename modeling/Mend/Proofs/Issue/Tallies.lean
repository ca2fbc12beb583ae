import Mend.Issue.Facets
import Mend.Proofs.Occurrences

/-!
# Tallies

A tally of names has each name once, in the order of first occurrence, with the number of its
occurrences. So the counts sum up to the number of names, and tallies of the same names in another
order differ in the order of their entries alone.

## Main statements

* `Tally.ofList_eq` — the entries of a tally.
* `Tally.total_ofList` — the sum of its counts.
* `Tally.perm_ofList` — tallies of the same names.
-/

namespace Mend

variable {α : Type}

theorem sumOver_perm {f : α → Int} {l l' : List α} (h : l.Perm l') : sumOver f l = sumOver f l' := by
  induction h with
  | nil => rfl
  | cons a _ ih => rw [sumOver_cons, sumOver_cons, ih]
  | swap a b l => simp only [sumOver_cons]; omega
  | trans _ _ ih ih' => exact ih.trans ih'

namespace Tally

variable [BEq α] [LawfulBEq α] {t : Tally α} {a : α}

theorem put_of_notMem (h : a ∉ t.map (·.1)) (n : Int) : t.put a n = t ++ [(a, n)] := by
  induction t with
  | nil => rfl
  | cons b t ih =>
      simp only [List.map_cons, List.mem_cons, not_or] at h
      rw [put, if_neg (by simpa using h.1), ih h.2]
      rfl

/-! ## Entries -/

theorem count_map (names : List α) (f : α → Int) (a : α) :
    count (names.map fun b => (b, f b)) a = if names.contains a then f a else 0 := by
  induction names with
  | nil => rfl
  | cons b names ih =>
      rw [count, List.map_cons, List.lookup_cons, List.contains_cons]
      by_cases hab : a = b
      · subst hab
        simp
      · rw [beq_eq_false_iff_ne.2 hab]
        exact ih

theorem put_map {names : List α} (h : names.Nodup) (f : α → Int) (ha : a ∈ names) (n : Int) :
    put a n (names.map fun b => (b, f b)) = names.map fun b => (b, if b == a then n else f b) := by
  induction names with
  | nil => cases ha
  | cons b names ih =>
      rw [List.nodup_cons] at h
      rw [List.map_cons, List.map_cons, put]
      by_cases hab : a = b
      · subst hab
        have hrest : (names.map fun b => (b, f b)) =
            names.map fun b => (b, if b == a then n else f b) :=
          List.map_congr_left fun b hb => by
            have hba : b ≠ a := fun heq => h.1 (heq ▸ hb)
            rw [if_neg (by simpa using hba)]
        simp [hrest]
      · rw [if_neg (by simpa using hab), if_neg (by simpa using Ne.symm hab),
          ih h.2 ((List.mem_cons.1 ha).resolve_left hab)]

/-- Each name comes once, in the order of first occurrence, with the number of its occurrences. -/
theorem ofList_eq (names : List α) :
    ofList names = names.eraseDups.map fun a => (a, (names.count a : Int)) := by
  induction names using List.reverseRecOn with
  | nil => simp [ofList]
  | append_singleton names a ih =>
      have hstep : ofList (names ++ [a]) = (ofList names).bump a := by
        rw [ofList, List.foldl_append]
        rfl
      have hcount : (ofList names).count a = names.count a := by
        rw [ih, count_map]
        split
        · rfl
        · rename_i hnew
          rw [List.contains_iff_mem, List.mem_eraseDups] at hnew
          rw [List.count_eq_zero_of_not_mem hnew]
          rfl
      rw [hstep, bump, hcount, eraseDups_concat, ih]
      by_cases ha : a ∈ names
      · rw [put_map (nodup_eraseDups names) _ (List.mem_eraseDups.2 ha),
          if_pos (List.contains_iff_mem.2 ha)]
        refine List.map_congr_left fun b _ => ?_
        rw [List.count_append, List.count_singleton]
        by_cases hba : b = a
        · subst hba
          simp
        · simp [hba, Ne.symm hba]
      · rw [put_of_notMem (by simpa [List.mem_eraseDups] using ha), if_neg (by simpa using ha),
          List.map_append, List.map_singleton, List.count_append, List.count_singleton_self]
        refine congrArg₂ (· ++ ·) (List.map_congr_left fun b hb => ?_) (by push_cast; rfl)
        have hba : a ≠ b := fun heq => ha (heq ▸ List.mem_eraseDups.1 hb)
        rw [List.count_append, List.count_singleton, if_neg (by simpa using hba), Nat.add_zero]

/-- Counting gives each name once. -/
theorem nodup_ofList (names : List α) : ((ofList names).map (·.1)).Nodup := by
  rw [ofList_eq, List.map_map]
  simpa [Function.comp_def] using nodup_eraseDups names

/-- Tallies of the same names differ in the order of their entries alone. -/
theorem perm_ofList {names others : List α} (h : names.Perm others) :
    (ofList names).Perm (ofList others) := by
  have hnames : names.eraseDups.Perm others.eraseDups := by
    refine (List.perm_ext_iff_of_nodup (nodup_eraseDups _) (nodup_eraseDups _)).2 fun a => ?_
    rw [List.mem_eraseDups, List.mem_eraseDups, h.mem_iff]
  rw [ofList_eq, ofList_eq]
  simp only [h.count_eq]
  exact hnames.map _

/-! ## Totals -/

theorem total_put (t : Tally α) (a : α) (n : Int) : (t.put a n).total = t.total - t.count a + n := by
  induction t with
  | nil => simp [put, total, count]
  | cons b t ih =>
      simp only [total, count] at ih ⊢
      rw [put, List.lookup_cons]
      by_cases hab : a = b.1
      · rw [if_pos (by simpa using hab), beq_iff_eq.2 hab]
        simp only [sumOver_cons, Option.getD_some]
        omega
      · rw [if_neg (by simpa using hab), beq_eq_false_iff_ne.2 hab, sumOver_cons, sumOver_cons, ih]
        dsimp only
        omega

theorem total_bump (t : Tally α) (a : α) : (t.bump a).total = t.total + 1 := by
  rw [bump, total_put]
  omega

/-- The counts sum up to the number of names. -/
theorem total_ofList (names : List α) : (ofList names).total = names.length := by
  induction names using List.reverseRecOn with
  | nil => rfl
  | append_singleton names a ih =>
      rw [ofList, List.foldl_append, List.foldl_cons, List.foldl_nil, total_bump, List.length_append,
        List.length_singleton]
      rw [ofList] at ih
      omega

end Tally

end Mend
