import Mathlib.Data.List.Sort

/-!
# Stable orders by rank

A list that is sorted by descending rank keeps the order of its members of one rank.

## Main statements

* `pairwise_byRank` — the members come in descending order of rank.
* `filter_byRank` — those of one rank stay in their order.
* `pairwise_of_byRank` — what holds of every two members in their old order holds of those of one
  rank in the new one.
-/

namespace Mend

variable {α : Type} (rank : α → Nat)

theorem byRank_trans (a b c : α) (hab : decide (rank b ≤ rank a) = true)
    (hbc : decide (rank c ≤ rank b) = true) : decide (rank c ≤ rank a) = true :=
  decide_eq_true (Nat.le_trans (of_decide_eq_true hbc) (of_decide_eq_true hab))

theorem byRank_total (a b : α) : (decide (rank b ≤ rank a) || decide (rank a ≤ rank b)) = true := by
  rw [Bool.or_eq_true, decide_eq_true_iff, decide_eq_true_iff]
  exact Nat.le_total ..

theorem pairwise_byRank (l : List α) :
    (l.mergeSort fun a b => decide (rank b ≤ rank a)).Pairwise fun a b => rank b ≤ rank a := by
  have hsorted := List.pairwise_mergeSort (byRank_trans rank) (byRank_total rank) l
  simpa only [decide_eq_true_eq] using hsorted

/-- The order is stable: those of one rank stay in their order. -/
theorem filter_byRank (l : List α) (r : Nat) :
    (l.mergeSort fun a b => decide (rank b ≤ rank a)).filter (rank · == r) =
      l.filter (rank · == r) := by
  have hequal : (l.filter (rank · == r)).Pairwise fun a b => decide (rank b ≤ rank a) = true := by
    refine List.pairwise_of_forall_mem_list fun a ha b hb => ?_
    have har : rank a = r := by simpa using (List.mem_filter.1 ha).2
    have hbr : rank b = r := by simpa using (List.mem_filter.1 hb).2
    rw [decide_eq_true_eq, har, hbr]
  have hsublist := List.sublist_mergeSort (byRank_trans rank) (byRank_total rank) hequal
    List.filter_sublist
  have hfiltered := hsublist.filter (rank · == r)
  rw [List.filter_filter] at hfiltered
  simp only [Bool.and_self] at hfiltered
  exact (hfiltered.eq_of_length ((List.mergeSort_perm ..).filter _).length_eq.symm).symm

/-- Of every two members, the first one has the higher rank, or both have the same and what holds of
every two members in their old order holds of them. -/
theorem pairwise_of_byRank {R : α → α → Prop} {l : List α} (h : l.Pairwise R) :
    (l.mergeSort fun a b => decide (rank b ≤ rank a)).Pairwise
      fun a b => rank b < rank a ∨ rank b = rank a ∧ R a b := by
  rw [List.pairwise_iff_forall_sublist]
  intro a b hab
  have hle : rank b ≤ rank a := List.pairwise_iff_forall_sublist.1 (pairwise_byRank rank l) hab
  refine (Nat.lt_or_eq_of_le hle).imp_right fun heq => ⟨heq, ?_⟩
  have hclass := hab.filter (rank · == rank a)
  rw [filter_byRank, List.filter_cons_of_pos (by simp),
    List.filter_cons_of_pos (by simpa using heq), List.filter_nil] at hclass
  exact List.pairwise_iff_forall_sublist.1 h (hclass.trans List.filter_sublist)

end Mend
