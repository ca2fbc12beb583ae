import Mend.Proofs.Stable
import Mend.Proofs.Scan.Identity

/-!
# Keeping the most severe issues

Issues are ranked by descending severity, those of one severity in their old order. There is only one
such ranking, so what is kept is determined: the issues at its first positions, in their old order.
Equal issues are told apart by where they stand.

## Main definitions

* `Precedes` — the order in which positions are ranked.
* `IsRanking` — the positions of issues in that order.
* `keptPositions` — where the issues stand that are kept.

## Main statements

* `IsRanking.unique` — issues have one ranking.
* `ranked_capBySeverity` — the ranking of what is kept is the beginning of the ranking.
* `capBySeverity_stable` — what is kept of issues.
-/

namespace Mend.Scan

variable {issues : List Issue} {limit m n : Nat}

/-! ## Rankings -/

/-- Whether the issue at one position comes before the one at another: it is more severe, or as severe
and stands first. -/
def Precedes (issues : List Issue) (m n : Nat) : Prop :=
  ∃ i ∈ issues[m]?, ∃ j ∈ issues[n]?, j.severity < i.severity ∨ j.severity = i.severity ∧ m < n

theorem Precedes.asymm (h : Precedes issues m n) : ¬Precedes issues n m := by
  obtain ⟨i, hi, j, hj, hij⟩ := h
  rintro ⟨j', hj', i', hi', hji⟩
  obtain rfl := Option.mem_unique hi hi'
  obtain rfl := Option.mem_unique hj hj'
  rcases hij with hij | ⟨heq, hmn⟩ <;> rcases hji with hji | ⟨heq', hnm⟩
  · exact Nat.lt_asymm hij hji
  · exact Nat.ne_of_lt hij (heq' ▸ rfl)
  · exact Nat.ne_of_lt hji (heq ▸ rfl)
  · exact Nat.lt_asymm hmn hnm

/-- The positions of issues by descending severity, those of one severity in ascending order. -/
structure IsRanking (issues : List Issue) (order : List Nat) : Prop where
  positions : order.Perm (List.range issues.length)
  ordered : order.Pairwise (Precedes issues)

/-- The same positions can be put in order in one way only. -/
theorem eq_of_pairwise_precedes {order other : List Nat} (h : order.Pairwise (Precedes issues))
    (h' : other.Pairwise (Precedes issues)) (hperm : order.Perm other) : order = other :=
  hperm.eq_of_pairwise (fun _ _ _ _ hab hba => absurd hba hab.asymm) h h'

theorem IsRanking.unique {order other : List Nat} (h : IsRanking issues order)
    (h' : IsRanking issues other) : order = other :=
  eq_of_pairwise_precedes h.ordered h'.ordered (h.positions.trans h'.positions.symm)

/-- The ranking by which issues are kept. -/
def ranked (issues : List Issue) : List Nat := (ranking issues).map (·.2)

theorem mem_ranking_iff {r : Nat} :
    (r, n) ∈ ranking issues ↔ ∃ i ∈ issues[n]?, i.severity.rank = r := by
  rw [ranking, (List.mergeSort_perm ..).mem_iff, List.mem_iff_getElem?]
  simp only [List.getElem?_zip_eq_some, List.getElem?_map, Option.map_eq_some_iff]
  constructor
  · rintro ⟨p, ⟨i, hi, hr⟩, hp⟩
    obtain ⟨-, rfl⟩ := List.getElem?_eq_some_iff.1 hp
    exact ⟨i, by simpa using hi, hr⟩
  · rintro ⟨i, hi, hr⟩
    obtain ⟨hn, -⟩ := List.getElem?_eq_some_iff.1 hi
    exact ⟨n, ⟨i, hi, hr⟩, List.getElem?_range hn⟩

theorem isRanking_ranked (issues : List Issue) : IsRanking issues (ranked issues) := by
  have hpositions : ((issues.map (·.severity.rank)).zip (List.range issues.length)).map (·.2) =
      List.range issues.length := List.map_snd_zip (by simp)
  constructor
  · exact hpositions ▸ (List.mergeSort_perm ..).map _
  · have hascending : ((issues.map (·.severity.rank)).zip (List.range issues.length)).Pairwise
        fun a b => a.2 < b.2 := by
      refine List.pairwise_map.1 ?_
      rw [hpositions]
      exact List.pairwise_lt_range
    rw [ranked, List.pairwise_map]
    refine (pairwise_of_byRank (·.1) hascending).imp_of_mem fun {a b} ha hb hab => ?_
    obtain ⟨i, hi, hri⟩ := mem_ranking_iff.1 ha
    obtain ⟨j, hj, hrj⟩ := mem_ranking_iff.1 hb
    rw [← hri, ← hrj] at hab
    exact ⟨i, hi, j, hj, hab.imp_right fun h => ⟨Severity.rank_injective h.1, h.2⟩⟩

/-! ## Kept positions -/

/-- Where the issues stand that are kept. -/
def keptPositions (issues : List Issue) (limit : Nat) : List Nat :=
  (List.range issues.length).filter ((ranked issues).take limit).contains

theorem pairwise_keptPositions (issues : List Issue) (limit : Nat) :
    (keptPositions issues limit).Pairwise (· < ·) :=
  List.pairwise_lt_range.filter _

theorem perm_keptPositions (issues : List Issue) (limit : Nat) :
    (keptPositions issues limit).Perm ((ranked issues).take limit) := by
  have hranking := (isRanking_ranked issues).positions
  have hnodup : ((ranked issues).take limit).Nodup :=
    (hranking.nodup_iff.2 List.nodup_range).sublist (List.take_sublist ..)
  refine (List.perm_ext_iff_of_nodup (List.nodup_range.filter _) hnodup).2 fun n => ?_
  rw [List.mem_filter, List.contains_iff_mem]
  exact and_iff_right_of_imp fun hn => hranking.subset (List.mem_of_mem_take hn)

theorem length_keptPositions (issues : List Issue) (limit : Nat) :
    (keptPositions issues limit).length = min limit issues.length := by
  rw [(perm_keptPositions issues limit).length_eq, List.length_take,
    (isRanking_ranked issues).positions.length_eq, List.length_range]

/-- What is kept is what stands at the kept positions, in their order. -/
theorem map_keptPositions (issues : List Issue) (limit : Nat) :
    (keptPositions issues limit).map (issues[·]?) = (capBySeverity issues limit).map some := by
  set kept := (ranked issues).take limit
  have hsnd : (issues.zip (List.range issues.length)).map (·.2) = List.range issues.length :=
    List.map_snd_zip (by simp)
  have hat : ∀ x ∈ (issues.zip (List.range issues.length)).filter fun x => kept.contains x.2,
      issues[x.2]? = some x.1 := by
    intro x hx
    obtain ⟨p, hp⟩ := List.mem_iff_getElem?.1 (List.mem_filter.1 hx).1
    obtain ⟨hissue, hposition⟩ := List.getElem?_zip_eq_some.1 hp
    obtain ⟨_, rfl⟩ : ∃ _ : p < issues.length, p = x.2 := by
      simpa [List.getElem?_eq_some_iff] using hposition
    exact hissue
  have hkept : keptPositions issues limit =
      ((issues.zip (List.range issues.length)).filter fun x => kept.contains x.2).map (·.2) := by
    rw [keptPositions]
    conv_lhs => rw [← hsnd, List.filter_map]
    rfl
  rw [hkept, List.map_map, capBySeverity, firstOf_natCast, List.map_take, List.map_map]
  exact List.map_congr_left hat

/-- An issue that is kept precedes every one that is not. -/
theorem precedes_of_mem_keptPositions (hm : m ∈ keptPositions issues limit)
    (hn : n < issues.length) (hnot : n ∉ keptPositions issues limit) : Precedes issues m n := by
  have hperm := perm_keptPositions issues limit
  have hordered := (isRanking_ranked issues).ordered
  rw [← List.take_append_drop limit (ranked issues), List.pairwise_append] at hordered
  refine hordered.2.2 m (hperm.subset hm) n ?_
  have hall : n ∈ (ranked issues).take limit ++ (ranked issues).drop limit := by
    rw [List.take_append_drop, (isRanking_ranked issues).positions.mem_iff]
    exact List.mem_range.2 hn
  exact (List.mem_append.1 hall).resolve_left fun h => hnot (hperm.symm.subset h)

/-! ## Keeping less and less -/

theorem capBySeverity_sublist_succ (issues : List Issue) (limit : Nat) :
    (capBySeverity issues limit).Sublist (capBySeverity issues (limit + 1 : Nat)) := by
  rw [capBySeverity, capBySeverity, firstOf_natCast, firstOf_natCast]
  refine (List.monotone_filter_right _ fun x hx => ?_).map _
  rw [List.contains_iff_mem] at hx ⊢
  exact ((List.take_sublist_take_left (Nat.le_succ limit)).map _).subset hx

/-- Where the n-th of the kept issues stood. -/
def formerPosition (issues : List Issue) (limit n : Nat) : Nat :=
  (keptPositions issues limit).getD n 0

theorem map_formerPosition (issues : List Issue) (limit : Nat) :
    (List.range (capBySeverity issues limit).length).map (formerPosition issues limit) =
      keptPositions issues limit := by
  have hlength : (capBySeverity issues limit).length = (keptPositions issues limit).length := by
    have h := congrArg List.length (map_keptPositions issues limit)
    rwa [List.length_map, List.length_map, eq_comm] at h
  rw [hlength]
  exact List.ext_getElem (by simp) fun n _ hn => by simp [formerPosition, hn]

theorem getElem?_capBySeverity (hn : n < (capBySeverity issues limit).length) :
    (capBySeverity issues limit)[n]? = issues[formerPosition issues limit n]? := by
  have hmap := map_keptPositions issues limit
  rw [← map_formerPosition, List.map_map] at hmap
  have hat := congrArg (·[n]?) hmap
  simp only [List.getElem?_map, List.getElem?_range hn, Option.map_some, Function.comp_apply,
    List.getElem?_eq_getElem hn, Option.some.injEq] at hat
  rw [hat, List.getElem?_eq_getElem hn]

theorem formerPosition_lt (hmn : m < n) (hn : n < (capBySeverity issues limit).length) :
    formerPosition issues limit m < formerPosition issues limit n := by
  have hascending := pairwise_keptPositions issues limit
  rw [← map_formerPosition, List.pairwise_map, List.pairwise_iff_getElem] at hascending
  have hlt := hascending m n (by simpa using hmn.trans hn) (by simpa using hn) hmn
  rwa [List.getElem_range, List.getElem_range] at hlt

/-- The ranking of what is kept is the beginning of the ranking. -/
theorem ranked_capBySeverity (issues : List Issue) (limit : Nat) :
    (ranked (capBySeverity issues limit)).map (formerPosition issues limit) =
      (ranked issues).take limit := by
  have hkept := isRanking_ranked (capBySeverity issues limit)
  have hinside : ∀ n ∈ ranked (capBySeverity issues limit), n < (capBySeverity issues limit).length :=
    fun n hn => List.mem_range.1 (hkept.positions.subset hn)
  refine eq_of_pairwise_precedes ?_ ((isRanking_ranked issues).ordered.sublist (List.take_sublist ..)) ?_
  · rw [List.pairwise_map]
    refine hkept.ordered.imp_of_mem fun {m n} hm hn => ?_
    rintro ⟨i, hi, j, hj, hij⟩
    rw [getElem?_capBySeverity (hinside m hm)] at hi
    rw [getElem?_capBySeverity (hinside n hn)] at hj
    exact ⟨i, hi, j, hj, hij.imp_right fun h => ⟨h.1, formerPosition_lt h.2 (hinside n hn)⟩⟩
  · refine (hkept.positions.map _).trans ?_
    rw [map_formerPosition]
    exact perm_keptPositions issues limit

/-- Keeping some issues, and then some of those, is keeping the smaller number of them at once. -/
theorem capBySeverity_capBySeverity (issues : List Issue) (first second : Nat) :
    capBySeverity (capBySeverity issues first) second =
      capBySeverity issues (min first second : Nat) := by
  have hinside : ∀ n ∈ keptPositions (capBySeverity issues first) second,
      n < (capBySeverity issues first).length :=
    fun n hn => List.mem_range.1 (List.mem_filter.1 hn).1
  have hpositions : (keptPositions (capBySeverity issues first) second).map
      (formerPosition issues first) = keptPositions issues (min first second) := by
    have hasymm (m n : Nat) (h : m < n) (h' : n < m) : m = n := absurd h' (Nat.lt_asymm h)
    refine List.Perm.eq_of_pairwise (fun m n _ _ => hasymm m n) ?_ (pairwise_keptPositions ..) ?_
    · rw [List.pairwise_map]
      exact (pairwise_keptPositions ..).imp_of_mem fun _ hn hmn =>
        formerPosition_lt hmn (hinside _ hn)
    · refine ((perm_keptPositions ..).map _).trans ?_
      rw [List.map_take, ranked_capBySeverity, List.take_take, Nat.min_comm]
      exact (perm_keptPositions ..).symm
  refine List.map_injective_iff.2 (Option.some_injective _) ?_
  rw [← map_keptPositions, ← map_keptPositions, ← hpositions, List.map_map]
  exact List.map_congr_left fun n hn => getElem?_capBySeverity (hinside n hn)

/-- What is kept of issues. There is one ranking of their positions by descending severity, those of
one severity in ascending order. The kept positions are the first ones of it, in ascending order: so
many as are wanted, or all; and an issue that is kept is more severe than any that is not, or as severe
and before it. Whoever keeps one more keeps these too, and nothing changes if more of the issues are
kept first. -/
theorem capBySeverity_stable (issues : List Issue) (limit : Nat) :
    (∃ order kept : List Nat, IsRanking issues order ∧ (∀ other, IsRanking issues other → other = order) ∧
      kept.Perm (order.take limit) ∧ kept.Pairwise (· < ·) ∧
      kept.map (issues[·]?) = (capBySeverity issues limit).map some ∧
      ∀ m ∈ kept, ∀ n < issues.length, n ∉ kept → Precedes issues m n) ∧
    (capBySeverity issues limit).Sublist issues ∧
    (capBySeverity issues limit).length = min limit issues.length ∧
    (capBySeverity issues limit).Sublist (capBySeverity issues (limit + 1 : Nat)) ∧
    ∀ more : Nat, limit ≤ more →
      capBySeverity (capBySeverity issues more) limit = capBySeverity issues limit := by
  have hmap := map_keptPositions issues limit
  refine ⟨⟨ranked issues, keptPositions issues limit, isRanking_ranked issues,
    fun other h => h.unique (isRanking_ranked issues), perm_keptPositions issues limit,
    pairwise_keptPositions issues limit, hmap, fun m hm n hn => precedes_of_mem_keptPositions hm hn⟩,
    capBySeverity_sublist issues limit, ?_, capBySeverity_sublist_succ issues limit,
    fun more hmore => ?_⟩
  · have hlength := congrArg List.length hmap
    rwa [List.length_map, List.length_map, length_keptPositions, eq_comm] at hlength
  · rw [capBySeverity_capBySeverity, Nat.min_eq_right hmore]

end Mend.Scan
