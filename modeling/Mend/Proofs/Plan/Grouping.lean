import Mend.Proofs.Plan.File

/-!
# What a plan accounts for

A plan holds every issue exactly once: those of a file together, in the order in which they were
found, the files in the order in which they first came up, and those of no file apart. Whoever goes
through the issues one by one and puts each to its file ends up with the same groups. Going through
the issues of a plan in its own order changes nothing any more.

## Main definitions

* `Plan.withIssue`, `Plan.oneByOne` — a plan with one more issue, and one made in this way.
* `Plan.Accounts` — plans that hold every issue of a list exactly once.

## Main statements

* `Plan.grouped_ofIssues` — the groups of a plan, issue by issue.
* `Plan.perm_all` — a plan holds what it was made for.
* `Plan.groups_regrouped` — the plan for the issues of a plan.
* `Plan.build_accounts` — what a plan accounts for.
-/

namespace Mend

/-- An issue lies in the file whose path it names, unless the path is empty. -/
theorem Issue.path_of_text {i : Issue} {t : Text} (h : i.filePath = .text t) :
    i.path = t ∧ (i.isLocatable = true ↔ t ≠ []) := by
  rw [Issue.path, Issue.isLocatable, h]
  cases t <;> simp [Value.isGiven, Value.shown]

namespace Plan

variable {issues : List Issue} {facets : Option Facets} {usedRemote truncated : Bool} {i : Issue}

/-! ## Issue by issue -/

/-- Puts an issue into the group of its file: behind the issues that are there already, or into a new
group behind the others. -/
def place (i : Issue) : List FileGroup → List FileGroup
  | [] => [⟨i.path, [i]⟩]
  | g :: rest => if g.path == i.path then ⟨g.path, g.issues ++ [i]⟩ :: rest else g :: place i rest

/-- The plan with one more issue. -/
def withIssue (p : Plan) (i : Issue) : Plan :=
  if i.isLocatable then { p with groups := place i p.groups }
  else { p with unlocatable := p.unlocatable ++ [i] }

/-- The plan that comes about if issues are put to their files one by one. -/
def oneByOne (issues : List Issue) : Plan := issues.foldl withIssue { groups := [] }

theorem place_of_notMem {gs : List FileGroup} (h : i.path ∉ gs.map (·.path)) :
    place i gs = gs ++ [⟨i.path, [i]⟩] := by
  induction gs with
  | nil => rfl
  | cons g gs ih =>
      simp only [List.map_cons, List.mem_cons, not_or] at h
      rw [place, if_neg (by simpa using Ne.symm h.1), ih h.2]
      rfl

theorem place_of_mem {ts : List Text} (h : ts.Nodup) (hi : i.path ∈ ts) (f : Text → List Issue) :
    place i (ts.map fun t => ⟨t, f t⟩) =
      ts.map fun t => ⟨t, f t ++ if i.path == t then [i] else []⟩ := by
  induction ts with
  | nil => cases hi
  | cons t ts ih =>
      rw [List.nodup_cons] at h
      rw [List.map_cons, List.map_cons, place]
      by_cases hit : i.path = t
      · have hrest : (ts.map fun t => FileGroup.mk t (f t)) =
            ts.map fun t => ⟨t, f t ++ if i.path == t then [i] else []⟩ := by
          refine List.map_congr_left fun u hu => ?_
          have hiu : i.path ≠ u := fun heq => h.1 (hit ▸ heq ▸ hu)
          rw [if_neg (by simpa using hiu), List.append_nil]
        rw [if_pos (by simp [hit]), if_pos (by simpa using hit), hrest]
      · rw [if_neg (by simpa using Ne.symm hit), if_neg (by simpa using hit), List.append_nil,
          ih h.2 ((List.mem_cons.1 hi).resolve_left hit)]

theorem filter_concat (q : Issue → Bool) (issues : List Issue) (i : Issue) :
    (issues ++ [i]).filter q = issues.filter q ++ if q i then [i] else [] := by
  rw [List.filter_append, List.filter_cons, List.filter_nil]

theorem paths_concat (issues : List Issue) (i : Issue) :
    paths (issues ++ [i]) =
      if i.isLocatable && !(paths issues).contains i.path then paths issues ++ [i.path]
      else paths issues := by
  rw [paths, paths, filter_concat, List.foldl_append]
  cases i.isLocatable
  · rfl
  · rw [if_pos rfl, List.foldl_cons, List.foldl_nil, Bool.true_and]
    split <;> simp_all

/-- No issue lies in a file that has not come up. -/
theorem filter_path_of_notMem {t : Text} (h : t ∉ paths issues) :
    (issues.filter fun j => j.isLocatable && j.path == t) = [] := by
  rw [List.filter_eq_nil_iff]
  intro j hj hjt
  rw [Bool.and_eq_true, beq_iff_eq] at hjt
  exact h (mem_paths_iff.2 ⟨j, hj, hjt⟩)

/-- One more issue goes into the group of its file. -/
theorem grouped_concat (issues : List Issue) (facets : Option Facets) (usedRemote truncated : Bool)
    (i : Issue) :
    let before := ofIssues issues facets usedRemote truncated
    let after := ofIssues (issues ++ [i]) facets usedRemote truncated
    after.groups = (before.withIssue i).groups ∧
      after.unlocatable = (before.withIssue i).unlocatable := by
  intro before after
  have hgroups : after.groups = (paths (issues ++ [i])).map fun t =>
      ⟨t, (issues.filter fun j => j.isLocatable && j.path == t) ++
        if i.isLocatable && i.path == t then [i] else []⟩ :=
    List.map_congr_left fun t _ => by rw [filter_concat]
  have hunlocatable : after.unlocatable =
      before.unlocatable ++ if !i.isLocatable then [i] else [] := filter_concat ..
  rw [hgroups, hunlocatable, withIssue, paths_concat]
  cases hi : i.isLocatable with
  | false => simp [before, ofIssues]
  | true =>
      simp only [Bool.true_and, if_true, Bool.not_true, Bool.false_eq_true, if_false,
        List.append_nil, and_true]
      by_cases hseen : i.path ∈ paths issues
      · rw [if_neg (by simpa using hseen)]
        exact (place_of_mem (nodup_paths issues) hseen _).symm
      · have hpaths : before.groups.map (·.path) = paths issues := by
          simp [before, ofIssues, Function.comp_def]
        rw [if_pos (by simpa using hseen), place_of_notMem (hpaths ▸ hseen), List.map_append]
        -- The files that came up before get nothing, and the new one has nothing else.
        refine congrArg₂ (· ++ ·) (List.map_congr_left fun t ht => ?_)
          (by simp [filter_path_of_notMem hseen])
        have hold : i.path ≠ t := fun heq => hseen (heq ▸ ht)
        rw [if_neg (by simpa using hold), List.append_nil]

/-- The groups of a plan are found by going through the issues one by one. -/
theorem grouped_ofIssues (issues : List Issue) (facets : Option Facets)
    (usedRemote truncated : Bool) :
    let p := ofIssues issues facets usedRemote truncated
    p.groups = (oneByOne issues).groups ∧ p.unlocatable = (oneByOne issues).unlocatable := by
  induction issues using List.reverseRecOn with
  | nil => exact ⟨rfl, rfl⟩
  | append_singleton issues i ih =>
      obtain ⟨hgroups, hunlocatable⟩ := ih
      obtain ⟨hgroups', hunlocatable'⟩ := grouped_concat issues facets usedRemote truncated i
      have hone : oneByOne (issues ++ [i]) = (oneByOne issues).withIssue i := by
        rw [oneByOne, List.foldl_append]
        rfl
      dsimp only at *
      rw [hgroups', hunlocatable', hone]
      unfold withIssue
      split
      · exact ⟨congrArg (place i) hgroups, hunlocatable⟩
      · exact ⟨hgroups, congrArg (· ++ [i]) hunlocatable⟩

/-! ## Nothing lost, nothing twice -/

/-- The issues in files, file by file. -/
theorem located_ofIssues (issues : List Issue) :
    (ofIssues issues facets usedRemote truncated).located =
      (paths issues).flatMap fun t => (issues.filter (·.isLocatable)).filter fun i => i.path == t := by
  rw [located, ofIssues, List.flatMap_map]
  refine List.flatMap_congr fun t _ => ?_
  rw [List.filter_filter]
  exact List.filter_congr fun i _ => Bool.and_comm ..

theorem perm_located (issues : List Issue) :
    (ofIssues issues facets usedRemote truncated).located.Perm (issues.filter (·.isLocatable)) := by
  rw [located_ofIssues]
  refine perm_flatMap_filter Issue.path (nodup_paths issues) fun i hi => ?_
  obtain ⟨hi, hlocatable⟩ := List.mem_filter.1 hi
  exact mem_paths_iff.2 ⟨i, hi, hlocatable, rfl⟩

/-- A plan holds what it was made for. -/
theorem perm_all (issues : List Issue) :
    (ofIssues issues facets usedRemote truncated).all.Perm issues :=
  ((perm_located issues).append_right _).trans (List.filter_append_perm _ issues)

theorem length_all (p : Plan) : p.all.length = p.totalIssues := by
  have hlocated (gs : List FileGroup) :
      (gs.flatMap (·.issues)).length = countOver (·.issues.length) gs := by
    induction gs with
    | nil => rfl
    | cons g gs ih => rw [List.flatMap_cons, List.length_append, countOver_cons, ih]
  rw [all, List.length_append, located, hlocated]
  rfl

/-- The plans that hold every issue of a list exactly once, those of a file together and in order. -/
structure Accounts (p : Plan) (issues : List Issue) : Prop where
  /-- The files stand in the order in which they first come up. -/
  files : p.groups.map (·.path) = ((issues.filter (·.isLocatable)).map (·.path)).eraseDups
  /-- No group is empty, and each one has the issues of its file in their order. -/
  groups : ∀ g ∈ p.groups, g.issues ≠ [] ∧
    g.issues = issues.filter fun i => i.isLocatable && i.path == g.path
  unlocatable : p.unlocatable = issues.filter fun i => !i.isLocatable
  all : p.all.Perm issues
  total : p.totalIssues = issues.length
  effort : p.effort = sumOver (fun i => (i.effort : Int)) issues

theorem accounts_ofIssues (issues : List Issue) :
    (ofIssues issues facets usedRemote truncated).Accounts issues where
  files := by
    rw [← paths_eq]
    simp [ofIssues, Function.comp_def]
  groups g hg := by
    obtain ⟨t, ht, rfl⟩ := List.mem_map.1 hg
    obtain ⟨i, hi, hlocatable, hpath⟩ := mem_paths_iff.1 ht
    refine ⟨List.ne_nil_of_mem (a := i) (List.mem_filter.2 ⟨hi, ?_⟩), rfl⟩
    rw [hlocatable, hpath, Bool.true_and, beq_self_eq_true]
  unlocatable := rfl
  all := perm_all issues
  total := (length_all _).symm.trans (perm_all issues).length_eq
  effort := rfl

/-! ## Going through a plan -/

theorem filter_all (issues : List Issue) :
    (ofIssues issues facets usedRemote truncated).all.filter (·.isLocatable) =
      (ofIssues issues facets usedRemote truncated).located := by
  have hlocated : ∀ i ∈ (ofIssues issues facets usedRemote truncated).located,
      i.isLocatable = true :=
    fun i hi => (List.mem_filter.1 ((perm_located issues).subset hi)).2
  have hunlocatable : (ofIssues issues facets usedRemote truncated).unlocatable.filter
      (·.isLocatable) = [] := by
    rw [List.filter_eq_nil_iff]
    intro i hi
    simpa using (List.mem_filter.1 hi).2
  rw [all, List.filter_append, hunlocatable, List.append_nil, List.filter_eq_self]
  exact hlocated

theorem paths_all (issues : List Issue) :
    paths (ofIssues issues facets usedRemote truncated).all = paths issues := by
  rw [paths_eq, filter_all, located_ofIssues, List.map_flatMap]
  refine eraseDups_flatMap (nodup_paths issues) fun t ht => ⟨?_, fun u hu => ?_⟩
  · obtain ⟨i, hi, hlocatable, hpath⟩ := mem_paths_iff.1 ht
    refine List.ne_nil_of_mem (a := i.path) (List.mem_map_of_mem ?_)
    rw [List.mem_filter, List.mem_filter, hpath]
    exact ⟨⟨hi, hlocatable⟩, beq_self_eq_true t⟩
  · obtain ⟨i, hi, rfl⟩ := List.mem_map.1 hu
    exact beq_iff_eq.1 (List.mem_filter.1 hi).2

/-- The plan for the issues of a plan has the same groups. -/
theorem groups_regrouped (issues : List Issue) (facets facets' : Option Facets)
    (usedRemote usedRemote' truncated truncated' : Bool) :
    let p := ofIssues issues facets usedRemote truncated
    let q := ofIssues p.all facets' usedRemote' truncated'
    q.groups = p.groups ∧ q.unlocatable = p.unlocatable := by
  intro p q
  constructor
  · have hgroups : q.groups = (paths p.all).map fun t =>
        ⟨t, p.all.filter fun i => i.isLocatable && i.path == t⟩ := rfl
    rw [hgroups, paths_all]
    refine List.map_congr_left fun t ht => ?_
    have hgroup : (p.all.filter fun i => i.isLocatable && i.path == t) =
        p.located.filter fun i => i.path == t := by
      rw [← filter_all, List.filter_filter]
      exact List.filter_congr fun i _ => Bool.and_comm ..
    rw [hgroup, located_ofIssues, filter_flatMap_filter Issue.path (nodup_paths issues) _ ht,
      List.filter_filter]
    congr 1
    exact List.filter_congr fun i _ => Bool.and_comm ..
  · show p.all.filter (fun i => !i.isLocatable) = p.unlocatable
    have hlocated : p.located.filter (fun i => !i.isLocatable) = [] := by
      rw [List.filter_eq_nil_iff]
      intro i hi
      simp [(List.mem_filter.1 ((perm_located issues).subset hi)).2]
    rw [all, List.filter_append, hlocated, List.nil_append, List.filter_eq_self]
    exact fun i hi => (List.mem_filter.1 hi).2

/-! ## Building a plan -/

variable {σ : Type}

/-- What a plan accounts for. If the sum of the efforts can be written, the plan for some issues is
made: it holds every issue exactly once, those of a file in its group and those of no file apart, with
the groups that are found by going through the issues one by one; counts that are computed sum up to
the number of issues. The plan for the issues of this plan has the same groups, the same effort and,
where they are computed, the same counts. If the sum of the efforts has too many digits, there is no
plan. -/
theorem build_accounts (issues : List Issue) (facets : Option Facets) (usedRemote truncated : Bool)
    (w : World σ) :
    let p := ofIssues issues facets usedRemote truncated
    ((build issues facets usedRemote truncated).run w).1 =
      (if Numeral.fits (sumOver (fun i => (i.effort : Int)) issues) then .ok p
        else .error .numberTooLong) ∧
    p.Accounts issues ∧
    (∀ i ∈ issues, ∀ t, i.filePath = .text t → i.path = t ∧ (i.isLocatable = true ↔ t ≠ [])) ∧
    p.groups = (oneByOne issues).groups ∧ p.unlocatable = (oneByOne issues).unlocatable ∧
    (facets = none →
      p.facets.byCategory.total = issues.length ∧ p.facets.bySeverity.total = issues.length) ∧
    ∀ (facets' : Option Facets) (usedRemote' truncated' : Bool),
      let q := ofIssues p.all facets' usedRemote' truncated'
      q.groups = p.groups ∧ q.unlocatable = p.unlocatable ∧ q.effort = p.effort ∧
      (facets = none → facets' = none →
        q.facets.byCategory.Perm p.facets.byCategory ∧
          q.facets.bySeverity.Perm p.facets.bySeverity) := by
  intro p
  have hall : p.all.Perm issues := perm_all issues
  obtain ⟨hone, hone'⟩ := grouped_ofIssues issues facets usedRemote truncated
  refine ⟨?_, accounts_ofIssues issues, fun i _ t h => Issue.path_of_text h, hone, hone', ?_,
    fun facets' usedRemote' truncated' => ?_⟩
  · rw [run_build]
    show (if Numeral.fits (sumOver (fun i => (i.effort : Int)) issues) then _ else _ : _ × _).1 = _
    split <;> rfl
  · rintro rfl
    constructor
    · exact (Tally.total_ofList _).trans (by rw [List.length_map])
    · exact (Tally.total_ofList _).trans (by rw [List.length_map])
  · obtain ⟨hgroups, hunlocatable⟩ := groups_regrouped issues facets facets' usedRemote usedRemote'
      truncated truncated'
    refine ⟨hgroups, hunlocatable, sumOver_perm hall, ?_⟩
    rintro rfl rfl
    exact ⟨Tally.perm_ofList (hall.map _), Tally.perm_ofList (hall.map _)⟩

/-- An issue whose effort has as many digits as a numeral may have. -/
def tireless : Issue := { colourful with effort := 9 * 10 ^ (Numeral.maxDigits - 1) }

/-- There is no plan for two such issues: the effort of each one can be written, their sum cannot. -/
theorem build_tireless :
    Numeral.fits tireless.effort = true ∧
      ((build [tireless, tireless] none false false).run ({ extra := () } : World Unit)).1 =
        .error .numberTooLong := by
  have heffort : (ofIssues [tireless, tireless] none false false).effort =
      (tireless.effort : Int) + ((tireless.effort : Int) + 0) := rfl
  have hdigits : 10 ^ Numeral.maxDigits = 10 ^ (Numeral.maxDigits - 1) * 10 :=
    (pow_sub_one_mul (by decide) 10).symm
  have hpos : 0 < 10 ^ (Numeral.maxDigits - 1) := Nat.pow_pos (by decide)
  have hfits : Numeral.fits tireless.effort = true ∧
      ¬ Numeral.fits (ofIssues [tireless, tireless] none false false).effort = true := by
    rw [heffort, Int.add_zero, ← Int.natCast_add, Numeral.fits, Numeral.fits, decide_eq_true_iff,
      decide_eq_true_iff, Int.natAbs_natCast, Int.natAbs_natCast, Nat.pow_eq, hdigits, tireless]
    generalize 10 ^ (Numeral.maxDigits - 1) = n at hpos ⊢
    constructor <;> dsimp only <;> omega
  exact ⟨hfits.1, by rw [run_build, if_neg hfits.2]⟩

end Plan

end Mend
