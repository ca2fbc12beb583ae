import Mend.Proofs.Plan.Documents
import Mend.Plan.Selection

/-!
# Picking from plans that agree

The order of the tags of an issue plays no part when issues are picked: from plans that agree, the
same keys pick issues that agree, in the same order.

## Main statements

* `Plan.Agrees.find` — what is picked from plans that agree.
-/

namespace Mend

/-- Whether two selections differ at most in the order of the tags of an issue. -/
structure Selection.Agrees (s t : Selection) : Prop where
  groups : List.Forall₂ FileGroup.Agrees s.groups t.groups
  unlocatable : t.unlocatable = s.unlocatable
  unknown : t.unknown = s.unknown

theorem Selection.Agrees.issueCount {s t : Selection} (h : s.Agrees t) :
    t.issueCount = s.issueCount := FileGroup.countOver_of_agrees h.groups

theorem Issue.Agrees.key {i j : Issue} (h : i.Agrees j) : j.key = i.key := by
  obtain ⟨tags, -, rfl⟩ := h
  rfl

/-- Issues that agree have the same keys. -/
theorem Issue.keys_of_agrees {is js : List Issue} (h : List.Forall₂ Issue.Agrees is js) :
    js.map (·.key) = is.map (·.key) := by
  induction h with
  | nil => rfl
  | cons hij _ ih => rw [List.map_cons, List.map_cons, hij.key, ih]

namespace Plan

theorem chosen_agrees (wanted : List Value) {is js : List Issue}
    (h : List.Forall₂ Issue.Agrees is js) :
    List.Forall₂ Issue.Agrees (chosen wanted is) (chosen wanted js) := by
  induction h with
  | nil => exact .nil
  | @cons i j is js hij _ ih =>
      simp only [chosen, List.filter_cons, hij.key]
      split
      · exact .cons hij ih
      · exact ih

theorem chosenGroups_agrees (wanted : List Value) {gs hs : List FileGroup}
    (h : List.Forall₂ FileGroup.Agrees gs hs) :
    List.Forall₂ FileGroup.Agrees
      ((gs.map fun g => { g with issues := chosen wanted g.issues }).filter fun g => !g.issues.isEmpty)
      ((hs.map fun g => { g with issues := chosen wanted g.issues }).filter
        fun g => !g.issues.isEmpty) := by
  induction h with
  | nil => exact .nil
  | @cons g k gs hs hgk _ ih =>
      have hchosen := chosen_agrees wanted hgk.issues
      have hempty : (chosen wanted k.issues).isEmpty = (chosen wanted g.issues).isEmpty := by
        rw [Bool.eq_iff_iff, List.isEmpty_iff_length_eq_zero, List.isEmpty_iff_length_eq_zero,
          hchosen.length_eq]
      rw [List.map_cons, List.map_cons]
      by_cases hg : (chosen wanted g.issues).isEmpty = true
      · rw [List.filter_cons_of_neg (by simpa using hg),
          List.filter_cons_of_neg (by simpa [hempty] using hg)]
        exact ih
      · rw [List.filter_cons_of_pos (by simpa using hg),
          List.filter_cons_of_pos (by simpa [hempty] using hg)]
        exact .cons ⟨hgk.path, hchosen⟩ ih

theorem missing_of_keys (wanted : List Value) {is js : List Issue}
    (h : js.map (·.key) = is.map (·.key)) : missing wanted js = missing wanted is := by
  have hany (is : List Issue) (w : Value) :
      (is.any fun i => w.same i.key) = (is.map (·.key)).any (w.same ·) := by
    rw [List.any_map]
    rfl
  simp only [missing, hany, h]

theorem find?_key_agrees (P : Value → Bool) {is js : List Issue}
    (h : List.Forall₂ Issue.Agrees is js) :
    (js.find? fun j => P j.key).map (·.key) = (is.find? fun i => P i.key).map (·.key) := by
  have hfind (is : List Issue) :
      (is.find? fun i => P i.key).map (·.key) = (is.map (·.key)).find? P := by
    rw [List.find?_map]
    rfl
  rw [hfind, hfind, Issue.keys_of_agrees h]

/-- The same keys pick issues that agree from plans that agree, or fail for the same reason. -/
theorem Agrees.find {p q : Plan} (h : p.Agrees q) (keys : Option (List Value)) :
    (∃ s t, p.find keys = .ok s ∧ q.find keys = .ok t ∧ s.Agrees t) ∨
      ∃ e, p.find keys = .error e ∧ q.find keys = .error e := by
  cases keys with
  | none => exact .inl ⟨_, _, rfl, rfl, h.groups, rfl, rfl⟩
  | some keys =>
      have hatomic := find?_key_agrees (fun k => !k.isAtomic) h.all
      have hmissing (wanted : List Value) := missing_of_keys wanted (Issue.keys_of_agrees h.all)
      unfold Plan.find
      dsimp only [bind, Except.bind, pure, Except.pure]
      cases hwanted : (Value.list keys).members with
      | error e => exact .inr ⟨e, rfl, rfl⟩
      | ok wanted =>
          dsimp only
          rw [hmissing]
          cases hp : p.all.find? fun i => !i.key.isAtomic with
          | some i =>
              rw [hp] at hatomic
              obtain ⟨j, hq, hkey⟩ := Option.map_eq_some_iff.1 hatomic
              rw [hq]
              exact .inr ⟨_, rfl, by dsimp only at hkey ⊢; rw [hkey]⟩
          | none =>
              rw [hp] at hatomic
              rw [Option.map_eq_none_iff.1 hatomic]
              cases hunknown : Value.ascending (missing wanted p.all) with
              | error e => exact .inr ⟨e, rfl, rfl⟩
              | ok unknown =>
                  exact .inl ⟨_, _, rfl, rfl, chosenGroups_agrees wanted h.groups,
                    Issue.keys_of_agrees (chosen_agrees wanted h.unlocatable), rfl⟩

end Plan

end Mend
