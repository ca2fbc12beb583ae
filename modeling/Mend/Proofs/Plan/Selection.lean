import Mend.Fix.Report
import Mend.Plan.Selection

/-!
# Picking issues by textual keys

If the keys of all issues are texts, and the requested keys are, then issues can be picked, and what
is said of the keys that no issue has can be put into words.

## Main definitions

* `Value.IsText` — values that are texts.
-/

namespace Mend

namespace Value

/-- Whether a value is a text. -/
def IsText (v : Value) : Prop := ∃ t, v = .text t

theorem IsText.isAtomic {v : Value} (h : v.IsText) : v.isAtomic = true := by
  obtain ⟨t, rfl⟩ := h
  rfl

/-- Among texts, there is nothing that cannot be compared. -/
theorem find?_isAtomic_eq_none {α : Type} {f : α → Value} {l : List α} (h : ∀ a ∈ l, (f a).IsText) :
    l.find? (fun a => !(f a).isAtomic) = none := by
  rw [List.find?_eq_none]
  intro a ha
  simp [(h a ha).isAtomic]

theorem same_text (s t : Text) : (Value.text s).same (.text t) = (s == t) := by
  simp [same]

theorem mem_of_mem_insertSorted {v x : Value} {vs : List Value} (h : x ∈ insertSorted v vs) :
    x = v ∨ x ∈ vs := by
  induction vs with
  | nil => exact .inl (List.mem_singleton.1 h)
  | cons w rest ih =>
      by_cases hbefore : (v.before? w == some true) = true
      · rw [insertSorted, if_pos hbefore] at h
        exact List.mem_cons.1 h
      · rw [insertSorted, if_neg hbefore] at h
        rcases List.mem_cons.1 h with rfl | hrest
        · exact .inr (List.mem_cons_self ..)
        · exact (ih hrest).imp_right (List.mem_cons_of_mem _)

theorem mem_of_mem_foldl_insertSorted {x : Value} {vs sorted : List Value}
    (h : x ∈ vs.foldl (fun sorted v => insertSorted v sorted) sorted) : x ∈ vs ∨ x ∈ sorted := by
  induction vs generalizing sorted with
  | nil => exact .inr h
  | cons v rest ih =>
      rcases ih h with hrest | hsorted
      · exact .inl (List.mem_cons_of_mem _ hrest)
      · rcases mem_of_mem_insertSorted hsorted with rfl | hsorted
        · exact .inl (List.mem_cons_self ..)
        · exact .inr hsorted

/-- Texts can be put in order. -/
theorem exists_ascending {vs : List Value} (h : ∀ v ∈ vs, v.IsText) :
    ∃ ws, ascending vs = .ok ws ∧ ∀ w ∈ ws, w.IsText := by
  have hcomparable : (vs.all fun v => vs.all fun w => (v.before? w).isSome) = true := by
    simp only [List.all_eq_true]
    intro v hv w hw
    obtain ⟨a, rfl⟩ := h v hv
    obtain ⟨b, rfl⟩ := h w hw
    rfl
  have hsorted : ∃ ws, sorted? vs = some ws ∧ ∀ w ∈ ws, w ∈ vs := by
    unfold sorted?
    split
    · exact ⟨[], rfl, by simp⟩
    · exact ⟨_, rfl, fun w hw => hw⟩
    · rw [if_pos hcomparable]
      refine ⟨_, rfl, fun w hw => ?_⟩
      simpa using mem_of_mem_foldl_insertSorted hw
  obtain ⟨ws, hws, hmem⟩ := hsorted
  exact ⟨ws, by rw [ascending, hws], fun w hw => h w (hmem w hw)⟩

theorem mem_of_mem_distinct {vs : List Value} {v : Value} (h : v ∈ distinct vs) : v ∈ vs := by
  have hfold (vs kept : List Value) (h : v ∈ vs.foldl
      (fun kept v => if kept.any (same v) then kept else kept ++ [v]) kept) : v ∈ kept ∨ v ∈ vs := by
    induction vs generalizing kept with
    | nil => exact .inl h
    | cons w rest ih =>
        rcases ih _ h with hkept | hrest
        · dsimp only at hkept
          split at hkept
          · exact .inl hkept
          · rcases List.mem_append.1 hkept with hkept | hw
            · exact .inl hkept
            · obtain rfl := List.mem_singleton.1 hw
              exact .inr (List.mem_cons_self ..)
        · exact .inr (List.mem_cons_of_mem _ hrest)
  simpa using hfold vs [] h

/-- The members of a set of texts. -/
theorem members_list {vs : List Value} (h : ∀ v ∈ vs, v.IsText) :
    (Value.list vs).members = .ok (distinct vs) := by
  have hatomic : vs.find? (fun w => !w.isAtomic) = none := find?_isAtomic_eq_none h
  simp [members, elements, hatomic, bind, Except.bind, pure, Except.pure]

/-- Texts can be the members of a set. -/
theorem exists_members {vs : List Value} (h : ∀ v ∈ vs, v.IsText) :
    ∃ ws, (Value.list vs).members = .ok ws ∧ ∀ w ∈ ws, w.IsText :=
  ⟨distinct vs, members_list h, fun w hw => h w (mem_of_mem_distinct hw)⟩

end Value

open Value

theorem exists_mapM_eq_ok {α β : Type} {f : α → Except Fault β} {l : List α}
    (h : ∀ a ∈ l, ∃ b, f a = .ok b) : ∃ bs, l.mapM f = .ok bs := by
  induction l with
  | nil => exact ⟨[], rfl⟩
  | cons a rest ih =>
      obtain ⟨b, hb⟩ := h a (List.mem_cons_self ..)
      obtain ⟨bs, hbs⟩ := ih fun a ha => h a (List.mem_cons_of_mem _ ha)
      exact ⟨b :: bs, by simp [List.mapM_cons, hb, hbs, bind, Except.bind, pure, Except.pure]⟩

/-- Keys that are texts can be listed. -/
theorem Fix.Report.exists_keyList {keys : List Value} (h : ∀ v ∈ keys, v.IsText) :
    ∃ t, keyList keys = .ok t := by
  have htext : ∀ x ∈ keys.zip (List.range keys.length), ∃ t, keyText x = .ok t := by
    rintro ⟨v, n⟩ hx
    obtain ⟨t, rfl⟩ := h v (List.of_mem_zip hx).1
    exact ⟨t, rfl⟩
  obtain ⟨texts, htexts⟩ := exists_mapM_eq_ok htext
  exact ⟨_, by rw [keyList, htexts]; rfl⟩

/-- Issues can be picked by textual keys. -/
theorem Plan.exists_find {p : Plan} {keys : Option (List Value)}
    (hplan : ∀ i ∈ p.all, i.key.IsText) (hkeys : ∀ ks, keys = some ks → ∀ k ∈ ks, k.IsText) :
    ∃ s, p.find keys = .ok s ∧ ∀ v ∈ s.unknown, v.IsText := by
  cases keys with
  | none => exact ⟨_, rfl, by simp⟩
  | some ks =>
      obtain ⟨wanted, hwanted, htext⟩ := exists_members (hkeys ks rfl)
      have hatomic : p.all.find? (fun i => !i.key.isAtomic) = none := find?_isAtomic_eq_none hplan
      have hmissing : ∀ v ∈ missing wanted p.all, v.IsText := fun v hv =>
        htext v (List.mem_filter.1 hv).1
      obtain ⟨unknown, hunknown, hunknownText⟩ := exists_ascending hmissing
      let groups := (p.groups.map fun g => { g with issues := chosen wanted g.issues }).filter
        fun g => !g.issues.isEmpty
      have hfind : p.find (some ks) =
          .ok { groups, unlocatable := (chosen wanted p.unlocatable).map (·.key), unknown } := by
        simp only [find, hwanted, hatomic, hunknown, bind, Except.bind, pure, Except.pure, groups]
      exact ⟨_, hfind, hunknownText⟩

end Mend
