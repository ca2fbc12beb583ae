import Mend.Proofs.Issue.Documents
import Mend.Proofs.Issue.Tallies
import Mend.Plan.Basic

/-!
# Plans read back from their documents

The plan that is read from the document of a plan agrees with it in everything but the order of the
tags of an issue: the same files in the same order, the same issues, the same counts.

## Main definitions

* `Plan.WellTyped` — plans whose issues are well typed and whose files are distinct.
* `Plan.Fits` — plans whose numbers can be written.
* `Plan.Agrees` — plans that differ at most in the order of the tags of an issue.

## Main statements

* `Plan.wellTyped_ofIssues` — the plan for well-typed issues is well typed.
* `Plan.exists_document` — the document of a plan, and what is read from it.
-/

namespace Mend

/-! ## Counts -/

namespace Facets

/-- The facets that count each name once. -/
structure Distinct (f : Facets) : Prop where
  byCategory : (f.byCategory.map (·.1)).Nodup
  bySeverity : (f.bySeverity.map (·.1)).Nodup

/-- The facets whose counts can be written. -/
structure Fits (f : Facets) : Prop where
  byCategory : ∀ e ∈ f.byCategory, Numeral.fits e.2 = true
  bySeverity : ∀ e ∈ f.bySeverity, Numeral.fits e.2 = true

theorem distinct_ofIssues (issues : List Issue) : (ofIssues issues).Distinct :=
  ⟨Tally.nodup_ofList _, Tally.nodup_ofList _⟩

/-- Counts are added behind those of other values. -/
theorem foldlM_put {α : Type} [BEq α] [LawfulBEq α] {parse : Text → Except Fault α}
    {name : α → Text} (hparse : ∀ a, parse (name a) = .ok a) (t kept : Tally α)
    (h : ((kept ++ t).map (·.1)).Nodup) :
    (t.map fun (a, n) => (name a, Value.int n)).foldlM (fun tally (name, n) => do
      let a ← parse name
      return Tally.put a (← n.asInt) tally) kept = Except.ok (kept ++ t) := by
  induction t generalizing kept with
  | nil => simp [pure, Except.pure]
  | cons e t ih =>
      have hnot : e.1 ∉ kept.map (·.1) := by
        intro hmem
        rw [List.map_append, List.map_cons] at h
        exact (List.nodup_append.1 h).2.2 e.1 hmem e.1 (List.mem_cons_self ..) rfl
      have hput : Tally.put e.1 e.2 kept = kept ++ [e] := Tally.put_of_notMem hnot e.2
      have hrest := ih (kept ++ [e]) (by simpa using h)
      rw [List.append_assoc] at hrest
      simp only [List.map_cons, List.foldlM_cons, hparse, Value.int, Value.asInt, bind, Except.bind,
        pure, Except.pure, hput] at hrest ⊢
      exact hrest

/-- Counts are read back from the names and numbers in an object. -/
theorem tallyOf_obj {α : Type} [BEq α] [LawfulBEq α] {parse : Text → Except Fault α}
    {name : α → Text} (hparse : ∀ a, parse (name a) = .ok a) {t : Tally α}
    (h : (t.map (·.1)).Nodup) :
    tallyOf parse (.obj (t.map fun (a, n) => (name a, .int n))) = .ok t :=
  foldlM_put hparse t [] h

theorem getD_types (f : Facets) : f.toValue.getD "types" (.obj []) =
    .ok (.obj (f.byCategory.map fun (k, n) => (k.name, .int n))) := rfl

theorem getD_severities (f : Facets) : f.toValue.getD "severities" (.obj []) =
    .ok (.obj (f.bySeverity.map fun (s, n) => (s.name, .int n))) := rfl

theorem ofValue_toValue {f : Facets} (h : f.Distinct) : ofValue f.toValue = .ok f := by
  rw [ofValue, getD_types, ok_bind, tallyOf_obj Category.parse_name h.byCategory, ok_bind,
    getD_severities, ok_bind, tallyOf_obj Severity.parse_name h.bySeverity]
  rfl

theorem isPlain_counts {α : Type} {name : α → Text} (hname : Function.Injective name)
    (hscalar : ∀ a, ∀ c ∈ name a, Text.isScalar c = true) {t : Tally α} (h : (t.map (·.1)).Nodup)
    (hfits : ∀ e ∈ t, Numeral.fits e.2 = true) (depth : Nat) :
    (Value.obj (t.map fun (a, n) => (name a, .int n))).IsPlain (depth + 1) := by
  refine .obj ?_ ?_ ?_
  · have hnames : (t.map fun (a, n) => (name a, Value.int n)).map (·.1) = (t.map (·.1)).map name := by
      simp
    rw [hnames]
    exact List.Nodup.map hname h
  · intro f hf
    obtain ⟨e, -, rfl⟩ := List.mem_map.1 hf
    exact hscalar e.1
  · intro f hf
    obtain ⟨e, he, rfl⟩ := List.mem_map.1 hf
    exact .int (hfits e he)

theorem isPlain_toValue {f : Facets} (h : f.Distinct) (hfits : f.Fits) (depth : Nat) :
    f.toValue.IsPlain (depth + 2) := by
  refine Value.isPlain_record (by simp) ?_
  simp only [List.forall_mem_cons, List.not_mem_nil, false_implies, implies_true, and_true]
  exact ⟨isPlain_counts Category.name_injective Category.isScalar_name h.byCategory
      hfits.byCategory depth,
    isPlain_counts Severity.name_injective Severity.isScalar_name h.bySeverity
      hfits.bySeverity depth⟩

end Facets

/-! ## Plans -/

/-- Whether two groups differ at most in the order of the tags of an issue. -/
structure FileGroup.Agrees (g h : FileGroup) : Prop where
  path : h.path = g.path
  issues : List.Forall₂ Issue.Agrees g.issues h.issues

namespace FileGroup

theorem Agrees.symm {g h : FileGroup} (hgh : g.Agrees h) : h.Agrees g :=
  ⟨hgh.path.symm, hgh.issues.flip.imp fun _ _ => Issue.Agrees.symm⟩

theorem paths_of_agrees {gs hs : List FileGroup} (h : List.Forall₂ FileGroup.Agrees gs hs) :
    hs.map (·.path) = gs.map (·.path) := by
  induction h with
  | nil => rfl
  | cons hg _ ih => rw [List.map_cons, List.map_cons, hg.path, ih]

theorem countOver_of_agrees {gs hs : List FileGroup} (h : List.Forall₂ FileGroup.Agrees gs hs) :
    countOver (·.issues.length) hs = countOver (·.issues.length) gs := by
  induction h with
  | nil => rfl
  | cons hg _ ih => rw [countOver_cons, countOver_cons, ih, hg.issues.length_eq]

end FileGroup

namespace Plan

/-- Whether two plans differ at most in the order of the tags of an issue. -/
structure Agrees (p q : Plan) : Prop where
  groups : List.Forall₂ FileGroup.Agrees p.groups q.groups
  unlocatable : List.Forall₂ Issue.Agrees p.unlocatable q.unlocatable
  facets : q.facets = p.facets
  effort : q.effort = p.effort
  usedRemote : q.usedRemote = p.usedRemote
  truncated : q.truncated = p.truncated

/-- The plans whose issues are well typed, with distinct files and distinct names in the facets. -/
structure WellTyped (p : Plan) : Prop where
  issues : ∀ i ∈ p.all, i.WellTyped
  distinct : (p.groups.map (·.path)).Nodup
  paths : ∀ g ∈ p.groups, ∀ c ∈ g.path, Text.isScalar c = true
  facets : p.facets.Distinct

/-- The plans whose numbers can be written. -/
structure Fits (p : Plan) : Prop where
  issues : ∀ i ∈ p.all, i.Fits
  total : Numeral.fits p.totalIssues = true
  facets : p.facets.Fits
  effort : Numeral.fits p.effort = true

/-! ### The plan for a list of issues -/

theorem paths_eq (issues : List Issue) :
    paths issues = ((issues.filter (·.isLocatable)).map (·.path)).eraseDups := by
  rw [← foldl_new_eq_eraseDups, List.foldl_map]
  rfl

theorem nodup_paths (issues : List Issue) : (paths issues).Nodup := by
  rw [paths_eq]
  exact nodup_eraseDups _

theorem mem_paths_iff {issues : List Issue} {t : Text} :
    t ∈ paths issues ↔ ∃ i ∈ issues, i.isLocatable = true ∧ i.path = t := by
  rw [paths_eq, List.mem_eraseDups, List.mem_map]
  simp only [List.mem_filter, and_assoc]

theorem mem_of_mem_all_ofIssues {issues : List Issue} {facets : Option Facets}
    {usedRemote truncated : Bool} {i : Issue}
    (h : i ∈ (ofIssues issues facets usedRemote truncated).all) : i ∈ issues := by
  rcases List.mem_append.1 h with h | h
  · obtain ⟨g, hg, hi⟩ := List.mem_flatMap.1 h
    obtain ⟨t, -, rfl⟩ := List.mem_map.1 hg
    exact (List.mem_filter.1 hi).1
  · exact (List.mem_filter.1 h).1

/-- The plan for well-typed issues is well typed. -/
theorem wellTyped_ofIssues {issues : List Issue} (hissues : ∀ i ∈ issues, i.WellTyped)
    {facets : Option Facets} (hfacets : ∀ f ∈ facets, f.Distinct) (usedRemote truncated : Bool) :
    (ofIssues issues facets usedRemote truncated).WellTyped where
  issues i hi := hissues i (mem_of_mem_all_ofIssues hi)
  distinct := by
    have hpaths : ((ofIssues issues facets usedRemote truncated).groups.map (·.path)) =
        paths issues := by
      rw [ofIssues, List.map_map]
      exact List.map_id _
    rw [hpaths]
    exact nodup_paths issues
  paths g hg := by
    obtain ⟨t, ht, rfl⟩ := List.mem_map.1 hg
    obtain ⟨i, hi, hlocatable, rfl⟩ := mem_paths_iff.1 ht
    obtain ⟨u, hu⟩ := Value.isText_of_isPlainText (hissues i hi).filePath
    have hplain := (hissues i hi).filePath
    rw [hu] at hplain
    have hpath : i.path = u := by
      rw [Issue.isLocatable, hu] at hlocatable
      rw [Issue.path, hu, if_pos hlocatable]
      rfl
    rw [hpath]
    exact List.all_eq_true.1 hplain
  facets := by
    cases facets with
    | none => exact Facets.distinct_ofIssues issues
    | some f => exact hfacets f rfl

/-! ### Documents -/

theorem exists_mapM_toValue {is : List Issue} (h : ∀ i ∈ is, i.WellTyped) :
    ∃ js, List.Forall₂ Issue.Agrees is js ∧ is.mapM (·.toValue) = .ok (js.map (·.document)) := by
  induction is with
  | nil => exact ⟨[], .nil, rfl⟩
  | cons i is ih =>
      obtain ⟨j, hagrees, hvalue, -⟩ := Issue.exists_document (h i (List.mem_cons_self ..))
      obtain ⟨js, hrest, hvalues⟩ := ih fun k hk => h k (List.mem_cons_of_mem i hk)
      refine ⟨j :: js, .cons hagrees hrest, ?_⟩
      simp [List.mapM_cons, hvalue, hvalues, bind, Except.bind, pure, Except.pure]

theorem issuesOf_list {js : List Issue} (h : ∀ j ∈ js, j.WellTyped) :
    issuesOf (.list (js.map (·.document))) = .ok js := by
  have hmapM : (js.map (·.document)).mapM Issue.ofValue = .ok js := by
    induction js with
    | nil => rfl
    | cons j js ih =>
        have hj := Issue.ofValue_document (h j (List.mem_cons_self ..))
        have hjs := ih fun k hk => h k (List.mem_cons_of_mem j hk)
        simp [List.mapM_cons, hj, hjs, bind, Except.bind, pure, Except.pure]
  simpa [issuesOf, Value.elements, bind, Except.bind] using hmapM

theorem exists_mapM_groups {gs : List FileGroup} (h : ∀ g ∈ gs, ∀ i ∈ g.issues, i.WellTyped) :
    ∃ hs : List FileGroup, List.Forall₂ FileGroup.Agrees gs hs ∧
      gs.mapM (fun g => do return (g.path, Value.list (← g.issues.mapM (·.toValue)))) =
        Except.ok (ε := Fault) (hs.map fun g => (g.path, .list (g.issues.map (·.document)))) := by
  induction gs with
  | nil => exact ⟨[], .nil, rfl⟩
  | cons g gs ih =>
      obtain ⟨js, hagrees, hvalues⟩ := exists_mapM_toValue (h g (List.mem_cons_self ..))
      obtain ⟨hs, hrest, hgroups⟩ := ih fun k hk => h k (List.mem_cons_of_mem g hk)
      refine ⟨⟨g.path, js⟩ :: hs, .cons ⟨rfl, hagrees⟩ hrest, ?_⟩
      simp only [bind, Except.bind, pure, Except.pure] at hgroups ⊢
      simp [List.mapM_cons, hvalues, hgroups, bind, Except.bind, pure, Except.pure]

/-- The document of a plan with the tags of its issues in the order in which they stand. -/
def document (p : Plan) : Value :=
  .record [
    ("total_issues", .nat p.totalIssues),
    ("issues_by_file", .obj (p.groups.map fun g => (g.path, .list (g.issues.map (·.document))))),
    ("unlocatable", .list (p.unlocatable.map (·.document))),
    ("facets", p.facets.toValue),
    ("total_effort_minutes", .int p.effort),
    ("used_remote_source", .bool p.usedRemote),
    ("truncated", .bool p.truncated)]

namespace Agrees

variable {p q : Plan}

theorem symm (h : p.Agrees q) : q.Agrees p where
  groups := h.groups.flip.imp fun _ _ => FileGroup.Agrees.symm
  unlocatable := h.unlocatable.flip.imp fun _ _ => Issue.Agrees.symm
  facets := h.facets.symm
  effort := h.effort.symm
  usedRemote := h.usedRemote.symm
  truncated := h.truncated.symm

theorem totalIssues (h : p.Agrees q) : q.totalIssues = p.totalIssues := by
  rw [Plan.totalIssues, Plan.totalIssues, FileGroup.countOver_of_agrees h.groups,
    h.unlocatable.length_eq]

/-- The issues of plans that agree are in step. -/
theorem all (h : p.Agrees q) : List.Forall₂ Issue.Agrees p.all q.all := by
  have hlocated (gs hs : List FileGroup) (h : List.Forall₂ FileGroup.Agrees gs hs) :
      List.Forall₂ Issue.Agrees (gs.flatMap (·.issues)) (hs.flatMap (·.issues)) := by
    induction h with
    | nil => exact .nil
    | cons hg _ ih => exact List.rel_append hg.issues ih
  exact List.rel_append (hlocated _ _ h.groups) h.unlocatable

theorem forall_all {P : Issue → Prop} (hP : ∀ {i j : Issue}, i.Agrees j → P i → P j)
    (h : p.Agrees q) (hp : ∀ i ∈ p.all, P i) : ∀ j ∈ q.all, P j := by
  have hstep (is js : List Issue) (h : List.Forall₂ Issue.Agrees is js) (hp : ∀ i ∈ is, P i) :
      ∀ j ∈ js, P j := by
    induction h with
    | nil => exact hp
    | cons hij _ ih =>
        rw [List.forall_mem_cons] at hp ⊢
        exact ⟨hP hij hp.1, ih hp.2⟩
  exact hstep _ _ h.all hp

theorem wellTyped (h : p.Agrees q) (hp : p.WellTyped) : q.WellTyped where
  issues := h.forall_all Issue.Agrees.wellTyped hp.issues
  distinct := by
    rw [FileGroup.paths_of_agrees h.groups]
    exact hp.distinct
  paths := by
    have hmap : ∀ t ∈ q.groups.map (·.path), ∀ c ∈ t, Text.isScalar c = true := by
      rw [FileGroup.paths_of_agrees h.groups, List.forall_mem_map]
      exact hp.paths
    rwa [List.forall_mem_map] at hmap
  facets := by
    rw [h.facets]
    exact hp.facets

theorem fits (h : p.Agrees q) (hp : p.Fits) : q.Fits where
  issues := h.forall_all Issue.Agrees.fits hp.issues
  total := by
    rw [h.totalIssues]
    exact hp.total
  facets := by
    rw [h.facets]
    exact hp.facets
  effort := by
    rw [h.effort]
    exact hp.effort

end Agrees

theorem mem_all_of_mem_group {p : Plan} {g : FileGroup} (hg : g ∈ p.groups) {i : Issue}
    (hi : i ∈ g.issues) : i ∈ p.all :=
  List.mem_append_left _ (List.mem_flatMap.2 ⟨g, hg, hi⟩)

theorem mem_all_of_mem_unlocatable {p : Plan} {i : Issue} (hi : i ∈ p.unlocatable) : i ∈ p.all :=
  List.mem_append_right _ hi

theorem mapM_groups {hs : List FileGroup} (h : ∀ g ∈ hs, ∀ i ∈ g.issues, i.WellTyped) :
    (hs.map fun g => (g.path, Value.list (g.issues.map (·.document)))).mapM
      (fun (path, items) => do return FileGroup.mk path (← issuesOf items)) = .ok hs := by
  induction hs with
  | nil => rfl
  | cons g hs ih =>
      have hg := issuesOf_list (h g (List.mem_cons_self ..))
      have hrest := ih fun k hk => h k (List.mem_cons_of_mem g hk)
      simp only [bind, Except.bind, pure, Except.pure] at hrest ⊢
      simp [List.mapM_cons, hg, hrest, bind, Except.bind, pure, Except.pure]

theorem ofValue_document {p : Plan} (h : p.WellTyped) : ofValue p.document = .ok p := by
  have hgroups := mapM_groups fun g hg i hi => h.issues i (mem_all_of_mem_group hg hi)
  have hunlocatable := issuesOf_list fun i hi => h.issues i (mem_all_of_mem_unlocatable hi)
  have hfacets := Facets.ofValue_toValue h.facets
  simp only [ofValue, ok_bind,
    show p.document.getD "issues_by_file" (.obj []) =
      .ok (.obj (p.groups.map fun g => (g.path, .list (g.issues.map (·.document))))) from rfl,
    show p.document.getD "unlocatable" (.list []) =
      .ok (.list (p.unlocatable.map (·.document))) from rfl,
    show p.document.getD "facets" (.obj []) = .ok p.facets.toValue from rfl,
    show p.document.getD "total_effort_minutes" (.nat 0) = .ok (.int p.effort) from rfl,
    show p.document.getD "used_remote_source" (.bool false) = .ok (.bool p.usedRemote) from rfl,
    show p.document.getD "truncated" (.bool false) = .ok (.bool p.truncated) from rfl,
    Value.fields, hgroups, hunlocatable, hfacets]
  rfl

theorem isPlain_issues {is : List Issue} (h : ∀ i ∈ is, i.WellTyped) (hfits : ∀ i ∈ is, i.Fits)
    (depth : Nat) : (Value.list (is.map (·.document))).IsPlain (depth + 3) := by
  refine .list fun v hv => ?_
  obtain ⟨i, hi, rfl⟩ := List.mem_map.1 hv
  exact Issue.isPlain_document (h i hi) (hfits i hi) depth

theorem isPlain_document {p : Plan} (h : p.WellTyped) (hfits : p.Fits) (depth : Nat) :
    p.document.IsPlain (depth + 5) := by
  have hgroups : (Value.obj (p.groups.map fun g =>
      (g.path, .list (g.issues.map (·.document))))).IsPlain (depth + 4) := by
    refine .obj ?_ ?_ ?_
    · rw [List.map_map]
      exact h.distinct
    · rw [List.forall_mem_map]
      exact h.paths
    · rw [List.forall_mem_map]
      exact fun g hg => isPlain_issues (fun i hi => h.issues i (mem_all_of_mem_group hg hi))
        (fun i hi => hfits.issues i (mem_all_of_mem_group hg hi)) depth
  have hunlocatable := isPlain_issues (fun i hi => h.issues i (mem_all_of_mem_unlocatable hi))
    (fun i hi => hfits.issues i (mem_all_of_mem_unlocatable hi)) (depth + 1)
  refine Value.isPlain_record (by simp) ?_
  simp only [List.forall_mem_cons, List.not_mem_nil, false_implies, implies_true, and_true]
  exact ⟨.int hfits.total, hgroups, hunlocatable,
    Facets.isPlain_toValue h.facets hfits.facets (depth + 2), .int hfits.effort, .bool _, .bool _⟩

/-- A plan has a document, from which a plan that agrees with it is read. -/
theorem exists_document {p : Plan} (h : p.WellTyped) :
    ∃ q, p.Agrees q ∧ p.toValue = .ok q.document ∧ ofValue q.document = .ok q := by
  obtain ⟨groups, hgroups, hgroupValues⟩ :=
    exists_mapM_groups fun g hg i hi => h.issues i (mem_all_of_mem_group hg hi)
  obtain ⟨unlocatable, hunlocatable, hvalues⟩ :=
    exists_mapM_toValue fun i hi => h.issues i (mem_all_of_mem_unlocatable hi)
  have hagrees : p.Agrees { p with groups, unlocatable } := ⟨hgroups, hunlocatable, rfl, rfl, rfl, rfl⟩
  refine ⟨_, hagrees, ?_, ofValue_document (hagrees.wellTyped h)⟩
  rw [document, hagrees.totalIssues]
  simp only [bind, Except.bind] at hgroupValues
  simp only [toValue, bind, Except.bind, hgroupValues, hvalues]
  rfl

end Plan

end Mend
