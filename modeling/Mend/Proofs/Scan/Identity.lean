import Mend.Proofs.Plan.File
import Mend.Proofs.Scan.Independence

/-!
# Keys identify issues

No two issues of a local scan have the same key, since all their keys come from one factory and no
factory gives out a key twice. Every issue lies in a file. So whoever asks a plan for the key of one
of its issues is given this issue and no other.

## Main statements

* `Plan.find_singleton` — if keys are distinct, the key of an issue picks this issue alone.
* `Scan.keys_identify` — what the keys of a local scan are good for.
-/

namespace Mend

open Value

/-! ## Picking one issue -/

namespace Plan

variable {issues : List Issue} {i : Issue}

/-- If keys are distinct, the key of an issue chooses this issue alone. -/
theorem chosen_singleton (htext : ∀ j ∈ issues, j.key.IsText) (hdistinct : (issues.map (·.key)).Nodup)
    (hi : i ∈ issues) : chosen [i.key] issues = [i] := by
  have hwanted : ∀ j ∈ issues, isWanted [i.key] j.key = true ↔ j.key = i.key := by
    intro j hj
    obtain ⟨a, ha⟩ := htext i hi
    obtain ⟨b, hb⟩ := htext j hj
    rw [ha, hb, isWanted, List.any_cons, List.any_nil, Bool.or_false, same_text, beq_iff_eq,
      Value.text.injEq, eq_comm]
  have hnodup : (chosen [i.key] issues).Nodup := (List.Nodup.of_map _ hdistinct).filter _
  refine List.perm_singleton.1 ((List.perm_ext_iff_of_nodup hnodup (List.nodup_singleton i)).2 ?_)
  intro j
  rw [chosen, List.mem_filter, List.mem_singleton]
  constructor
  · rintro ⟨hj, hkey⟩
    exact List.inj_on_of_nodup_map hdistinct hj hi ((hwanted j hj).1 hkey)
  · rintro rfl
    exact ⟨hi, (hwanted j hi).2 rfl⟩

/-- If keys are distinct texts, the key of an issue that lies in a file picks this issue alone, and
all that is asked for is found. -/
theorem find_singleton (htext : ∀ j ∈ issues, j.key.IsText) (hdistinct : (issues.map (·.key)).Nodup)
    (hi : i ∈ issues) (hlocatable : i.isLocatable = true) (facets : Option Facets)
    (usedRemote truncated : Bool) :
    (ofIssues issues facets usedRemote truncated).find (some [i.key]) =
      .ok { groups := [⟨i.path, [i]⟩] } := by
  set p := ofIssues issues facets usedRemote truncated with hp
  have hchosen (keep : Issue → Bool) :
      chosen [i.key] (issues.filter keep) = if keep i then [i] else [] := by
    rw [chosen, List.filter_comm]
    show (chosen [i.key] issues).filter keep = _
    rw [chosen_singleton htext hdistinct hi, List.filter_cons]
    rfl
  have hpath : i.path ∈ paths issues := mem_paths_iff.2 ⟨i, hi, hlocatable, rfl⟩
  have hone : (paths issues).filter (· == i.path) = [i.path] := by
    rw [List.filter_beq, List.count_eq_one_of_mem (nodup_paths issues) hpath]
    rfl
  -- Only the file of the issue has anything that is chosen.
  have hgroups : ((p.groups.map fun g => { g with issues := chosen [i.key] g.issues }).filter
      fun g => !g.issues.isEmpty) = [⟨i.path, [i]⟩] := by
    have hgroup : ∀ t, chosen [i.key] (issues.filter fun j => j.isLocatable && j.path == t) =
        if t == i.path then [i] else [] := by
      intro t
      rw [hchosen, hlocatable, Bool.true_and, BEq.comm]
    have hempty : ∀ t, (!(if t == i.path then [i] else []).isEmpty) = (t == i.path) := by
      intro t
      cases t == i.path <;> rfl
    rw [hp, ofIssues, List.map_map, List.filter_map]
    simp only [Function.comp_def, hgroup, hempty, hone, List.map_cons, List.map_nil, beq_self_eq_true,
      if_true]
  have hunlocatable : chosen [i.key] p.unlocatable = [] := by
    rw [hp, ofIssues, hchosen, hlocatable]
    rfl
  have hmissing : missing [i.key] p.all = [] := by
    have hall : i ∈ p.all := by
      refine List.mem_append_left _ (List.mem_flatMap.2 ⟨_, List.mem_map_of_mem hpath, ?_⟩)
      simp [hi, hlocatable]
    obtain ⟨a, ha⟩ := htext i hi
    have hsame : i.key.same i.key = true := by rw [ha, same_text, beq_self_eq_true]
    have hany : (p.all.any fun j => i.key.same j.key) = true := List.any_eq_true.2 ⟨i, hall, hsame⟩
    rw [missing, List.filter_cons, hany]
    rfl
  have hmembers : (Value.list [i.key]).members = .ok [i.key] :=
    members_list (List.forall_mem_singleton.2 (htext i hi))
  have hatomic : p.all.find? (fun j => !j.key.isAtomic) = none :=
    find?_isAtomic_eq_none fun j hj => htext j (mem_of_mem_all_ofIssues hj)
  rw [find, hmembers, ok_bind, hatomic]
  dsimp only
  rw [hgroups, hmissing, hunlocatable]
  rfl

/-- The plan that is made for some issues is the plan for them. -/
theorem eq_of_build {σ : Type} {facets : Option Facets} {usedRemote truncated : Bool} {w : World σ}
    {q : Plan} (h : ((build issues facets usedRemote truncated).run w).1 = .ok q) :
    q = ofIssues issues facets usedRemote truncated := by
  rw [run_build] at h
  split at h
  · exact (Except.ok.inj h).symm
  · cases h

end Plan

namespace Scan

variable {σ : Type} {s : LocalSettings} {projectDir : Path} {detectors : List Detector}
  {model : Option (DeepScanner σ)} {selectors : Selectors} {w : World σ} {r : ScanResult}

/-! ## Issues of a local scan -/

theorem capBySeverity_sublist (issues : List Issue) (limit : Int) :
    (capBySeverity issues limit).Sublist issues := by
  have hfst : (issues.zip (List.range issues.length)).map (·.1) = issues :=
    List.map_fst_zip (by simp)
  conv_rhs => rw [← hfst]
  exact List.filter_sublist.map _

theorem issues_capped_sublist (selectors : Selectors) (issues : List Issue) :
    (capped selectors issues).issues.Sublist issues := by
  unfold capped
  dsimp only
  split
  · exact capBySeverity_sublist ..
  · exact .refl _

/-- The keys of the issues of a local scan are among those that one factory gives out, and the issues
lie in files of the scan. -/
theorem issues_of_fetchLocal
    (h : ((fetchLocal s projectDir detectors model selectors).run w).1 = .ok r) :
    (∃ calls, (r.issues.map (·.key)).Sublist ((KeyFactory.given [] calls).map .text)) ∧
      ∀ i ∈ r.issues, ∃ f ∈ projectFiles s projectDir w.tree, i.filePath = .text f.path := by
  obtain ⟨found, w', hscan, rfl⟩ := exists_of_fetchLocal h
  obtain ⟨⟨calls, hkeys⟩, hfiles⟩ := numbers_scanFiles hscan
  have hkept : (capped selectors (found.filter selectors.accepts)).issues.Sublist found :=
    (issues_capped_sublist ..).trans List.filter_sublist
  exact ⟨⟨calls, (hkept.map _).trans hkeys⟩, fun i hi => hfiles i (hkept.subset hi)⟩

/-- Keys identify issues. A factory gives out distinct keys, each of which names the file and the line
that it was given out for, whatever their texts are. So the issues of a local scan have distinct keys;
and in the plan for them, the key of an issue picks this issue and no other, with nothing that is
unknown or that lies in no file. -/
theorem keys_identify :
    (∀ (keys : KeyFactory) (calls : List (Text × Int)),
      (keys.given calls).Nodup ∧ (keys.given calls).map KeyFactory.placeOf = calls) ∧
    ∀ {σ : Type} {s : LocalSettings} {projectDir : Path} {detectors : List Detector}
      {model : Option (DeepScanner σ)} {selectors : Selectors} {w : World σ} {r : ScanResult},
      ((fetchLocal s projectDir detectors model selectors).run w).1 = .ok r →
      (r.issues.map (·.key)).Nodup ∧
      (w.tree.IsProper → ∀ usedRemote,
        let p := Plan.ofIssues r.issues r.facets usedRemote r.truncated
        (∀ (w' : World σ) q,
          ((Plan.build r.issues r.facets usedRemote r.truncated).run w').1 = .ok q → q = p) ∧
        ∀ i ∈ r.issues, p.find (some [i.key]) = .ok { groups := [⟨i.path, [i]⟩] }) := by
  refine ⟨fun keys calls => ⟨KeyFactory.nodup_given keys calls, KeyFactory.map_placeOf_given keys calls⟩,
    ?_⟩
  intro σ s projectDir detectors model selectors w r h
  obtain ⟨⟨calls, hkeys⟩, hfiles⟩ := issues_of_fetchLocal h
  have htext : ∀ i ∈ r.issues, i.key.IsText := by
    intro i hi
    obtain ⟨key, -, hkey⟩ := List.mem_map.1 (hkeys.subset (List.mem_map_of_mem hi))
    exact ⟨key, hkey.symm⟩
  have hdistinct : (r.issues.map (·.key)).Nodup :=
    ((KeyFactory.nodup_given [] calls).map fun _ _ => Value.text.inj).sublist hkeys
  refine ⟨hdistinct, fun hproper usedRemote => ⟨fun w' q hbuild => ?_, fun i hi => ?_⟩⟩
  · exact Plan.eq_of_build hbuild
  · obtain ⟨f, hf, hpath⟩ := hfiles i hi
    have hlocatable : i.isLocatable = true := by
      rw [Issue.isLocatable, hpath]
      simpa [isGiven] using path_ne_nil hproper hf
    exact Plan.find_singleton htext hdistinct hi hlocatable r.facets usedRemote r.truncated

/-- A model finds fault with the line in which the program ends itself. Both findings are on the same
line of the same file, and each is picked by its own key. -/
theorem keys_identify_exit :
    exitTree.IsProper ∧ ∃ r,
      ((fetchLocal thorough {} Detector.standard (some pedant) {}).run
        { tree := exitTree, extra := () }).1 = .ok r ∧
      r.issues.length = 2 ∧ (r.issues.map (·.key)).Nodup ∧
      ∀ i ∈ r.issues, (Plan.ofIssues r.issues r.facets false r.truncated).find (some [i.key]) =
        .ok { groups := [⟨i.path, [i]⟩] } := by
  obtain ⟨-, r, w', hrun, -, hlength⟩ := run_fetchLocal_exitTree
  have h := congrArg Prod.fst hrun
  obtain ⟨hdistinct, hplan⟩ := keys_identify.2 h
  exact ⟨isProper_exitTree, r, h, hlength, hdistinct, (hplan isProper_exitTree false).2⟩

end Scan

end Mend
