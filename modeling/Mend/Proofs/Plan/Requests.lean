import Mend.Proofs.Json.Sets
import Mend.Proofs.Plan.Grouping

/-!
# Requests by key

Whoever asks for issues by their keys gets an answer in three parts: the issues that lie in a file, by
file; the keys of issues that lie in no file; and the keys that no issue has. The parts leave nothing
out, and the third one has nothing in common with the others. The same key can occur in many places of
a plan, and many times in a request; only whether it is asked for matters.

## Main definitions

* `Plan.isRequested`, `Plan.entries` — issues that are asked for, and issues with their files.
* `Selection.Answers` — the selections that answer a request.

## Main statements

* `Plan.exists_unknown` — the selection for a request.
* `Plan.answers_answer` — it answers the request.
* `Plan.find_partitions` — what is found for a request.
-/

namespace Mend

open Value

namespace Plan

variable {p : Plan} {wanted other unknown : List Text}

/-- Whether the key of an issue is one of those that are asked for. -/
def isRequested (wanted : List Text) (i : Issue) : Bool :=
  match i.key with
  | .text k => wanted.contains k
  | _ => false

/-- The issues of some groups, each with the file it lies in. -/
def entries (groups : List FileGroup) : List (Text × Issue) :=
  groups.flatMap fun g => g.issues.map fun i => (g.path, i)

/-- The selection of the issues that are asked for, if `unknown` are the keys that no issue has. -/
def answer (p : Plan) (wanted unknown : List Text) : Selection where
  groups := (p.groups.map fun g => { g with issues := g.issues.filter (isRequested wanted) }).filter
    fun g => !g.issues.isEmpty
  unlocatable := (p.unlocatable.filter (isRequested wanted)).map (·.key)
  unknown := unknown.map .text

end Plan

/-- The selections that answer a request for some keys. -/
structure Selection.Answers (s : Selection) (p : Plan) (wanted : List Text) : Prop where
  /-- What is asked for and lies in a file is there, in the order of the plan, and nothing else. -/
  located : Plan.entries s.groups =
    (Plan.entries p.groups).filter fun e => Plan.isRequested wanted e.2
  paths : (s.groups.map (·.path)).Sublist (p.groups.map (·.path))
  nonempty : ∀ g ∈ s.groups, g.issues ≠ []
  unlocatable : s.unlocatable = (p.unlocatable.filter (Plan.isRequested wanted)).map (·.key)
  /-- The keys that no issue has come in ascending order, each once. -/
  unknown : ∃ names : List Text, s.unknown = names.map .text ∧ names.Pairwise (· < ·) ∧
    ∀ k, k ∈ names ↔ k ∈ wanted ∧ ∀ i ∈ p.all, i.key ≠ .text k
  covered : ∀ k ∈ wanted, (∃ e ∈ Plan.entries s.groups, e.2.key = .text k) ∨
    Value.text k ∈ s.unlocatable ∨ Value.text k ∈ s.unknown
  disjoint : ∀ v ∈ s.unknown, (∀ e ∈ Plan.entries s.groups, e.2.key ≠ v) ∧ v ∉ s.unlocatable

namespace Plan

variable {p : Plan} {wanted other unknown : List Text}

/-! ## Requested issues -/

theorem isRequested_iff {i : Issue} :
    isRequested wanted i = true ↔ ∃ k ∈ wanted, i.key = .text k := by
  unfold isRequested
  cases hkey : i.key <;> simp

theorem isWanted_texts (wanted : List Text) (i : Issue) :
    isWanted (wanted.eraseDups.map .text) i.key = isRequested wanted i := by
  rw [Bool.eq_iff_iff, isRequested_iff, isWanted, List.any_map, List.any_eq_true]
  constructor
  · rintro ⟨k, hk, hsame⟩
    exact ⟨k, List.mem_eraseDups.1 hk, same_text_iff.1 hsame⟩
  · rintro ⟨k, hk, hkey⟩
    exact ⟨k, List.mem_eraseDups.2 hk, same_text_iff.2 hkey⟩

theorem isRequested_congr (h : ∀ k, k ∈ other ↔ k ∈ wanted) :
    isRequested other = isRequested wanted := by
  funext i
  rw [Bool.eq_iff_iff, isRequested_iff, isRequested_iff]
  simp only [h]

theorem mem_entries {groups : List FileGroup} {e : Text × Issue} :
    e ∈ entries groups ↔ ∃ g ∈ groups, e.1 = g.path ∧ e.2 ∈ g.issues := by
  obtain ⟨t, i⟩ := e
  simp only [entries, List.mem_flatMap, List.mem_map, Prod.mk.injEq]
  constructor
  · rintro ⟨g, hg, j, hj, rfl, rfl⟩
    exact ⟨g, hg, rfl, hj⟩
  · rintro ⟨g, hg, rfl, hi⟩
    exact ⟨g, hg, i, hi, rfl, rfl⟩

/-- Leaving out issues, and then the groups of which nothing is left, is leaving out entries. -/
theorem entries_filter (groups : List FileGroup) (q : Issue → Bool) :
    entries ((groups.map fun g => { g with issues := g.issues.filter q }).filter
      fun g => !g.issues.isEmpty) = (entries groups).filter fun e => q e.2 := by
  induction groups with
  | nil => rfl
  | cons g groups ih =>
      have hgroup : (g.issues.filter q).map (fun i => (g.path, i)) =
          (g.issues.map fun i => (g.path, i)).filter fun e => q e.2 := by
        rw [List.filter_map]
        rfl
      have hcons (g : FileGroup) (gs : List FileGroup) :
          entries (g :: gs) = (g.issues.map fun i => (g.path, i)) ++ entries gs :=
        List.flatMap_cons ..
      rw [hcons, List.filter_append, ← ih, ← hgroup, List.map_cons, List.filter_cons]
      dsimp only
      cases hleft : g.issues.filter q with
      | nil => rfl
      | cons i rest => exact hcons ..

/-! ## Answers -/

/-- A request for keys that are texts is answered, unless a key of the plan cannot be compared. -/
theorem exists_unknown (p : Plan) (wanted : List Text) :
    ∃ unknown : List Text, unknown.Pairwise (· < ·) ∧
      (∀ k, k ∈ unknown ↔ k ∈ wanted ∧ ∀ i ∈ p.all, i.key ≠ .text k) ∧
      p.find (some (wanted.map .text)) =
        match p.all.find? fun i => !i.key.isAtomic with
        | some i => .error (.wrongKind (.cat ["unhashable type: '", i.key.kind, "'"]))
        | none => .ok (p.answer wanted unknown) := by
  let left := wanted.eraseDups.filter fun k => !p.all.any fun i => same (.text k) i.key
  have hleft (k : Text) : k ∈ left ↔ k ∈ wanted ∧ ∀ i ∈ p.all, i.key ≠ .text k := by
    simp [left, ← same_text_iff]
  obtain ⟨unknown, hunknown, hsorted, hperm⟩ :=
    ascending_texts ((nodup_eraseDups wanted).filter fun k => !p.all.any fun i => same (.text k) i.key)
  refine ⟨unknown, hsorted, fun k => hperm.mem_iff.trans (hleft k), ?_⟩
  have hmissing : missing (wanted.eraseDups.map .text) p.all = left.map .text := by
    rw [missing, List.filter_map]
    rfl
  have hchosen (issues : List Issue) :
      chosen (wanted.eraseDups.map .text) issues = issues.filter (isRequested wanted) :=
    List.filter_congr fun i _ => isWanted_texts wanted i
  simp only [find, members_texts, ok_bind, hmissing, hchosen]
  cases p.all.find? fun i => !i.key.isAtomic with
  | some i => rfl
  | none =>
      dsimp only
      rw [show ascending (left.map .text) = _ from hunknown]
      rfl

theorem answers_answer (hsorted : unknown.Pairwise (· < ·))
    (hunknown : ∀ k, k ∈ unknown ↔ k ∈ wanted ∧ ∀ i ∈ p.all, i.key ≠ .text k) :
    (p.answer wanted unknown).Answers p wanted := by
  have hlocated : entries (p.answer wanted unknown).groups =
      (entries p.groups).filter fun e => isRequested wanted e.2 := entries_filter ..
  have hall {e : Text × Issue} (he : e ∈ entries p.groups) : e.2 ∈ p.all := by
    obtain ⟨g, hg, -, he⟩ := mem_entries.1 he
    exact mem_all_of_mem_group hg he
  refine ⟨hlocated, ?_, ?_, rfl, ⟨unknown, rfl, hsorted, hunknown⟩, fun k hk => ?_, ?_⟩
  · have hpaths : p.groups.map (·.path) =
        (p.groups.map fun g => { g with issues := g.issues.filter (isRequested wanted) }).map
          (·.path) := by
      rw [List.map_map]
      rfl
    rw [hpaths]
    exact List.filter_sublist.map _
  · intro g hg
    have hne := (List.mem_filter.1 hg).2
    simpa using hne
  · by_cases hknown : ∀ i ∈ p.all, i.key ≠ .text k
    · exact .inr (.inr (List.mem_map_of_mem ((hunknown k).2 ⟨hk, hknown⟩)))
    · push Not at hknown
      obtain ⟨i, hi, hkey⟩ := hknown
      have hrequested : isRequested wanted i = true := isRequested_iff.2 ⟨k, hk, hkey⟩
      rcases List.mem_append.1 hi with hi | hi
      · obtain ⟨g, hg, hi⟩ := List.mem_flatMap.1 hi
        refine .inl ⟨(g.path, i), ?_, hkey⟩
        rw [hlocated]
        exact List.mem_filter.2 ⟨mem_entries.2 ⟨g, hg, rfl, hi⟩, hrequested⟩
      · exact .inr (.inl (hkey ▸ List.mem_map_of_mem (List.mem_filter.2 ⟨hi, hrequested⟩)))
  · intro v hv
    obtain ⟨k, hk, rfl⟩ := List.mem_map.1 hv
    have hnone := ((hunknown k).1 hk).2
    refine ⟨fun e he => ?_, fun hmem => ?_⟩
    · rw [hlocated] at he
      exact hnone e.2 (hall (List.mem_filter.1 he).1)
    · obtain ⟨i, hi, hkey⟩ := List.mem_map.1 hmem
      exact hnone i (mem_all_of_mem_unlocatable (List.mem_filter.1 hi).1) hkey

/-- The answer depends on nothing but which keys are asked for. -/
theorem find_congr (p : Plan) (h : ∀ k, k ∈ other ↔ k ∈ wanted) :
    p.find (some (other.map .text)) = p.find (some (wanted.map .text)) := by
  obtain ⟨unknown, hsorted, hunknown, hfind⟩ := exists_unknown p wanted
  obtain ⟨unknown', hsorted', hunknown', hfind'⟩ := exists_unknown p other
  have hsame : unknown' = unknown :=
    hsorted'.eq_of_mem_iff hsorted fun k => by rw [hunknown, hunknown', h]
  rw [hfind, hfind', hsame, answer, answer, isRequested_congr h]

/-- Whoever asks a new plan for all its keys gets all its groups. -/
theorem find_all {issues : List Issue} (facets : Option Facets) (usedRemote truncated : Bool)
    (hkeys : ∀ i ∈ issues, i.key.IsText) :
    let p := ofIssues issues facets usedRemote truncated
    ∃ s, p.find (some (p.all.map (·.key))) = .ok s ∧ s.groups = p.groups := by
  intro p
  have htext : ∀ i ∈ p.all, i.key.IsText := fun i hi => hkeys i (mem_of_mem_all_ofIssues hi)
  obtain ⟨keys, hall⟩ : ∃ keys : List Text, p.all.map (·.key) = keys.map .text :=
    exists_texts (List.forall_mem_map.2 htext)
  obtain ⟨unknown, -, -, hfind⟩ := exists_unknown p keys
  rw [find?_isAtomic_eq_none htext] at hfind
  refine ⟨_, hall ▸ hfind, ?_⟩
  -- Nothing is left out of a group, and no group was empty before.
  have hgroups : p.groups.map (fun g => { g with issues := g.issues.filter (isRequested keys) }) =
      p.groups := by
    refine (List.map_congr_left fun g hg => ?_).trans (List.map_id _)
    have hissues : g.issues.filter (isRequested keys) = g.issues := by
      rw [List.filter_eq_self]
      intro i hi
      have hkey : i.key ∈ keys.map Value.text := hall ▸ List.mem_map_of_mem (mem_all_of_mem_group hg hi)
      obtain ⟨k, hk, hkey⟩ := List.mem_map.1 hkey
      exact isRequested_iff.2 ⟨k, hk, hkey.symm⟩
    rw [hissues]
    rfl
  rw [answer, hgroups, List.filter_eq_self]
  intro g hg
  simpa using ((accounts_ofIssues issues).groups g hg).1

/-- What is found for a request. If all keys of the plan can be compared, the request is answered: the
issues that are asked for, the keys of those in no file, and the keys that no issue has. If some key is
a list or an object, the request fails. In both cases the order of the request does not matter, nor
does how often a key is asked for. A new plan gives the same groups if all its keys are asked for as
if none is. -/
theorem find_partitions (p : Plan) (wanted : List Text) :
    ((∀ i ∈ p.all, i.key.isAtomic = true) →
      ∃ s, p.find (some (wanted.map .text)) = .ok s ∧ s.Answers p wanted) ∧
    (∀ i, p.all.find? (fun i => !i.key.isAtomic) = some i → p.find (some (wanted.map .text)) =
      .error (.wrongKind (.cat ["unhashable type: '", i.key.kind, "'"]))) ∧
    (∀ other : List Text, (∀ k, k ∈ other ↔ k ∈ wanted) →
      p.find (some (other.map .text)) = p.find (some (wanted.map .text))) ∧
    ∀ issues facets usedRemote truncated, p = ofIssues issues facets usedRemote truncated →
      (∀ i ∈ issues, i.key.IsText) →
      ∃ s t, p.find none = .ok s ∧ p.find (some (p.all.map (·.key))) = .ok t ∧
        t.groups = s.groups := by
  obtain ⟨unknown, hsorted, hunknown, hfind⟩ := exists_unknown p wanted
  refine ⟨fun hatomic => ?_, fun i hi => ?_, fun other => find_congr p, ?_⟩
  · have hnone : p.all.find? (fun i => !i.key.isAtomic) = none := by
      rw [List.find?_eq_none]
      intro i hi
      simp [hatomic i hi]
    rw [hnone] at hfind
    exact ⟨_, hfind, answers_answer hsorted hunknown⟩
  · rw [hfind, hi]
  · rintro issues facets usedRemote truncated rfl hkeys
    obtain ⟨t, ht, hgroups⟩ := find_all facets usedRemote truncated hkeys
    exact ⟨_, t, rfl, ht, hgroups⟩

/-- A key of two issues, one of which lies in no file, is found in both places. -/
example :
    (find { groups := [⟨"A.java", [colourful]⟩, ⟨"B.java", []⟩], unlocatable := [colourful] }
      (some [.str "X", colourful.key, .str "B", .str "X"])).map
      (fun s => (s.groups.map (·.path), s.unlocatable.map (·.shown), s.unknown.map (·.shown))) =
    .ok (["A.java"], [colourful.key.shown], ["B", "X"]) := by
  rfl

end Plan

end Mend
