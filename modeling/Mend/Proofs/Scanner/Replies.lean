import Mend.Proofs.Scanner.Findings

/-!
# Honest replies

The documents with which an honest scanner answers a search: the number of all findings of the
search, the findings of one page, the components among which their files are, and the counts by
category and severity, if there are any. Such a document is read as a page that shows these findings.

## Main definitions

* `Reply.Shows` — the documents that show a page of some findings.
* `Page.Shows` — what is read from them.

## Main statements

* `pageOf_of_shows` — an honest document is read as an honest page.
-/

namespace Mend.Scanner

open Client

/-- The findings on a page, where pages are counted from one. -/
def pageSlice (fs : List Finding) (size number : Nat) : List Finding :=
  (fs.drop ((number - 1) * size)).take size

/-- A component of a reply that is a file with a name and a path. -/
structure IsFile (v : Value) (name path : Text) : Prop where
  qualifier : v.field? "qualifier" = some (.str "FIL")
  key : v.field? "key" = some (.text name)
  filled : path ≠ []
  path : v.field? "path" = some (.text path)

/-- A component of a reply that is no file. -/
def IsFolder (v : Value) : Prop :=
  ∃ qualifier, v.field? "qualifier" = some (.text qualifier) ∧ qualifier ≠ Text.ofString "FIL"

/-- A facet of a reply: how many of the findings have each value of a property, where every value is
counted that a finding has. -/
structure IsFacet {α : Type} [BEq α] (facet : Value) (property : String) (name : α → Text)
    (value : Finding → α) (fs : List Finding) : Prop where
  property : facet.field? "property" = some (.str property)
  entries : ∃ entries, facet.field? "values" = some (.list entries) ∧
    (∀ e ∈ entries, ∃ a, e.field? "val" = some (.text (name a)) ∧
      e.field? "count" = some (.nat (fs.countP (value · == a)))) ∧
    ∀ f ∈ fs, ∃ e ∈ entries, e.field? "val" = some (.text (name (value f)))

/-- A facet by category or by severity. -/
def CountsRightly (facet : Value) (fs : List Finding) : Prop :=
  IsFacet facet "types" Category.name (·.category) fs ∨
    IsFacet facet "severities" Severity.name (·.severity) fs

/-- The documents that show a page of findings, with counts if they are wanted and there are any. -/
structure Reply.Shows (d : Value) (fs : List Finding) (size number : Nat) (withFacets : Bool) :
    Prop where
  total : (∃ paging, d.field? "paging" = some paging ∧
      paging.field? "total" = some (.nat fs.length)) ∨
    (d.field? "paging" = none ∧ d.field? "total" = some (.nat fs.length))
  issues : ∃ vs, d.field? "issues" = some (.list vs) ∧
    List.Forall₂ (fun v (f : Finding) => f.Describes v) vs (pageSlice fs size number)
  components : ∃ vs, d.field? "components" = some (.list vs) ∧
    (∀ v ∈ vs, IsFolder v ∨ ∃ name path, IsFile v name path) ∧
    ∀ f ∈ pageSlice fs size number, ∀ p, f.path = some p ↔ ∃ v ∈ vs, IsFile v f.component p
  facets : withFacets = true → Omits d "facets" ∨
    ∃ facets, d.field? "facets" = some (.list facets) ∧ ∀ facet ∈ facets, CountsRightly facet fs

/-- A page that shows findings: it holds the documents of a slice of them, knows their files, and
knows of no severity that it has no findings although it has. -/
structure Page.Shows (p : Page) (fs : List Finding) (size number : Nat) : Prop where
  total : p.total = fs.length
  issues : ∃ vs, p.issues = .list vs ∧
    List.Forall₂ (fun v (f : Finding) => f.Describes v) vs (pageSlice fs size number)
  paths : ∀ f ∈ pageSlice fs size number,
    pathOf p.components (.text f.component) = .ok (.text (f.path.getD []))
  facets : ∀ s, isKnownEmpty p.facets s = true → ∀ f ∈ fs, f.severity ≠ s

/-! ## Components -/

/-- What is noted of some components: the paths of the files among them. -/
structure Notes (known : List (Value × Value)) (vs : List Value) : Prop where
  sound : ∀ e ∈ known, ∃ name path, e = (.text name, .text path) ∧ ∃ v ∈ vs, IsFile v name path
  complete : ∀ v ∈ vs, ∀ name path, IsFile v name path → ∃ e ∈ known, e.1 = .text name

theorem IsFile.unique {v : Value} {name name' path path' : Text} (h : IsFile v name path)
    (h' : IsFile v name' path') : name = name' ∧ path = path' := by
  have hkey := h.key.symm.trans h'.key
  have hpath := h.path.symm.trans h'.path
  simp only [Option.some.injEq, Value.text.injEq] at hkey hpath
  exact ⟨hkey, hpath⟩

theorem IsFolder.not_isFile {v : Value} (h : IsFolder v) (name path : Text) : ¬IsFile v name path := by
  obtain ⟨qualifier, hqualifier, hne⟩ := h
  intro hfile
  have heq := hqualifier.symm.trans hfile.qualifier
  exact hne (by simpa [Value.str] using heq)

/-- A component that is no file is passed over. -/
theorem noteComponent_of_isFolder {v : Value} (h : IsFolder v) (known : List (Value × Value)) :
    noteComponent known v = .ok known := by
  obtain ⟨qualifier, hqualifier, hne⟩ := h
  obtain ⟨path, hpath⟩ : ∃ path, v.getD "path" .null = .ok path := by
    cases v with
    | obj fields => exact ⟨_, rfl⟩
    | _ => cases hqualifier
  have hsame : (Value.text qualifier).same (.str "FIL") = false := by
    rw [Value.str, Value.same_text, beq_eq_false_iff_ne]
    exact hne
  simp only [noteComponent, Value.getD_of_field? hqualifier, hpath, ok_bind, hsame,
    Bool.false_and]
  rfl

theorem require_of_field? {v w : Value} {name : Text} (h : v.field? name = some w) :
    v.require name = .ok w := by
  cases v with
  | obj fields =>
      have hlookup : fields.lookup name = some w := h
      simp only [Value.require, hlookup]
  | _ => cases h

/-- The path of a file is noted, in place of one that was noted before. -/
theorem noteComponent_of_isFile {v : Value} {name path : Text} (h : IsFile v name path)
    (known : List (Value × Value)) :
    noteComponent known v = .ok (if known.any (·.1.same (.text name)) then
      known.map fun e => if e.1.same (.text name) then (e.1, .text path) else e
      else known ++ [(.text name, .text path)]) := by
  have hsame : (Value.str "FIL").same (.str "FIL") = true := by
    rw [Value.str, Value.same_text, beq_self_eq_true]
  have hgiven : (Value.text path).isGiven = true := by
    simpa [Value.isGiven] using h.filled
  have hatomic : (Value.text name).isAtomic = true := rfl
  simp only [noteComponent, Value.getD_of_field? h.qualifier, Value.getD_of_field? h.path, ok_bind,
    hsame, hgiven, Bool.and_self, if_true, require_of_field? h.key, hatomic]
  rfl

/-- What was noted holds of more components too. -/
theorem Notes.sound_append {known : List (Value × Value)} {vs : List Value} (h : Notes known vs)
    (v : Value) : ∀ e ∈ known, ∃ name path, e = (.text name, .text path) ∧
      ∃ u ∈ vs ++ [v], IsFile u name path := by
  intro e he
  obtain ⟨name, path, heq, u, hu, hfile⟩ := h.sound e he
  exact ⟨name, path, heq, u, List.mem_append_left _ hu, hfile⟩

theorem Notes.append_folder {known : List (Value × Value)} {vs : List Value} {v : Value}
    (h : Notes known vs) (hv : IsFolder v) : Notes known (vs ++ [v]) where
  sound := h.sound_append v
  complete u hu name path hfile := by
    rcases List.mem_append.1 hu with hu | hu
    · exact h.complete u hu name path hfile
    · rw [List.mem_singleton.1 hu] at hfile
      exact absurd hfile (hv.not_isFile name path)

/-- A file is known, or it is the last component. -/
theorem Notes.known_or_last {known : List (Value × Value)} {vs : List Value} {u v : Value}
    {name path name' path' : Text} (h : Notes known vs) (hv : IsFile v name path)
    (hu : u ∈ vs ++ [v]) (hfile : IsFile u name' path') :
    (∃ e ∈ known, e.1 = .text name') ∨ name' = name := by
  rcases List.mem_append.1 hu with hu | hu
  · exact .inl (h.complete u hu name' path' hfile)
  · rw [List.mem_singleton.1 hu] at hfile
    exact .inr (hfile.unique hv).1

/-- The path of a file is replaced. -/
theorem Notes.replace {known : List (Value × Value)} {vs : List Value} {v : Value}
    {name path : Text} (h : Notes known vs) (hv : IsFile v name path)
    (hknown : known.any (·.1.same (.text name)) = true) :
    Notes (known.map fun e => if e.1.same (.text name) then (e.1, .text path) else e)
      (vs ++ [v]) where
  sound e he := by
    obtain ⟨e', he', rfl⟩ := List.mem_map.1 he
    obtain ⟨name', path', rfl, hfile⟩ := h.sound_append v e' he'
    by_cases hsame : (Value.text name').same (.text name) = true
    · rw [if_pos hsame]
      rw [Value.same_text, beq_iff_eq] at hsame
      exact ⟨name', path, rfl, v, by simp, hsame ▸ hv⟩
    · rw [if_neg hsame]
      exact ⟨name', path', rfl, hfile⟩
  complete u hu name' path' hfile := by
    obtain ⟨e, he, hname⟩ : ∃ e ∈ known, e.1 = .text name' := by
      rcases h.known_or_last hv hu hfile with hfound | rfl
      · exact hfound
      · obtain ⟨e, he, hsame⟩ := List.any_eq_true.1 hknown
        obtain ⟨name'', path'', rfl, -⟩ := h.sound e he
        rw [Value.same_text, beq_iff_eq] at hsame
        exact ⟨_, he, congrArg Value.text hsame⟩
    refine ⟨_, List.mem_map_of_mem he, ?_⟩
    by_cases hsame : e.1.same (.text name) = true
    · rw [if_pos hsame]
      exact hname
    · rw [if_neg hsame]
      exact hname

/-- The path of a file is added. -/
theorem Notes.add {known : List (Value × Value)} {vs : List Value} {v : Value}
    {name path : Text} (h : Notes known vs) (hv : IsFile v name path) :
    Notes (known ++ [(.text name, .text path)]) (vs ++ [v]) where
  sound e he := by
    rcases List.mem_append.1 he with he | he
    · exact h.sound_append v e he
    · exact ⟨name, path, List.mem_singleton.1 he, v, by simp, hv⟩
  complete u hu name' path' hfile := by
    rcases h.known_or_last hv hu hfile with ⟨e, he, hname⟩ | rfl
    · exact ⟨e, List.mem_append_left _ he, hname⟩
    · exact ⟨_, List.mem_append_right _ (List.mem_singleton_self _), rfl⟩

theorem Notes.append_file {known : List (Value × Value)} {vs : List Value} {v : Value}
    {name path : Text} (h : Notes known vs) (hv : IsFile v name path) :
    Notes (if known.any (·.1.same (.text name)) then
      known.map fun e => if e.1.same (.text name) then (e.1, .text path) else e
      else known ++ [(.text name, .text path)]) (vs ++ [v]) := by
  split
  · exact h.replace hv (by assumption)
  · exact h.add hv

/-- The paths of all files among some more components are noted. -/
theorem exists_foldlM_noteComponent {vs : List Value}
    (h : ∀ v ∈ vs, IsFolder v ∨ ∃ name path, IsFile v name path) {seen : List Value}
    {known : List (Value × Value)} (hknown : Notes known seen) :
    ∃ known', vs.foldlM noteComponent known = .ok known' ∧ Notes known' (seen ++ vs) := by
  induction vs generalizing seen known with
  | nil => exact ⟨known, rfl, by simpa using hknown⟩
  | cons v vs ih =>
      have hothers : ∀ u ∈ vs, IsFolder u ∨ ∃ name path, IsFile u name path := fun u hu =>
        h u (List.mem_cons_of_mem v hu)
      rw [List.foldlM_cons, List.append_cons]
      rcases h v (List.mem_cons_self ..) with hv | ⟨name, path, hv⟩
      · rw [noteComponent_of_isFolder hv]
        exact ih hothers (hknown.append_folder hv)
      · rw [noteComponent_of_isFile hv]
        exact ih hothers (hknown.append_file hv)

/-- The path of a component is the one that was noted for it. -/
theorem pathOf_of_notes {known : List (Value × Value)} {vs : List Value} (h : Notes known vs)
    {component : Text} {path : Option Text}
    (hpath : ∀ p, path = some p ↔ ∃ v ∈ vs, IsFile v component p) :
    pathOf known (.text component) = .ok (.text (path.getD [])) := by
  have hatomic : (Value.text component).isAtomic = true := rfl
  rw [pathOf, if_pos hatomic]
  cases hfind : known.find? (·.1.same (.text component)) with
  | none =>
      have hnone : path = none := by
        cases hp : path with
        | none => rfl
        | some p =>
            obtain ⟨v, hv, hfile⟩ := (hpath p).1 hp
            obtain ⟨e, he, hname⟩ := h.complete v hv component p hfile
            have hdiffers := List.find?_eq_none.1 hfind e he
            rw [hname, Value.same_text] at hdiffers
            simp at hdiffers
      rw [hnone]
      rfl
  | some e =>
      obtain ⟨name, p, rfl, v, hv, hfile⟩ := h.sound e (List.mem_of_find?_eq_some hfind)
      have hsame := List.find?_some hfind
      rw [Value.same_text, beq_iff_eq] at hsame
      rw [(hpath p).2 ⟨v, hv, hsame ▸ hfile⟩]
      rfl

/-! ## Facets -/

theorem lookup_put {α : Type} [BEq α] [LawfulBEq α] (t : Tally α) (a b : α) (n : Int) :
    (t.put a n).lookup b = if b == a then some n else t.lookup b := by
  induction t with
  | nil =>
      rw [Tally.put, List.lookup_cons]
      cases b == a <;> rfl
  | cons e t ih =>
      obtain ⟨c, m⟩ := e
      by_cases hac : a = c
      · subst hac
        rw [Tally.put, if_pos (beq_self_eq_true a), List.lookup_cons, List.lookup_cons]
        cases b == a <;> rfl
      · rw [Tally.put, if_neg (by simpa using hac), List.lookup_cons, List.lookup_cons, ih]
        by_cases hbc : b = c
        · subst hbc
          have hba : (b == a) = false := beq_eq_false_iff_ne.2 (Ne.symm hac)
          rw [beq_self_eq_true, hba]
          rfl
        · have hbeq : (b == c) = false := beq_eq_false_iff_ne.2 hbc
          rw [hbeq]

/-- What is noted of the facets of a reply: right counts, and if there are any of severities, then
of each severity that a finding has. -/
structure Facets.AreRight (f : Facets) (fs : List Finding) : Prop where
  sound : ∀ s n, f.bySeverity.lookup s = some n → n = (fs.countP (·.severity == s) : Nat)
  complete : f.bySeverity = [] ∨ ∀ g ∈ fs, (f.bySeverity.lookup g.severity).isSome = true

/-- No severity is known to be empty that a finding has. -/
theorem Facets.AreRight.severity_ne {f : Facets} {fs : List Finding} (h : Facets.AreRight f fs)
    {s : Severity} (hempty : isKnownEmpty (some f) s = true) : ∀ g ∈ fs, g.severity ≠ s := by
  rintro g hg rfl
  simp only [isKnownEmpty, Bool.and_eq_true, Bool.not_eq_true', List.isEmpty_eq_false_iff,
    beq_iff_eq, Facets.severityCount, Tally.count] at hempty
  obtain ⟨n, hn⟩ := Option.isSome_iff_exists.1 ((h.complete.resolve_left hempty.1) g hg)
  have hpos : 0 < fs.countP (·.severity == g.severity) :=
    List.countP_pos_iff.2 ⟨g, hg, beq_self_eq_true _⟩
  have hcount := h.sound _ n hn
  rw [hn] at hempty
  have hzero : n = 0 := hempty.2
  omega

/-- Reading a facet by severity. -/
theorem noteCountIfKnown_severity {e : Value} {s : Severity} {n : Nat} (f : Facets)
    (hval : e.field? "val" = some (.text s.name)) (hcount : e.field? "count" = some (.nat n)) :
    noteCountIfKnown (.str "severities") f e =
      .ok { f with bySeverity := f.bySeverity.put s n } := by
  have hread : Severity.read (.text s.name) = .ok s := Severity.parse_name s
  have htypes : (Value.str "severities").same (.str "types") = false := by
    rw [Value.str, Value.str, Value.same_text]
    decide
  have hsame : (Value.str "severities").same (.str "severities") = true := by
    rw [Value.str, Value.same_text, beq_self_eq_true]
  have hint : (Value.nat n).asInt = .ok (n : Int) := rfl
  simp only [noteCountIfKnown, noteCount, htypes, hsame, Bool.false_eq_true, if_false, if_true,
    require_of_field? hcount, require_of_field? hval, ok_bind, hint, hread]
  rfl

/-- Reading a facet by category. -/
theorem noteCountIfKnown_category {e : Value} {c : Category} {n : Nat} (f : Facets)
    (hval : e.field? "val" = some (.text c.name)) (hcount : e.field? "count" = some (.nat n)) :
    noteCountIfKnown (.str "types") f e = .ok { f with byCategory := f.byCategory.put c n } := by
  have hread : Category.read (.text c.name) = .ok c := Category.parse_name c
  have hsame : (Value.str "types").same (.str "types") = true := by
    rw [Value.str, Value.same_text, beq_self_eq_true]
  have hint : (Value.nat n).asInt = .ok (n : Int) := rfl
  simp only [noteCountIfKnown, noteCount, hsame, if_true, require_of_field? hcount,
    require_of_field? hval, ok_bind, hint, hread]
  rfl

/-- What is noted of some entries that count findings by severity: right counts, and one for each
entry. -/
structure CountsOf (f : Facets) (fs : List Finding) (seen : List Value) : Prop where
  sound : ∀ s n, f.bySeverity.lookup s = some n → n = (fs.countP (·.severity == s) : Nat)
  complete : ∀ e ∈ seen, ∀ s : Severity, e.field? "val" = some (.text s.name) →
    (f.bySeverity.lookup s).isSome = true

theorem CountsOf.append {f : Facets} {fs : List Finding} {seen : List Value} (h : CountsOf f fs seen)
    {e : Value} {s : Severity} (hval : e.field? "val" = some (.text s.name)) :
    CountsOf { f with bySeverity := f.bySeverity.put s (fs.countP (·.severity == s) : Nat) } fs
      (seen ++ [e]) where
  sound s' n hn := by
    rw [lookup_put] at hn
    by_cases hs : s' = s
    · subst hs
      rw [if_pos (beq_self_eq_true s')] at hn
      exact (Option.some.inj hn).symm
    · rw [if_neg (by simpa using hs)] at hn
      exact h.sound s' n hn
  complete e' he' s' hval' := by
    rw [lookup_put]
    by_cases hs : s' = s
    · rw [if_pos (by simpa using hs)]
      rfl
    · rw [if_neg (by simpa using hs)]
      rcases List.mem_append.1 he' with he' | he'
      · exact h.complete e' he' s' hval'
      · rw [List.mem_singleton.1 he', hval] at hval'
        simp only [Option.some.injEq, Value.text.injEq] at hval'
        exact absurd (Severity.name_injective hval').symm hs

/-- Some more entries are noted. -/
theorem exists_foldlM_noteCount {fs : List Finding} {entries : List Value}
    (hcounts : ∀ e ∈ entries, ∃ s : Severity, e.field? "val" = some (.text s.name) ∧
      e.field? "count" = some (.nat (fs.countP (·.severity == s))))
    {f : Facets} {seen : List Value} (hf : CountsOf f fs seen) :
    ∃ g, entries.foldlM (noteCountIfKnown (.str "severities")) f = .ok g ∧
      CountsOf g fs (seen ++ entries) := by
  induction entries generalizing f seen with
  | nil => exact ⟨f, rfl, by simpa using hf⟩
  | cons e entries ih =>
      obtain ⟨s, hval, hcount⟩ := hcounts e (List.mem_cons_self ..)
      rw [List.foldlM_cons, noteCountIfKnown_severity f hval hcount, ok_bind, List.append_cons]
      exact ih (fun e' he' => hcounts e' (List.mem_cons_of_mem e he')) (hf.append hval)

/-- A facet by severity is noted. -/
theorem noteFacet_severities {facet : Value} {fs : List Finding} {f : Facets}
    (h : IsFacet facet "severities" Severity.name (·.severity) fs) (hf : Facets.AreRight f fs) :
    ∃ g, noteFacet f facet = .ok g ∧ Facets.AreRight g fs := by
  obtain ⟨entries, hentries, hcounts, hall⟩ := h.entries
  have hnothing : CountsOf f fs [] := ⟨hf.sound, by simp⟩
  obtain ⟨g, hg, hcountsOf⟩ := exists_foldlM_noteCount hcounts hnothing
  refine ⟨g, ?_, hcountsOf.sound, .inr fun x hx => ?_⟩
  · simp only [noteFacet, Value.getD_of_field? h.property, Value.getD_of_field? hentries, ok_bind,
      Value.elements, hg]
  · obtain ⟨e, he, hval⟩ := hall x hx
    exact hcountsOf.complete e he x.severity hval

/-- Counts by category leave the counts by severity as they are. -/
theorem exists_foldlM_noteCount_types {fs : List Finding} {entries : List Value}
    (hcounts : ∀ e ∈ entries, ∃ c : Category, e.field? "val" = some (.text c.name) ∧
      e.field? "count" = some (.nat (fs.countP (·.category == c)))) (f : Facets) :
    ∃ g, entries.foldlM (noteCountIfKnown (.str "types")) f = .ok g ∧
      g.bySeverity = f.bySeverity := by
  induction entries generalizing f with
  | nil => exact ⟨f, rfl, rfl⟩
  | cons e entries ih =>
      obtain ⟨c, hval, hcount⟩ := hcounts e (List.mem_cons_self ..)
      rw [List.foldlM_cons, noteCountIfKnown_category f hval hcount, ok_bind]
      exact ih (fun e' he' => hcounts e' (List.mem_cons_of_mem e he')) _

/-- A facet by category is noted. -/
theorem noteFacet_types {facet : Value} {fs : List Finding} {f : Facets}
    (h : IsFacet facet "types" Category.name (·.category) fs) (hf : Facets.AreRight f fs) :
    ∃ g, noteFacet f facet = .ok g ∧ Facets.AreRight g fs := by
  obtain ⟨entries, hentries, hcounts, -⟩ := h.entries
  obtain ⟨g, hg, hsame⟩ := exists_foldlM_noteCount_types hcounts f
  refine ⟨g, ?_, by rw [hsame]; exact hf.sound, by rw [hsame]; exact hf.complete⟩
  simp only [noteFacet, Value.getD_of_field? h.property, Value.getD_of_field? hentries, ok_bind,
    Value.elements, hg]

theorem exists_foldlM_noteFacet {facets : List Value} {fs : List Finding} {f : Facets}
    (hf : Facets.AreRight f fs) (h : ∀ facet ∈ facets, CountsRightly facet fs) :
    ∃ g, facets.foldlM noteFacet f = .ok g ∧ Facets.AreRight g fs := by
  induction facets generalizing f with
  | nil => exact ⟨f, rfl, hf⟩
  | cons facet facets ih =>
      have hstep : ∃ g, noteFacet f facet = .ok g ∧ Facets.AreRight g fs :=
        (h facet (List.mem_cons_self ..)).elim (noteFacet_types · hf) (noteFacet_severities · hf)
      obtain ⟨g, hg, hright⟩ := hstep
      rw [List.foldlM_cons, hg, ok_bind]
      exact ih hright fun facet' h' => h facet' (List.mem_cons_of_mem facet h')

/-- Facets that count rightly are read. -/
theorem exists_facetsOf {facets : List Value} {fs : List Finding}
    (h : ∀ facet ∈ facets, CountsRightly facet fs) :
    ∃ f, facetsOf (.list facets) = .ok f ∧
      ∀ s, isKnownEmpty f s = true → ∀ g ∈ fs, g.severity ≠ s := by
  cases facets with
  | nil => exact ⟨none, rfl, by simp [isKnownEmpty]⟩
  | cons facet facets =>
      have hnone : Facets.AreRight {} fs := ⟨by simp, .inl rfl⟩
      obtain ⟨f, hf, hright⟩ := exists_foldlM_noteFacet hnone h
      have hgiven : (Value.list (facet :: facets)).isGiven = true := rfl
      refine ⟨some f, ?_, fun s hs => hright.severity_ne hs⟩
      simp only [facetsOf, hgiven, if_true, Value.elements, ok_bind, hf]
      rfl

/-! ## Pages -/

/-- An honest document is read as an honest page. -/
theorem pageOf_of_shows {d : Value} {fs : List Finding} {size number : Nat} {withFacets : Bool}
    (h : Reply.Shows d fs size number withFacets) :
    ∃ p, pageOf number withFacets d = .ok p ∧ Page.Shows p fs size number := by
  obtain ⟨vs, hissues, hdescribes⟩ := h.issues
  obtain ⟨components, hcomponents, hkinds, hpaths⟩ := h.components
  have hnothing : Notes [] [] := ⟨by simp, by simp⟩
  obtain ⟨known, hknown, hnotes⟩ := exists_foldlM_noteComponent hkinds hnothing
  have htotal : totalOf d = .ok (.nat fs.length) := by
    rcases h.total with ⟨paging, hpaging, htotal⟩ | ⟨hpaging, htotal⟩
    · rw [totalOf, Value.getD_of_field? hpaging, ok_bind, Value.getD_of_field? htotal]
    · obtain ⟨fields, rfl⟩ : ∃ fields, d = .obj fields := by
        cases d with
        | obj fields => exact ⟨fields, rfl⟩
        | _ => cases htotal
      rw [totalOf, Value.getD_obj_of_none hpaging, ok_bind, htotal]
      rfl
  have hfiles : filesOf d = .ok known := by
    rw [filesOf, Value.getD_of_field? hcomponents, ok_bind, Value.elements, ok_bind, hknown]
  have hfacets : ∃ f, countsOf withFacets d = .ok f ∧
      ∀ s, isKnownEmpty f s = true → ∀ g ∈ fs, g.severity ≠ s := by
    cases withFacets with
    | false => exact ⟨none, rfl, by simp [isKnownEmpty]⟩
    | true =>
        rcases h.facets rfl with hnone | ⟨facets, hsome, hright⟩
        · exact ⟨none, by rw [countsOf, if_pos rfl, hnone.getD]; rfl, by simp [isKnownEmpty]⟩
        · obtain ⟨f, hf, hempty⟩ := exists_facetsOf hright
          exact ⟨f, by rw [countsOf, if_pos rfl, Value.getD_of_field? hsome, ok_bind, hf], hempty⟩
  obtain ⟨f, hf, hempty⟩ := hfacets
  refine ⟨⟨number, fs.length, .list vs, known, f⟩, ?_, rfl, ⟨vs, rfl, hdescribes⟩, fun x hx => ?_,
    hempty⟩
  · have hint : (Value.nat fs.length).asInt = .ok (fs.length : Int) := rfl
    simp only [pageOf, htotal, hfiles, Value.getD_of_field? hissues, hf, hint, ok_bind]
    rfl
  · exact pathOf_of_notes hnotes (hpaths x hx)

end Mend.Scanner
