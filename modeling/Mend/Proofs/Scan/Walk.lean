import Mend.Proofs.Json.Sets
import Mend.Proofs.Project.Writing
import Mend.Proofs.Scan.Files

/-!
# The walk over a project

A local scan reads the files with one of the extensions, except those below an excluded directory or
a directory of tests. In each directory it takes the files first and the subdirectories after them,
both by name. That fixes the sequence of the files, so it does not depend on the order in which the
file system lists a directory.

## Main definitions

* `Scan.IsRead` — whether a scan reads the file at a place.
* `Scan.Ahead` — whether one place comes before another in a scan.
* `Entry.Relisted` — trees that differ in the order of their listings only.

## Main statements

* `Scan.mem_walk`, `Scan.pairwise_walk` — what a scan reads, and in which order.
* `Scan.projectFiles_eligible` — the files that a scan of a project reads.
-/

namespace Mend

theorem Entry.Proper.nil : (Entry.dir []).Proper := .dir List.nodup_nil (by simp) (by simp)

/-- A directory may have one more entry, under a name of its own. -/
theorem Entry.Proper.cons {name : Text} {e : Entry} {es : List (Text × Entry)} (hname : IsName name)
    (hfresh : name ∉ es.map (·.1)) (he : e.Proper) (hes : (Entry.dir es).Proper) :
    (Entry.dir ((name, e) :: es)).Proper := by
  cases hes with
  | dir distinct named below =>
      exact .dir (List.nodup_cons.2 ⟨hfresh, distinct⟩) (List.forall_mem_cons.2 ⟨hname, named⟩)
        (List.forall_mem_cons.2 ⟨he, below⟩)

namespace Scan

variable {s : LocalSettings} {here : Place}

/-! ## What is read, and when -/

/-- A scan reads the file at a place if its name has one of the extensions, and no directory on the
way is excluded or holds tests, whatever the case of its name. -/
def IsRead (s : LocalSettings) (place : Place) : Prop :=
  ∃ dirs name, place = dirs ++ [name] ∧ (∃ extension ∈ s.extensions, extension <:+ name) ∧
    ∀ dir ∈ dirs,
      Text.lower dir ∉ s.excluded.map Text.lower ∧ Text.lower dir ∉ testDirectories

/-- One place comes before another in a scan. The files of a directory are taken by name, before what
is in its subdirectories, and these by name as well. -/
inductive Ahead : Place → Place → Prop
  | file {name other : Text} (h : name < other) : Ahead [name] [other]
  | own (name dir next : Text) (rest : Place) : Ahead [name] (dir :: next :: rest)
  | dir {dir other next next' : Text} {rest rest' : Place} (h : dir < other) :
      Ahead (dir :: next :: rest) (other :: next' :: rest')
  | within (dir : Text) {place place' : Place} (h : Ahead place place') :
      Ahead (dir :: place) (dir :: place')

theorem Ahead.asymm {place place' : Place} (h : Ahead place place') : ¬Ahead place' place := by
  induction h with
  | file h =>
      intro h'
      cases h' with
      | file h' => exact lt_asymm h h'
      | within dir h' => cases h'
  | own name dir next rest =>
      intro h'
      cases h' with
      | within dir h' => cases h'
  | dir h =>
      intro h'
      cases h' with
      | dir h' => exact lt_asymm h h'
      | within dir h' => exact lt_irrefl _ h
  | within dir h ih =>
      intro h'
      cases h' with
      | file h' => cases h
      | own => cases h
      | dir h' => exact lt_irrefl _ h'
      | within dir h' => exact ih h'

theorem hasExtension_iff {name : Text} :
    hasExtension s name = true ↔ ∃ extension ∈ s.extensions, extension <:+ name := by
  simp [hasExtension, Text.endsWith]

theorem isExcluded_eq_false_iff {dir : Text} :
    isExcluded s dir = false ↔
      Text.lower dir ∉ s.excluded.map Text.lower ∧ Text.lower dir ∉ testDirectories := by
  rw [isExcluded, ← Bool.not_eq_true, List.elem_eq_mem, decide_eq_true_iff, List.mem_append, not_or]

theorem isRead_singleton {name : Text} : IsRead s [name] ↔ hasExtension s name = true := by
  rw [hasExtension_iff]
  constructor
  · rintro ⟨dirs, name', heq, hextension, -⟩
    have hlast := congrArg List.getLast? heq
    rw [List.getLast?_concat, List.getLast?_singleton, Option.some.injEq] at hlast
    rwa [hlast]
  · intro hextension
    exact ⟨[], name, rfl, hextension, by simp⟩

theorem isRead_cons {dir : Text} {place : Place} (h : place ≠ []) :
    IsRead s (dir :: place) ↔ isExcluded s dir = false ∧ IsRead s place := by
  rw [isExcluded_eq_false_iff]
  constructor
  · rintro ⟨dirs, name, heq, hextension, hdirs⟩
    cases dirs with
    | nil => exact absurd (List.cons.inj heq).2 h
    | cons dir' dirs =>
        obtain ⟨rfl, rfl⟩ := List.cons.inj heq
        exact ⟨hdirs dir (List.mem_cons_self ..), dirs, name, rfl, hextension,
          fun d hd => hdirs d (List.mem_cons_of_mem _ hd)⟩
  · rintro ⟨hdir, dirs, name, rfl, hextension, hdirs⟩
    exact ⟨dir :: dirs, name, rfl, hextension, List.forall_mem_cons.2 ⟨hdir, hdirs⟩⟩

theorem IsRead.ne_nil {place : Place} (h : IsRead s place) : place ≠ [] := by
  obtain ⟨dirs, name, rfl, -⟩ := h
  exact List.append_ne_nil_of_right_ne_nil dirs (List.cons_ne_nil name [])

/-! ## Sorting by name -/

theorem byName_iff {α : Type} {a b : Text × α} : byName a b = true ↔ a.1 ≤ b.1 := by
  rw [byName, Bool.not_eq_true', ← Bool.not_eq_true, Text.before_iff_lt, not_lt]

/-- Entries with different names are put into ascending order. -/
theorem pairwise_sorted {α : Type} {l : List (Text × α)} (h : (l.map (·.1)).Nodup) :
    (l.mergeSort byName).Pairwise fun a b => a.1 < b.1 := by
  have hsorted : (l.mergeSort byName).Pairwise fun a b => byName a b = true := by
    refine List.pairwise_mergeSort (fun a b c hab hbc => ?_) (fun a b => ?_) l
    · exact byName_iff.2 (le_trans (byName_iff.1 hab) (byName_iff.1 hbc))
    · rw [Bool.or_eq_true, byName_iff, byName_iff]
      exact le_total ..
  have hdistinct : (l.mergeSort byName).Pairwise fun a b => a.1 ≠ b.1 :=
    List.pairwise_map.1 (((List.mergeSort_perm ..).map _).nodup_iff.2 h)
  exact hsorted.imp₂ (fun a b hle hne => lt_of_le_of_ne (byName_iff.1 hle) hne) hdistinct

/-! ## One directory -/

theorem lookup_eq_some_iff {α : Type} {es : List (Text × α)} (h : (es.map (·.1)).Nodup)
    {name : Text} {a : α} : es.lookup name = some a ↔ (name, a) ∈ es := by
  refine ⟨mem_of_lookup, fun hmem => ?_⟩
  obtain ⟨before, behind, rfl⟩ := List.append_of_mem hmem
  refine List.lookup_eq_some_iff.2 ⟨before, behind, rfl, fun x hx => ?_⟩
  rw [List.map_append, List.map_cons] at h
  have hne : x.1 ≠ name := fun heq =>
    List.disjoint_of_nodup_append h (List.mem_map_of_mem hx) (heq ▸ List.mem_cons_self ..)
  simpa using hne.symm

/-- The files of a directory that have one of the extensions. -/
def ownFiles (s : LocalSettings) (es : List (Text × Entry)) : List (Text × Bytes) :=
  es.filterMap fun (name, e) =>
    match e with
    | .file contents => if hasExtension s name then some (name, contents) else none
    | .dir _ => none

theorem filesHere_eq (s : LocalSettings) (here : Place) (es : List (Text × Entry)) :
    filesHere s here es =
      ((ownFiles s es).mergeSort byName).map fun (name, contents) => (here ++ [name], contents) :=
  rfl

theorem mem_ownFiles {es : List (Text × Entry)} {name : Text} {contents : Bytes} :
    (name, contents) ∈ ownFiles s es ↔
      (name, .file contents) ∈ es ∧ hasExtension s name = true := by
  rw [ownFiles, List.mem_filterMap]
  constructor
  · rintro ⟨⟨name', e⟩, hmem, hsome⟩
    cases e with
    | dir es' => cases hsome
    | file contents' =>
        obtain ⟨hextension, heq⟩ := Option.ite_none_right_eq_some.1 hsome
        cases heq
        exact ⟨hmem, hextension⟩
  · rintro ⟨hmem, hextension⟩
    exact ⟨_, hmem, if_pos hextension⟩

theorem map_ownFiles_sublist (s : LocalSettings) (es : List (Text × Entry)) :
    ((ownFiles s es).map (·.1)).Sublist (es.map (·.1)) := by
  induction es with
  | nil => exact .slnil
  | cons x rest ih =>
      obtain ⟨name, e⟩ := x
      cases e with
      | dir es' => exact ih.cons name
      | file contents =>
          by_cases hextension : hasExtension s name = true
          · simpa [ownFiles, hextension] using ih.cons_cons name
          · simpa [ownFiles, hextension] using ih.cons name

/-! ## The whole walk -/

/-- What is walked below a directory. -/
theorem mem_walk_dir {es : List (Text × Entry)} {place : Place} {contents : Bytes} :
    (place, contents) ∈ walk s here (.dir es) ↔
      (∃ name, place = here ++ [name] ∧ (name, .file contents) ∈ es ∧ hasExtension s name = true) ∨
      ∃ x ∈ es, isEntered s x = true ∧ (place, contents) ∈ walk s (here ++ [x.1]) x.2 := by
  rw [walk, List.mem_append, filesHere_eq, walkEach_eq]
  refine or_congr ?_ ?_
  · simp only [List.mem_map, List.mem_mergeSort, Prod.exists, Prod.mk.injEq, mem_ownFiles]
    constructor
    · rintro ⟨name, contents', hown, rfl, rfl⟩
      exact ⟨name, rfl, hown⟩
    · rintro ⟨name, rfl, hown⟩
      exact ⟨name, contents, hown, rfl, rfl⟩
  · simp only [List.mem_flatMap, List.mem_mergeSort, List.mem_map, List.mem_filter]
    constructor
    · rintro ⟨_, ⟨x, ⟨hx, hentered⟩, rfl⟩, hplace⟩
      exact ⟨x, hx, hentered, hplace⟩
    · rintro ⟨x, hx, hentered, hplace⟩
      exact ⟨_, ⟨x, ⟨hx, hentered⟩, rfl⟩, hplace⟩

/-- A scan walks to the files that it reads, and to no others. -/
theorem mem_walk {e : Entry} (h : e.Proper) {place : Place} {contents : Bytes} :
    (place, contents) ∈ walk s here e ↔
      ∃ below, place = here ++ below ∧ e.find? below = some (.file contents) ∧ IsRead s below := by
  induction h generalizing here with
  | file b =>
      refine iff_of_false (by rw [walk]; exact List.not_mem_nil) ?_
      rintro ⟨below, -, hfind, hread⟩
      obtain ⟨name, rest, rfl⟩ := List.exists_cons_of_ne_nil hread.ne_nil
      cases hfind
  | @dir es distinct named below ih =>
      have hlookup {name : Text} {e : Entry} : es.lookup name = some e ↔ (name, e) ∈ es :=
        lookup_eq_some_iff distinct
      rw [mem_walk_dir]
      constructor
      · rintro (⟨name, rfl, hmem, hextension⟩ | ⟨x, hx, hentered, hplace⟩)
        · refine ⟨[name], rfl, ?_, isRead_singleton.2 hextension⟩
          rw [Entry.find?_cons, Entry.entries, hlookup.2 hmem]
          rfl
        · obtain ⟨names, rfl, hfind, hread⟩ := (ih x hx).1 hplace
          have hexcluded : isExcluded s x.1 = false := by
            simpa using ((Bool.and_eq_true ..).mp hentered).2
          refine ⟨x.1 :: names, by simp, ?_, (isRead_cons hread.ne_nil).2 ⟨hexcluded, hread⟩⟩
          rw [Entry.find?_cons, Entry.entries, hlookup.2 hx]
          exact hfind
      · rintro ⟨names, rfl, hfind, hread⟩
        obtain ⟨name, rest, rfl⟩ := List.exists_cons_of_ne_nil hread.ne_nil
        rw [Entry.find?_cons] at hfind
        obtain ⟨e, he, hrest⟩ := Option.bind_eq_some_iff.1 hfind
        have hmem : (name, e) ∈ es := hlookup.1 he
        by_cases hnil : rest = []
        · subst hnil
          cases hrest
          exact .inl ⟨name, rfl, hmem, isRead_singleton.1 hread⟩
        · obtain ⟨hexcluded, hread⟩ := (isRead_cons hnil).1 hread
          have hdir : e.isDir = true := by
            cases e with
            | dir es' => rfl
            | file b =>
                obtain ⟨next, rest, rfl⟩ := List.exists_cons_of_ne_nil hnil
                cases hrest
          refine .inr ⟨(name, e), hmem, by simp [isEntered, hdir, hexcluded], ?_⟩
          exact (ih (name, e) hmem).2 ⟨rest, by simp, hrest, hread⟩

/-- What is walked below a subdirectory lies behind its name. -/
theorem exists_of_mem_walk_sub {es : List (Text × Entry)} (h : (Entry.dir es).Proper) {x : Text × Entry}
    (hx : x ∈ es) {place : Place} (hplace : place ∈ (walk s (here ++ [x.1]) x.2).map (·.1)) :
    ∃ next rest, place = here ++ x.1 :: next :: rest := by
  obtain ⟨⟨_, contents⟩, hmem, rfl⟩ := List.mem_map.1 hplace
  cases h with
  | dir distinct named below =>
      obtain ⟨names, rfl, -, hread⟩ := (mem_walk (below x hx)).1 hmem
      obtain ⟨next, rest, rfl⟩ := List.exists_cons_of_ne_nil hread.ne_nil
      exact ⟨next, rest, by simp⟩

/-- A scan walks through a project in order. -/
theorem pairwise_walk {e : Entry} (h : e.Proper) (here : Place) :
    ((walk s here e).map (·.1)).Pairwise fun p q =>
      ∃ p' q', p = here ++ p' ∧ q = here ++ q' ∧ Ahead p' q' := by
  induction h generalizing here with
  | file contents =>
      rw [walk]
      exact .nil
  | @dir es distinct named below ih =>
      have hes : (Entry.dir es).Proper := .dir distinct named below
      have hsub {a : Text × List (Place × Bytes)} (ha : a ∈ (walkEach s here es).mergeSort byName) :
          ∃ x ∈ es, a = (x.1, walk s (here ++ [x.1]) x.2) := by
        rw [List.mem_mergeSort, walkEach_eq] at ha
        obtain ⟨x, hx, rfl⟩ := List.mem_map.1 ha
        exact ⟨x, List.mem_of_mem_filter hx, rfl⟩
      rw [walk, List.map_append, filesHere_eq, List.map_map, List.map_flatMap]
      refine List.pairwise_append.2 ⟨?_, List.pairwise_flatMap.2 ⟨?_, ?_⟩, ?_⟩
      · -- Two files of the directory itself.
        refine List.pairwise_map.2 ((pairwise_sorted ?_).imp fun {a b} hab => ?_)
        · exact distinct.sublist (map_ownFiles_sublist s es)
        · exact ⟨[a.1], [b.1], rfl, rfl, .file hab⟩
      · -- Two files below one subdirectory.
        intro a ha
        obtain ⟨x, hx, rfl⟩ := hsub ha
        refine (ih x hx (here ++ [x.1])).imp ?_
        rintro p q ⟨p', q', rfl, rfl, hahead⟩
        exact ⟨x.1 :: p', x.1 :: q', by simp, by simp, .within x.1 hahead⟩
      · -- Files below two subdirectories.
        have hnames : ((walkEach s here es).map (·.1)).Nodup := by
          rw [walkEach_eq, List.map_map]
          exact distinct.sublist (List.filter_sublist.map _)
        refine (pairwise_sorted hnames).imp_of_mem fun {a b} ha hb hab p hp q hq => ?_
        obtain ⟨x, hx, rfl⟩ := hsub ha
        obtain ⟨y, hy, rfl⟩ := hsub hb
        obtain ⟨next, rest, rfl⟩ := exists_of_mem_walk_sub hes hx hp
        obtain ⟨next', rest', rfl⟩ := exists_of_mem_walk_sub hes hy hq
        exact ⟨_, _, rfl, rfl, .dir hab⟩
      · -- A file of the directory itself and one below a subdirectory.
        intro p hp q hq
        obtain ⟨own, -, rfl⟩ := List.mem_map.1 hp
        obtain ⟨a, ha, hq⟩ := List.mem_flatMap.1 hq
        obtain ⟨x, hx, rfl⟩ := hsub ha
        obtain ⟨next, rest, rfl⟩ := exists_of_mem_walk_sub hes hx hq
        exact ⟨[own.1], _, rfl, rfl, .own own.1 x.1 next rest⟩

end Scan

/-! ## Listings in another order -/

/-- The same entry, with the directories in it listed in another order. -/
inductive Entry.Relisted : Entry → Entry → Prop
  | refl (e : Entry) : Relisted e e
  | listed {es es' : List (Text × Entry)} (h : es.Perm es') : Relisted (.dir es) (.dir es')
  | inside (before : List (Text × Entry)) (name : Text) (behind : List (Text × Entry)) {e e' : Entry}
      (h : Relisted e e') :
      Relisted (.dir (before ++ (name, e) :: behind)) (.dir (before ++ (name, e') :: behind))
  | trans {e e' e'' : Entry} (h : Relisted e e') (h' : Relisted e' e'') : Relisted e e''

namespace Entry.Relisted

variable {e e' : Entry}

theorem proper (h : Relisted e e') (hproper : e.Proper) : e'.Proper := by
  induction h with
  | refl e => exact hproper
  | listed h =>
      cases hproper with
      | dir distinct named below =>
          exact .dir ((h.map _).nodup_iff.1 distinct) (fun x hx => named x (h.mem_iff.2 hx))
            fun x hx => below x (h.mem_iff.2 hx)
  | inside before name behind h ih =>
      cases hproper with
      | dir distinct named below =>
          rw [List.forall_mem_append, List.forall_mem_cons] at named below
          refine .dir (by simpa using distinct) ?_ ?_
          · exact List.forall_mem_append.2 ⟨named.1, List.forall_mem_cons.2 named.2⟩
          · exact List.forall_mem_append.2
              ⟨below.1, List.forall_mem_cons.2 ⟨ih below.2.1, below.2.2⟩⟩
  | trans h h' ih ih' => exact ih' (ih hproper)

theorem eq_file_iff (h : Relisted e e') (contents : Bytes) :
    e = .file contents ↔ e' = .file contents := by
  induction h with
  | refl e => exact Iff.rfl
  | listed h => simp
  | inside before name behind h ih => simp
  | trans h h' ih ih' => exact ih.trans ih'

/-- What is at a place is listed in another order at most. -/
theorem find? (h : Relisted e e') (hproper : e.Proper) (place : Place) :
    Option.Rel Relisted (e.find? place) (e'.find? place) := by
  have hself (x : Option Entry) : Option.Rel Relisted x x := by
    cases x with
    | none => exact .none
    | some x => exact .some (.refl x)
  induction h generalizing place with
  | refl e => exact hself _
  | @listed es es' h =>
      cases place with
      | nil => exact .some (.listed h)
      | cons name rest =>
          cases hproper with
          | dir distinct named below =>
              have hlookup : es.lookup name = es'.lookup name := by
                ext x
                rw [Scan.lookup_eq_some_iff distinct,
                  Scan.lookup_eq_some_iff ((h.map _).nodup_iff.1 distinct), h.mem_iff]
              rw [find?_cons, find?_cons, entries, entries, hlookup]
              exact hself _
  | inside before name behind h ih =>
      cases place with
      | nil => exact .some (.inside before name behind h)
      | cons other rest =>
          rw [find?_cons, find?_cons, entries, entries, List.lookup_append, List.lookup_append,
            lookup_named, lookup_named]
          cases hbefore : before.lookup other with
          | some x => exact hself _
          | none =>
              by_cases hname : other = name
              · rw [if_pos hname, if_pos hname]
                cases hproper with
                | dir distinct named below =>
                    exact ih (below _ (List.mem_append_right _ (List.mem_cons_self ..))) rest
              · rw [if_neg hname, if_neg hname]
                exact hself _
  | @trans e₁ e₂ e₃ h h' ih ih' =>
      have hfirst := ih hproper place
      have hsecond := ih' (h.proper hproper) place
      generalize e₁.find? place = x₁ at hfirst ⊢
      generalize e₂.find? place = x₂ at hfirst hsecond
      generalize e₃.find? place = x₃ at hsecond ⊢
      cases hfirst with
      | none =>
          cases hsecond with
          | none => exact .none
      | some hx =>
          cases hsecond with
          | some hx' => exact .some (hx.trans hx')

/-- Names lead to the same place. -/
theorem locate_eq (h : Relisted e e') (hproper : e.Proper) (here : Place) (names : List Text) :
    e'.locate here names = e.locate here names := by
  induction names generalizing here with
  | nil => rfl
  | cons name rest ih =>
      have hfind := h.find? hproper here
      rw [locate, locate]
      generalize e.find? here = x at hfind
      generalize e'.find? here = x' at hfind
      cases hfind with
      | none => rfl
      | @some x x' hx =>
          cases x with
          | file contents => rw [(hx.eq_file_iff contents).1 rfl]
          | dir es =>
              cases x' with
              | file contents => cases (hx.eq_file_iff contents).2 rfl
              | dir es' => simp only [ih]

end Entry.Relisted

namespace Scan

variable {s : LocalSettings}

/-- What a scan reads below an entry does not depend on the order of its listings. -/
theorem walk_relisted {e e' : Entry} (h : e.Relisted e') (hproper : e.Proper) :
    walk s [] e' = walk s [] e := by
  have hsorted {e : Entry} (hproper : e.Proper) :
      (walk s [] e).Pairwise fun a b => Ahead a.1 b.1 := by
    refine (List.pairwise_map.1 (pairwise_walk (s := s) hproper [])).imp ?_
    rintro a b ⟨p, q, hp, hq, hahead⟩
    rw [hp, hq]
    exact hahead
  have hirrefl : Std.Irrefl fun a b : Place × Bytes => Ahead a.1 b.1 := ⟨fun a h => h.asymm h⟩
  have hantisymm : Std.Antisymm fun a b : Place × Bytes => Ahead a.1 b.1 :=
    ⟨fun a b h h' => absurd h' h.asymm⟩
  refine (hsorted (h.proper hproper)).eq_of_mem_iff (hsorted hproper) fun ⟨place, contents⟩ => ?_
  rw [mem_walk hproper, mem_walk (h.proper hproper)]
  refine exists_congr fun below => and_congr_right fun _ => and_congr_left fun _ => ?_
  have hfind := h.find? hproper below
  generalize e.find? below = x at hfind
  generalize e'.find? below = x' at hfind
  cases hfind with
  | none => exact Iff.rfl
  | some hx => rw [Option.some.injEq, Option.some.injEq, hx.eq_file_iff contents]

/-- A project in which a scan reads something is found in a tree that is listed in another order. -/
theorem projectFiles_relisted {t t' : Tree} (h : t.top.Relisted t'.top) (hproper : t.IsProper)
    (projectDir : Path) : projectFiles s projectDir t' = projectFiles s projectDir t := by
  have hplace : t'.place projectDir = t.place projectDir := by
    rw [Tree.place, Tree.place, h.locate_eq hproper]
  unfold projectFiles Tree.entry
  rw [hplace]
  cases t.place projectDir with
  | error problem => rfl
  | ok here =>
      have hfind := h.find? hproper here
      have hbelow {e : Entry} (he : t.top.find? here = some e) : e.Proper := hproper.find? he
      simp only [ok_bind]
      generalize t.top.find? here = x at hfind hbelow ⊢
      generalize t'.top.find? here = x' at hfind ⊢
      cases hfind with
      | none => rfl
      | some hx => simp only [sourceFiles, walk_relisted hx (hbelow rfl)]

/-! ## The files that a scan reads -/

theorem mem_of_mem_dropLast_filter {α : Type} {p : α → Bool} {l : List α} {a b : α}
    (h : a ∈ ((l ++ [b]).filter p).dropLast) : a ∈ l := by
  rw [List.filter_append] at h
  cases hb : p b with
  | true =>
      rw [List.filter_cons_of_pos hb, List.filter_nil, List.dropLast_concat] at h
      exact List.mem_of_mem_filter h
  | false =>
      rw [List.filter_cons_of_neg (by simp [hb]), List.filter_nil, List.append_nil] at h
      exact List.mem_of_mem_filter ((List.dropLast_sublist _).mem h)

/-- A directory of tests is on the way to no file that is read. -/
theorem isTestPath_eq_false {place : Place} (hbelow : IsBelow [] place) (hread : IsRead s place) :
    isTestPath (Text.join [Path.slash] place) = false := by
  obtain ⟨dirs, name, rfl, -, hdirs⟩ := hread
  rw [isTestPath, List.any_eq_false]
  intro dir hdir
  have hparts : (Path.ofText (Text.join [Path.slash] (dirs ++ [name]))).parts =
      (dirs ++ [name]).filter fun p => p != [] && p != [0x2E] := by
    show Path.partsOf _ = _
    rw [Path.partsOf, splitOn_of_isBelow hbelow]
  rw [hparts] at hdir
  simpa using (hdirs dir (mem_of_mem_dropLast_filter hdir)).2

/-- The walk yields no file of a directory of tests, so that none is left out afterwards. -/
theorem sourceFiles_eq {e : Entry} (h : e.Proper) :
    sourceFiles s e = (walk s [] e).map fun (place, contents) =>
      ⟨Text.join [Path.slash] place, contents⟩ := by
  refine List.filter_eq_self.2 fun f hf => ?_
  obtain ⟨⟨place, contents⟩, hwalk, rfl⟩ := List.mem_map.1 hf
  have hbelow := (nodup_walk h []).2 place (List.mem_map_of_mem hwalk)
  obtain ⟨below, rfl, -, hread⟩ := (mem_walk h).1 hwalk
  rw [isTestPath_eq_false hbelow hread]
  rfl

/-- A local scan of a project reads every file whose name has one of the extensions and that lies in
no excluded directory and in no directory of tests, once, and no other. In each directory it takes the
files by name, and then what is in the subdirectories, these by name as well. A tree whose directories
are listed in another order makes no difference. -/
theorem projectFiles_eligible (s : LocalSettings) {t : Tree} (hproper : t.IsProper)
    {projectDir : Path} {project : Entry} (hproject : t.entry projectDir = .ok project) :
    (∃ found : List (Place × Bytes),
      projectFiles s projectDir t = found.map (fun (place, contents) =>
        ⟨Text.join [Path.slash] place, contents⟩) ∧
      (∀ place contents, (place, contents) ∈ found ↔
        project.find? place = some (.file contents) ∧ IsRead s place) ∧
      (found.map (·.1)).Nodup ∧ (found.map (·.1)).Pairwise Ahead) ∧
    ((projectFiles s projectDir t).map (·.path)).Nodup ∧
    ∀ t' : Tree, t.top.Relisted t'.top →
      projectFiles s projectDir t' = projectFiles s projectDir t := by
  have hbelow : project.Proper := hproper.entry hproject
  refine ⟨⟨walk s [] project, ?_, ?_, (nodup_walk hbelow []).1, ?_⟩, nodup_projectFiles hproper,
    fun t' h => projectFiles_relisted h hproper projectDir⟩
  · rw [projectFiles, hproject]
    exact sourceFiles_eq hbelow
  · intro place contents
    rw [mem_walk hbelow]
    constructor
    · rintro ⟨below, rfl, h⟩
      exact h
    · intro h
      exact ⟨place, rfl, h⟩
  · refine (pairwise_walk hbelow []).imp ?_
    rintro p q ⟨p', q', rfl, rfl, hahead⟩
    exact hahead

/-! ## A project with directories of every kind -/

/-- What is in a project: files of two kinds, and directories with sources, tests and build output. -/
def mixedEntries : List (Text × Entry) := [
  (Text.ofString "src", .dir [
    (Text.ofString "Main.java", .file []),
    (Text.ofString "Tests", .dir [(Text.ofString "MainTest.java", .file [])]),
    (Text.ofString "api", .dir [(Text.ofString "Call.java", .file [])])]),
  (Text.ofString "Target", .dir [(Text.ofString "Made.java", .file [])]),
  (Text.ofString "notes.txt", .file []),
  (Text.ofString "Zoo.java", .file [])]

/-- The same project, with its entries listed the other way round. -/
def turnedTree : Tree := ⟨.dir mixedEntries.reverse⟩

theorem proper_mixedEntries : (Entry.dir mixedEntries).Proper := by
  have hfile (contents : Bytes) : (Entry.file contents).Proper := .file contents
  refine .cons ⟨by decide, by decide⟩ (by decide) ?_ ?_
  · refine .cons ⟨by decide, by decide⟩ (by decide) (hfile []) ?_
    refine .cons ⟨by decide, by decide⟩ (by decide) ?_ ?_
    · exact .cons ⟨by decide, by decide⟩ (by decide) (hfile []) .nil
    · refine .cons ⟨by decide, by decide⟩ (by decide) ?_ .nil
      exact .cons ⟨by decide, by decide⟩ (by decide) (hfile []) .nil
  · refine .cons ⟨by decide, by decide⟩ (by decide) ?_ ?_
    · exact .cons ⟨by decide, by decide⟩ (by decide) (hfile []) .nil
    · refine .cons ⟨by decide, by decide⟩ (by decide) (hfile []) ?_
      exact .cons ⟨by decide, by decide⟩ (by decide) (hfile []) .nil

/-- Build output and tests are passed over, whatever the case of their directories, and the order of
the listing does not matter. -/
theorem projectFiles_eligible_mixed :
    Tree.IsProper ⟨.dir mixedEntries⟩ ∧
    Tree.entry ⟨.dir mixedEntries⟩ {} = .ok (.dir mixedEntries) ∧
    (projectFiles {} {} turnedTree).map (·.path) =
      [Text.ofString "Zoo.java", Text.ofString "src/Main.java", Text.ofString "src/api/Call.java"] := by
  have hturned : (Entry.dir mixedEntries).Relisted turnedTree.top :=
    .listed (List.reverse_perm mixedEntries).symm
  have hproper : Tree.IsProper ⟨.dir mixedEntries⟩ := proper_mixedEntries
  have hproject : Tree.entry ⟨.dir mixedEntries⟩ {} = .ok (.dir mixedEntries) := rfl
  obtain ⟨-, -, hsame⟩ := projectFiles_eligible {} hproper hproject
  refine ⟨hproper, hproject, ?_⟩
  rw [hsame turnedTree hturned]
  cbv

end Scan

end Mend
