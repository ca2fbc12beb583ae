import Mend.Scan.Local
import Mend.Proofs.Json.Records
import Mend.Proofs.Text.Joined
import Mathlib.Data.List.Permutation

/-!
# Source files have paths of their own

In a file system the entries of a directory have different names, and a name is neither empty nor has
a slash in it. So no two files that a local scan reads have the same path, and every path says
something.

## Main definitions

* `Entry.Proper`, `Tree.IsProper` — entries and trees as a file system has them.

## Main statements

* `Scan.nodup_projectFiles`, `Scan.path_ne_nil` — the paths of the files that a scan reads.
-/

namespace Mend

/-- Names that a file system gives to entries. -/
def Entry.IsName (name : Text) : Prop := name ≠ [] ∧ Path.slash ∉ name

/-- Entries as a file system has them: no two in a directory have the same name. -/
inductive Entry.Proper : Entry → Prop
  | file (contents : Bytes) : Proper (.file contents)
  | dir {es : List (Text × Entry)} (distinct : (es.map (·.1)).Nodup)
      (named : ∀ x ∈ es, IsName x.1) (below : ∀ x ∈ es, Proper x.2) : Proper (.dir es)

/-- Trees as a file system has them. -/
def Tree.IsProper (t : Tree) : Prop := t.top.Proper

theorem mem_of_lookup {α β : Type} [BEq α] [LawfulBEq α] {a : α} {b : β} {l : List (α × β)}
    (h : l.lookup a = some b) : (a, b) ∈ l := by
  obtain ⟨before, behind, rfl, -⟩ := List.lookup_eq_some_iff.1 h
  exact List.mem_append_right _ (List.mem_cons_self ..)

theorem Entry.Proper.find? {e e' : Entry} {here : Place} (h : e.Proper)
    (hfind : e.find? here = some e') : e'.Proper := by
  induction here generalizing e with
  | nil => exact Option.some.inj hfind ▸ h
  | cons name rest ih =>
      rw [Entry.find?] at hfind
      split at hfind
      · rename_i below hlookup
        cases h with
        | file contents => cases hlookup
        | dir distinct named hbelow => exact ih (hbelow _ (mem_of_lookup hlookup)) hfind
      · cases hfind

theorem Tree.IsProper.entry {t : Tree} {p : Path} {e : Entry} (h : t.IsProper)
    (hentry : t.entry p = .ok e) : e.Proper := by
  unfold Tree.entry at hentry
  cases hplace : t.place p with
  | error problem => rw [hplace] at hentry; cases hentry
  | ok here =>
      rw [hplace, ok_bind] at hentry
      split at hentry
      · rename_i e' hfind
        exact Except.ok.inj hentry ▸ h.find? hfind
      · cases hentry

namespace Scan

variable {s : LocalSettings}

/-- The directories that are entered. -/
def isEntered (s : LocalSettings) (x : Text × Entry) : Bool := x.2.isDir && !isExcluded s x.1

theorem walkEach_eq (s : LocalSettings) (here : Place) (es : List (Text × Entry)) :
    walkEach s here es =
      (es.filter (isEntered s)).map fun x => (x.1, walk s (here ++ [x.1]) x.2) := by
  induction es with
  | nil => rfl
  | cons x rest ih =>
      obtain ⟨name, e⟩ := x
      rw [walkEach, List.filter_cons, ih]
      unfold isEntered
      split <;> rfl

/-- The names of the files of a directory that count. -/
def ownNames (s : LocalSettings) (es : List (Text × Entry)) : List Text :=
  (es.filter fun x => !x.2.isDir && hasExtension s x.1).map (·.1)

theorem perm_filesHere (s : LocalSettings) (here : Place) (es : List (Text × Entry)) :
    ((filesHere s here es).map (·.1)).Perm ((ownNames s es).map fun name => here ++ [name]) := by
  unfold filesHere
  dsimp only
  rw [List.map_map]
  refine ((List.mergeSort_perm ..).map _).trans (.of_eq ?_)
  induction es with
  | nil => rfl
  | cons x rest ih =>
      obtain ⟨name, e⟩ := x
      cases e with
      | file contents =>
          by_cases h : hasExtension s name = true
          · simpa [ownNames, Entry.isDir, h] using ih
          · simpa [ownNames, Entry.isDir, h] using ih
      | dir es' => simpa [ownNames, Entry.isDir] using ih

/-- The places below a directory, up to their order: its files, and what is below the directories that
are entered. -/
theorem perm_walk (s : LocalSettings) (here : Place) (es : List (Text × Entry)) :
    ((walk s here (.dir es)).map (·.1)).Perm
      ((ownNames s es).map (fun name => here ++ [name]) ++
        (es.filter (isEntered s)).flatMap fun x => (walk s (here ++ [x.1]) x.2).map (·.1)) := by
  have hbelow : ((((walkEach s here es).mergeSort byName).flatMap (·.2)).map (·.1)).Perm
      ((es.filter (isEntered s)).flatMap fun x => (walk s (here ++ [x.1]) x.2).map (·.1)) := by
    refine (((List.mergeSort_perm ..).flatMap_right Prod.snd).map Prod.fst).trans (.of_eq ?_)
    rw [walkEach_eq, List.flatMap_map, List.map_flatMap]
  rw [walk, List.map_append]
  exact (perm_filesHere s here es).append hbelow

/-- A place below another one: some names lead from the one to the other. -/
def IsBelow (here place : Place) : Prop :=
  ∃ names, names ≠ [] ∧ (∀ name ∈ names, Entry.IsName name) ∧ place = here ++ names

/-- The files of a scan are at different places. -/
theorem nodup_walk {e : Entry} (h : e.Proper) (here : Place) :
    ((walk s here e).map (·.1)).Nodup ∧ ∀ place ∈ (walk s here e).map (·.1), IsBelow here place := by
  induction h generalizing here with
  | file contents => exact ⟨List.nodup_nil, fun _ h => absurd h List.not_mem_nil⟩
  | @dir es distinct named below ih =>
      have hperm := perm_walk s here es
      have hown : ∀ name ∈ ownNames s es, Entry.IsName name := by
        intro name hname
        obtain ⟨x, hx, rfl⟩ := List.mem_map.1 hname
        exact named x (List.mem_of_mem_filter hx)
      have hsub {x : Text × Entry} (hx : x ∈ es.filter (isEntered s)) {place : Place}
          (hplace : place ∈ (walk s (here ++ [x.1]) x.2).map (·.1)) :
          ∃ names, names ≠ [] ∧ (∀ name ∈ x.1 :: names, Entry.IsName name) ∧
            place = here ++ x.1 :: names := by
        obtain ⟨names, hne, hnames, rfl⟩ := (ih x (List.mem_of_mem_filter hx) _).2 place hplace
        exact ⟨names, hne, List.forall_mem_cons.2 ⟨named x (List.mem_of_mem_filter hx), hnames⟩,
          by rw [List.append_assoc, List.singleton_append]⟩
      rw [hperm.nodup_iff]
      refine ⟨List.nodup_append'.2 ⟨?_, ?_, ?_⟩, fun place hplace => ?_⟩
      · -- The files of the directory itself.
        refine List.Nodup.map (fun a b hab => ?_) (distinct.sublist (List.filter_sublist.map _))
        exact List.singleton_inj.1 (List.append_cancel_left hab)
      · -- The files below different directories.
        refine List.nodup_flatMap.2 ⟨fun x hx => (ih x (List.mem_of_mem_filter hx) _).1, ?_⟩
        have hnames : (es.filter (isEntered s)).Pairwise fun x y => x.1 ≠ y.1 :=
          List.pairwise_map.1 (distinct.sublist (List.filter_sublist.map _))
        refine hnames.imp_of_mem fun {x y} hx hy hne place hplace hplace' => ?_
        obtain ⟨_, -, -, rfl⟩ := hsub hx hplace
        obtain ⟨_, -, -, heq⟩ := hsub hy hplace'
        exact hne (List.cons.inj (List.append_cancel_left heq)).1
      · -- A file of the directory and one below another directory.
        intro place hplace hplace'
        obtain ⟨name, -, rfl⟩ := List.mem_map.1 hplace
        obtain ⟨x, hx, hplace'⟩ := List.mem_flatMap.1 hplace'
        obtain ⟨names, hne, -, heq⟩ := hsub hx hplace'
        exact hne (List.cons.inj (List.append_cancel_left heq)).2.symm
      · rcases List.mem_append.1 (hperm.mem_iff.1 hplace) with hplace | hplace
        · obtain ⟨name, hname, rfl⟩ := List.mem_map.1 hplace
          exact ⟨[name], List.cons_ne_nil _ _, List.forall_mem_singleton.2 (hown name hname), rfl⟩
        · obtain ⟨x, hx, hplace⟩ := List.mem_flatMap.1 hplace
          obtain ⟨names, -, hnames, rfl⟩ := hsub hx hplace
          exact ⟨x.1 :: names, List.cons_ne_nil _ _, hnames, rfl⟩

/-- The names along a path are read back from its text. -/
theorem splitOn_of_isBelow {place : Place} (h : IsBelow [] place) :
    (Text.join [Path.slash] place).splitOn Path.slash = place := by
  obtain ⟨names, hne, hnames, rfl⟩ := h
  exact Text.splitOn_join hne fun name hname => (hnames name hname).2

theorem exists_place_of_mem_projectFiles {projectDir : Path} {t : Tree} (h : t.IsProper)
    {f : SourceFile} (hf : f ∈ projectFiles s projectDir t) :
    ∃ place, IsBelow [] place ∧ f.path = Text.join [Path.slash] place := by
  unfold projectFiles at hf
  split at hf
  · rename_i e he
    obtain ⟨⟨place, contents⟩, hplace, rfl⟩ := List.mem_map.1 (List.mem_of_mem_filter hf)
    exact ⟨place, (nodup_walk (h.entry he) []).2 place (List.mem_map_of_mem hplace), rfl⟩
  · cases hf

/-- No two files of a scan have the same path. -/
theorem nodup_projectFiles {projectDir : Path} {t : Tree} (h : t.IsProper) :
    ((projectFiles s projectDir t).map (·.path)).Nodup := by
  unfold projectFiles
  split
  · rename_i e he
    obtain ⟨hnodup, hbelow⟩ := nodup_walk (s := s) (h.entry he) []
    refine List.Nodup.sublist (List.filter_sublist.map _) ?_
    rw [List.map_map]
    have hpaths := hnodup.map_on (f := Text.join [Path.slash]) fun a ha b hb hab => by
      rw [← splitOn_of_isBelow (hbelow a ha), ← splitOn_of_isBelow (hbelow b hb), hab]
    rwa [List.map_map] at hpaths
  · exact List.nodup_nil

/-- The path of a file of a scan says something. -/
theorem path_ne_nil {projectDir : Path} {t : Tree} (h : t.IsProper) {f : SourceFile}
    (hf : f ∈ projectFiles s projectDir t) : f.path ≠ [] := by
  obtain ⟨place, hbelow, hpath⟩ := exists_place_of_mem_projectFiles h hf
  intro hnil
  have hsplit := splitOn_of_isBelow hbelow
  rw [← hpath, hnil] at hsplit
  obtain ⟨names, -, hnames, hplace⟩ := hbelow
  have hempty : ([] : Text) ∈ names := by
    rw [List.nil_append] at hplace
    rw [← hplace, ← hsplit]
    exact List.mem_singleton_self _
  exact (hnames [] hempty).1 rfl

end Scan

end Mend
