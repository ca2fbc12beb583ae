import Mend.Build.Detect
import Mend.Proofs.Project.Writing

/-!
# The outline of a project

What is in the files of a project makes no difference to how it is compiled: that is found out from
the names in it. Writing into a file that is there changes no name.

## Main definitions

* `Entry.outline`, `Tree.outline` — the same files and directories, with nothing in the files.

## Main statements

* `Tree.outline_of_write` — a file that is written over stays in the outline as it is.
* `Tree.isThere_outline`, `Build.hasJava_outline` — what is asked of a project to find out how to compile
  it is answered by its outline.
-/

namespace Mend

namespace Entry

mutual

/-- The same files and directories, with nothing in the files. -/
def outline : Entry → Entry
  | file _ => file []
  | dir es => dir (outlineOf es)

/-- The outlines of named entries. -/
def outlineOf : List (Text × Entry) → List (Text × Entry)
  | [] => []
  | (name, e) :: rest => (name, outline e) :: outlineOf rest

end

@[simp] theorem entries_outline (e : Entry) : e.outline.entries = outlineOf e.entries := by
  cases e <;> simp [outline, outlineOf, entries]

@[simp] theorem lookup_outlineOf (name : Text) (es : List (Text × Entry)) :
    (outlineOf es).lookup name = (es.lookup name).map outline := by
  induction es with
  | nil => simp [outlineOf]
  | cons x es ih =>
      obtain ⟨n, e⟩ := x
      rw [outlineOf, lookup_named, lookup_named, ih]
      split <;> rfl

/-- The outline of what is at a place is at that place of the outline. -/
@[simp] theorem find?_outline (e : Entry) (here : Place) :
    e.outline.find? here = (e.find? here).map outline := by
  induction here generalizing e with
  | nil => rfl
  | cons name rest ih =>
      rw [find?_cons, find?_cons, entries_outline, lookup_outlineOf]
      cases e.entries.lookup name with
      | none => rfl
      | some e' => exact ih e'

@[simp] theorem locate_outline (e : Entry) (here : Place) (names : List Text) :
    e.outline.locate here names = e.locate here names := by
  induction names generalizing here with
  | nil => rfl
  | cons name rest ih =>
      rw [locate, locate, find?_outline]
      cases e.find? here with
      | none => rfl
      | some e' =>
          cases e' with
          | file contents => simp [outline]
          | dir es => simp [outline, ih]

mutual

@[simp] theorem anyName_outline (p : Text → Bool) (e : Entry) : e.outline.anyName p = e.anyName p :=
  match e with
  | file contents => by simp only [outline, anyName]
  | dir es => by simp only [outline, anyName, anyNameOf_outlineOf p es]

theorem anyNameOf_outlineOf (p : Text → Bool) (es : List (Text × Entry)) :
    anyName.anyNameOf p (outlineOf es) = anyName.anyNameOf p es :=
  match es with
  | [] => rfl
  | (name, e) :: rest => by
      simp only [outlineOf, anyName.anyNameOf, anyName_outline p e, anyNameOf_outlineOf p rest]

end

theorem outlineOf_putNamed (name : Text) (e : Entry) (es : List (Text × Entry)) :
    outlineOf (putNamed name e es) = putNamed name e.outline (outlineOf es) := by
  induction es with
  | nil => simp [putNamed, outlineOf]
  | cons x es ih =>
      obtain ⟨n, e'⟩ := x
      by_cases h : n = name
      · simp [putNamed, outlineOf, h]
      · simp [putNamed, outlineOf, h, ih]

theorem outline_put (e new : Entry) (here : Place) :
    (e.put new here).outline = e.outline.put new.outline here := by
  induction here generalizing e with
  | nil => rfl
  | cons name rest ih =>
      rw [put, put, outline, outlineOf_putNamed, ih, entries_outline, lookup_outlineOf]
      cases e.entries.lookup name <;> simp [outline, outlineOf]

/-- A file in place of another one makes no difference to the outline. -/
theorem outline_put_file {e : Entry} {here : Place} {old : Bytes} (contents : Bytes)
    (h : e.find? here = some (.file old)) : (e.put (.file contents) here).outline = e.outline := by
  rw [outline_put]
  refine put_eq_self ?_
  rw [find?_outline, h]
  simp [outline]

end Entry

namespace Tree

/-- The tree with nothing in its files. -/
def outline (t : Tree) : Tree := ⟨t.top.outline⟩

@[simp] theorem place_outline (t : Tree) (p : Path) : t.outline.place p = t.place p := by
  simp [place, outline]

theorem entry_outline (t : Tree) (p : Path) : t.outline.entry p = (t.entry p).map Entry.outline := by
  rw [entry, entry, place_outline]
  cases t.place p with
  | error problem => rfl
  | ok here =>
      have hfind : t.outline.top.find? here = (t.top.find? here).map Entry.outline :=
        Entry.find?_outline t.top here
      simp only [bind, Except.bind, hfind]
      cases t.top.find? here <;> rfl

@[simp] theorem isThere_outline (t : Tree) (p : Path) : t.outline.isThere p = t.isThere p := by
  rw [isThere, isThere, entry_outline]
  cases t.entry p <;> rfl

/-- Writing into a file that is there changes nothing in the outline. -/
theorem outline_of_write {t t' : Tree} {p : Path} {a b : Bytes} (h : t.write p a = .ok t')
    (hread : t.read p = .ok b) : t'.outline = t.outline := by
  obtain ⟨-, -, -, rfl⟩ := write_eq_ok_iff.1 h
  obtain ⟨-, hentry⟩ := read_eq_ok_iff.1 hread
  exact congrArg Tree.mk (Entry.outline_put_file a (entry_eq_ok_iff.1 hentry).2)

end Tree

namespace Build

theorem hasJava_outline (t : Tree) (dir : Path) : hasJava t.outline dir = hasJava t dir := by
  rw [hasJava, hasJava, Tree.entry_outline]
  cases t.entry dir with
  | error problem => rfl
  | ok e => exact Entry.anyName_outline _ e

end Build

end Mend
