import Mend.Project.Tree

/-!
# Writing and reading files

A write concerns one file. What is read at its path afterwards is what was written, what is read at
any other path is what was read there before, and a second write makes the first one unseen.

Whether a path leads anywhere depends on the tree, but the place that it leads to does not: it can
be read off the path, and two paths are apart if they do not lead to the same place.

## Main definitions

* `Entry.isDirAt` — whether there is a directory at a place.
* `Path.goal`, `Path.Apart` — the place that a path leads to, and paths to different places.
* `Path.IsNameable` — paths that the file system can be given.
* `Tree.contents?` — the contents of the file at a path, if there is one.
-/

namespace Mend

namespace Entry

/-! ## Entries at places -/

/-- Whether there is a directory at a place. -/
def isDirAt (e : Entry) (here : Place) : Bool :=
  match e.find? here with
  | some (.dir _) => true
  | _ => false

@[simp] theorem find?_nil (e : Entry) : e.find? [] = some e := rfl

@[simp] theorem find?_cons (e : Entry) (name : Text) (rest : Place) :
    e.find? (name :: rest) = (e.entries.lookup name).bind (·.find? rest) := by
  cases h : e.entries.lookup name <;> simp [find?, h]

theorem lookup_named (n m : Text) (e : Entry) (es : List (Text × Entry)) :
    ((n, e) :: es).lookup m = if m = n then some e else es.lookup m := by
  by_cases h : m = n
  · subst h
    simp
  · have hb : (m == n) = false := beq_false_of_ne h
    simp [List.lookup_cons, hb, h]

@[simp] theorem lookup_putNamed (name m : Text) (e : Entry) (es : List (Text × Entry)) :
    (putNamed name e es).lookup m = if m = name then some e else es.lookup m := by
  induction es with
  | nil => simp [putNamed, lookup_named]
  | cons x es ih =>
      obtain ⟨n, e'⟩ := x
      by_cases hn : n = name
      · subst hn
        by_cases hm : m = n <;> simp [putNamed, lookup_named, hm]
      · by_cases hm : m = name
        · subst hm
          simp [putNamed, lookup_named, hn, Ne.symm hn, ih]
        · simp [putNamed, lookup_named, hn, hm, ih]

theorem putNamed_putNamed (name : Text) (a b : Entry) (es : List (Text × Entry)) :
    putNamed name b (putNamed name a es) = putNamed name b es := by
  induction es with
  | nil => simp [putNamed]
  | cons x es ih =>
      by_cases h : x.1 = name <;> simp [putNamed, h, ih]

/-- Putting an entry where it is already changes nothing. -/
theorem putNamed_eq_self {name : Text} {e : Entry} {es : List (Text × Entry)}
    (h : es.lookup name = some e) : putNamed name e es = es := by
  induction es with
  | nil => simp at h
  | cons x es ih =>
      obtain ⟨n, e'⟩ := x
      rw [lookup_named] at h
      by_cases hn : n = name
      · subst hn
        simp only [if_true, Option.some.injEq] at h
        simp [putNamed, h]
      · simp only [Ne.symm hn, if_false] at h
        simp [putNamed, hn, ih h]

@[simp] theorem find?_put_self (e new : Entry) (here : Place) :
    (e.put new here).find? here = some new := by
  induction here generalizing e with
  | nil => rfl
  | cons name here ih => simp [put, entries, ih]

/-- Of two entries put at one place, only the second one is seen. -/
theorem put_put (e a b : Entry) (here : Place) : (e.put a here).put b here = e.put b here := by
  induction here generalizing e with
  | nil => rfl
  | cons name here ih => simp [put, entries, ih, putNamed_putNamed]

theorem put_eq_self {e new : Entry} {here : Place} (h : e.find? here = some new) :
    e.put new here = e := by
  induction here generalizing e with
  | nil => simpa [put] using h.symm
  | cons name here ih =>
      rw [find?_cons] at h
      obtain ⟨e', he, hrest⟩ := Option.bind_eq_some_iff.1 h
      cases e with
      | file contents => simp [entries] at he
      | dir es =>
          have he : es.lookup name = some e' := he
          simp [put, entries, he, ih hrest, putNamed_eq_self he]

/-- A file put into a directory, where none is, is all that is new. -/
theorem find?_put_file {e : Entry} {here : Place} (contents : Bytes)
    (hparent : e.isDirAt here.dropLast) (hplace : e.isDirAt here = false) (m : Place) :
    (e.put (.file contents) here).isDirAt m = e.isDirAt m ∧
      (m ≠ here → ∀ b, (e.put (.file contents) here).find? m = some (.file b) ↔
        e.find? m = some (.file b)) := by
  induction here generalizing e m with
  | nil => exact absurd hparent (by simp [hplace])
  | cons name rest ih =>
      cases e with
      | file b => cases rest <;> simp [isDirAt, entries] at hparent
      | dir es =>
          cases m with
          | nil => simp [put, isDirAt]
          | cons n m =>
              by_cases hn : n = name
              · subst hn
                cases rest with
                | nil =>
                    cases hl : es.lookup n with
                    | none => cases m <;> simp [put, isDirAt, entries, hl]
                    | some x =>
                        cases x with
                        | dir xs => simp [isDirAt, entries, hl] at hplace
                        | file b => cases m <;> simp [put, isDirAt, entries, hl]
                | cons k rest =>
                    cases hl : es.lookup n with
                    | none => simp [isDirAt, entries, hl] at hparent
                    | some x =>
                        have hp : x.isDirAt (k :: rest).dropLast := by
                          simpa [isDirAt, entries, hl] using hparent
                        have hx : x.isDirAt (k :: rest) = false := by
                          simpa [isDirAt, entries, hl] using hplace
                        have := ih hp hx m
                        simpa [put, isDirAt, entries, hl] using this
              · simp [put, isDirAt, entries, hn]

/-! ## Places of paths -/

/-- The place that names lead to from `here`, whether or not there is anything on the way. -/
def goalFrom (here : Place) : List Text → Place
  | [] => here
  | name :: rest =>
    if name == [0x2E, 0x2E] then goalFrom here.dropLast rest else goalFrom (here ++ [name]) rest

theorem eq_goalFrom_of_locate {e : Entry} {here place : Place} {names : List Text}
    (h : e.locate here names = .ok place) : place = goalFrom here names := by
  induction names generalizing here with
  | nil => simpa [locate, goalFrom] using h.symm
  | cons name rest ih =>
      simp only [locate] at h
      simp only [goalFrom]
      split at h <;> try contradiction
      split at h <;> try contradiction
      split at h
      · rename_i hdots
        simp only [hdots, if_true]
        split at h <;> try contradiction
        exact ih h
      · rename_i hdots
        simp only [hdots]
        exact ih h

/-- Where names lead depends on nothing but the directories on the way. -/
theorem locate_eq_ok_of_isDirAt {e e' : Entry} (hdirs : ∀ m, e.isDirAt m = e'.isDirAt m)
    {here place : Place} {names : List Text} (h : e.locate here names = .ok place) :
    e'.locate here names = .ok place := by
  induction names generalizing here with
  | nil => simpa [locate] using h
  | cons name rest ih =>
      have hdir := hdirs here
      simp only [locate] at h ⊢
      split at h <;> try contradiction
      rename_i es hes
      obtain ⟨es', hes'⟩ : ∃ es', e'.find? here = some (.dir es') := by
        simp only [isDirAt, hes] at hdir
        split at hdir
        · exact ⟨_, ‹_›⟩
        · contradiction
      simp only [hes']
      split at h <;> try contradiction
      rename_i hlength
      simp only [hlength, if_false]
      split at h
      · rename_i hdots
        simp only [hdots, if_true]
        split at h <;> try contradiction
        rename_i hhere
        simp only [hhere]
        exact ih h
      · rename_i hdots
        simp only [hdots]
        exact ih h

end Entry

namespace Path

/-- The place that a path leads to, if it leads anywhere. -/
def goal (p : Path) : Place := Entry.goalFrom [] p.parts

/-- Whether two paths lead to different places. -/
def Apart (p q : Path) : Prop := p.goal ≠ q.goal

/-- Whether the file system can be given a path at all. -/
def IsNameable (p : Path) : Prop := Tree.checkPath p = .ok ()

instance (p q : Path) : Decidable (p.Apart q) := inferInstanceAs (Decidable (p.goal ≠ q.goal))

end Path

namespace Tree

theorem eq_goal_of_place {t : Tree} {p : Path} {here : Place} (h : t.place p = .ok here) :
    here = p.goal := by
  rw [place] at h
  split at h <;> try contradiction
  split at h <;> try contradiction
  exact Entry.eq_goalFrom_of_locate h

theorem place_eq_ok_of_isDirAt {t t' : Tree} (hdirs : ∀ m, t.top.isDirAt m = t'.top.isDirAt m)
    {p : Path} {here : Place} (h : t.place p = .ok here) : t'.place p = .ok here := by
  rw [place] at h ⊢
  split at h <;> try contradiction
  rename_i hlength
  split at h <;> try contradiction
  rename_i hroot
  simp only [hlength, hroot, if_false]
  exact Entry.locate_eq_ok_of_isDirAt hdirs h

/-! ## Single operations -/

theorem entry_eq_ok_iff {t : Tree} {p : Path} {e : Entry} :
    t.entry p = .ok e ↔ t.place p = .ok p.goal ∧ t.top.find? p.goal = some e := by
  cases hplace : t.place p with
  | error problem => simp [entry, hplace, bind, Except.bind]
  | ok here =>
      rw [eq_goal_of_place hplace]
      cases hfind : t.top.find? p.goal <;> simp [entry, hplace, eq_goal_of_place hplace, hfind,
        bind, Except.bind]

theorem read_eq_ok_iff {t : Tree} {p : Path} {b : Bytes} :
    t.read p = .ok b ↔ checkPath p = .ok () ∧ t.entry p = .ok (.file b) := by
  cases hcheck : checkPath p with
  | error fault => simp [read, hcheck, bind, Except.bind]
  | ok u =>
      cases hentry : t.entry p with
      | error problem => simp [read, hcheck, hentry, atPath, bind, Except.bind]
      | ok e => cases e <;> simp [read, hcheck, hentry, atPath, bind, Except.bind]

theorem writable_eq_ok_iff {t : Tree} {here : Place} :
    t.writable here = .ok () ↔ t.top.isDirAt here.dropLast ∧ t.top.isDirAt here = false := by
  rw [writable, Entry.isDirAt, Entry.isDirAt]
  cases t.top.find? here with
  | none => cases t.top.find? here.dropLast with
    | none => simp
    | some parent => cases parent <;> simp
  | some e => cases e with
    | dir es => simp
    | file b => cases t.top.find? here.dropLast with
      | none => simp
      | some parent => cases parent <;> simp

theorem write_eq_ok_iff {t t' : Tree} {p : Path} {b : Bytes} :
    t.write p b = .ok t' ↔ checkPath p = .ok () ∧ t.place p = .ok p.goal ∧
      t.writable p.goal = .ok () ∧ t' = ⟨t.top.put (.file b) p.goal⟩ := by
  cases hcheck : checkPath p with
  | error fault => simp [write, hcheck, bind, Except.bind]
  | ok u =>
      cases hplace : t.place p with
      | error problem => simp [write, hcheck, hplace, atPath, bind, Except.bind]
      | ok here =>
          rw [eq_goal_of_place hplace]
          cases hwritable : t.writable p.goal <;>
            simp [write, hcheck, hplace, eq_goal_of_place hplace, hwritable, atPath, bind,
              Except.bind, pure, Except.pure, eq_comm]

/-! ## One operation after another -/

section

variable {t t' : Tree} {p q : Path} {a b : Bytes}

/-- A write makes no directory and removes none. -/
theorem isDirAt_of_write (h : t.write p a = .ok t') (m : Place) :
    t'.top.isDirAt m = t.top.isDirAt m := by
  obtain ⟨-, -, hwritable, rfl⟩ := write_eq_ok_iff.1 h
  obtain ⟨hparent, hplace⟩ := writable_eq_ok_iff.1 hwritable
  exact (Entry.find?_put_file a hparent hplace m).1

theorem place_of_write (h : t.write p a = .ok t') (q : Path) (here : Place) :
    t'.place q = .ok here ↔ t.place q = .ok here :=
  ⟨place_eq_ok_of_isDirAt (isDirAt_of_write h),
    place_eq_ok_of_isDirAt fun m => (isDirAt_of_write h m).symm⟩

/-- What is read is what was written. -/
theorem read_of_write (h : t.write p a = .ok t') : t'.read p = .ok a := by
  have hplace' := place_of_write h p p.goal
  obtain ⟨hcheck, hplace, -, rfl⟩ := write_eq_ok_iff.1 h
  rw [read_eq_ok_iff, entry_eq_ok_iff]
  exact ⟨hcheck, hplace'.2 hplace, Entry.find?_put_self ..⟩

/-- Where something can be written, anything can be written. -/
theorem exists_write_of_write (h : t.write p a = .ok t') (b : Bytes) : ∃ t'', t.write p b = .ok t'' := by
  obtain ⟨hcheck, hplace, hwritable, -⟩ := write_eq_ok_iff.1 h
  exact ⟨_, write_eq_ok_iff.2 ⟨hcheck, hplace, hwritable, rfl⟩⟩

/-- A second write to a file makes the first one unseen. -/
theorem write_of_write (h : t.write p a = .ok t') : t'.write p b = t.write p b := by
  obtain ⟨t'', h'⟩ := exists_write_of_write h b
  have hplace' := place_of_write h p p.goal
  have hdirs := isDirAt_of_write h
  rw [h', write_eq_ok_iff]
  obtain ⟨-, -, -, rfl⟩ := write_eq_ok_iff.1 h
  obtain ⟨hcheck, hplace, hwritable, rfl⟩ := write_eq_ok_iff.1 h'
  refine ⟨hcheck, hplace'.2 hplace, ?_, ?_⟩
  · rw [writable_eq_ok_iff, hdirs, hdirs]
    exact writable_eq_ok_iff.1 hwritable
  · rw [Entry.put_put]

/-- Writing into a file what is in it changes nothing. -/
theorem eq_of_write_of_read (h : t.write p b = .ok t') (hread : t.read p = .ok b) : t' = t := by
  obtain ⟨-, -, -, rfl⟩ := write_eq_ok_iff.1 h
  obtain ⟨-, hentry⟩ := read_eq_ok_iff.1 hread
  rw [Entry.put_eq_self (entry_eq_ok_iff.1 hentry).2]

/-- Writing the old contents back undoes a write. -/
theorem write_back (h : t.write p a = .ok t') (hread : t.read p = .ok b) :
    t'.write p b = .ok t := by
  obtain ⟨t'', h'⟩ := exists_write_of_write h b
  rw [write_of_write h, h', eq_of_write_of_read h' hread]

/-- Whatever can be read is there. -/
theorem isThere_of_read (h : t.read p = .ok b) : t.isThere p = .ok true := by
  obtain ⟨hcheck, hentry⟩ := read_eq_ok_iff.1 h
  simp [isThere, hcheck, hentry]

end

/-! ## Other files -/

/-- The contents of the file at a path, if there is one. -/
def contents? (t : Tree) (p : Path) : Option Bytes := (t.read p).toOption

@[simp] theorem contents?_eq_some_iff {t : Tree} {p : Path} {b : Bytes} :
    t.contents? p = some b ↔ t.read p = .ok b := by
  rw [contents?]
  cases t.read p <;> simp [Except.toOption]

/-- A write concerns no file at a path that leads elsewhere. -/
theorem contents?_of_write {t t' : Tree} {p q : Path} {a : Bytes} (h : t.write p a = .ok t')
    (hapart : p.Apart q) : t'.contents? q = t.contents? q := by
  apply Option.ext
  intro b
  have hplace' := place_of_write h q q.goal
  obtain ⟨-, -, hwritable, rfl⟩ := write_eq_ok_iff.1 h
  obtain ⟨hparent, hplace⟩ := writable_eq_ok_iff.1 hwritable
  simp only [contents?_eq_some_iff, read_eq_ok_iff, entry_eq_ok_iff, hplace',
    (Entry.find?_put_file a hparent hplace q.goal).2 (Ne.symm hapart) b]

/-! ## Faults -/

section

variable {t : Tree} {p : Path} {e : Fault}

theorem exists_file_of_atPath {α : Type} {r : Except FileProblem α} (h : atPath p r = .error e) :
    ∃ fault, e = .file fault := by
  cases r with
  | ok a => cases h
  | error problem => exact ⟨_, (Except.error.inj h).symm⟩

/-- Reading fails with a file fault, except at a path that the file system cannot be given. -/
theorem exists_file_of_read (hp : p.IsNameable) (h : t.read p = .error e) :
    ∃ fault, e = .file fault := by
  have hcheck : checkPath p = .ok () := hp
  cases hentry : atPath p (t.entry p) with
  | error e' =>
      simp only [read, hcheck, hentry, bind, Except.bind, Except.error.injEq] at h
      exact h ▸ exists_file_of_atPath hentry
  | ok entry =>
      cases entry with
      | file b => simp [read, hcheck, hentry, bind, Except.bind] at h
      | dir es =>
          simp only [read, hcheck, hentry, bind, Except.bind, Except.error.injEq] at h
          exact ⟨_, h.symm⟩

/-- Writing fails with a file fault, except at a path that the file system cannot be given. -/
theorem exists_file_of_write (hp : p.IsNameable) {b : Bytes} (h : t.write p b = .error e) :
    ∃ fault, e = .file fault := by
  have hcheck : checkPath p = .ok () := hp
  cases hplace : atPath p (t.place p) with
  | error e' =>
      simp only [write, hcheck, hplace, bind, Except.bind, Except.error.injEq] at h
      exact h ▸ exists_file_of_atPath hplace
  | ok here =>
      cases hwritable : atPath p (t.writable here) with
      | error e' =>
          simp only [write, hcheck, hplace, hwritable, bind, Except.bind,
            Except.error.injEq] at h
          exact h ▸ exists_file_of_atPath hwritable
      | ok u =>
          simp [write, hcheck, hplace, hwritable, bind, Except.bind, pure, Except.pure] at h

/-- Looking for what is at a path fails with a file fault. -/
theorem exists_file_of_isThere (h : t.isThere p = .error e) : ∃ fault, e = .file fault := by
  have hcheck : checkPath p = .ok () ∨ t.isThere p = .ok false := by
    rw [isThere, checkPath]
    cases Utf8.encodeKeeping p.toText with
    | error i => exact .inr rfl
    | ok bytes =>
        cases hzero : p.toText.elem 0 with
        | true => exact .inr rfl
        | false => exact .inl rfl
  rcases hcheck with hcheck | hthere
  · simp only [isThere, hcheck] at h
    split at h
    · cases h
    · exact ⟨_, (Except.error.inj h).symm⟩
    · cases h
  · cases h.symm.trans hthere

end

end Tree

end Mend
