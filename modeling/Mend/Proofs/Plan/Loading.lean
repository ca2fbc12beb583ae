import Mend.Cli.Run
import Mend.Proofs.Fix.Containment
import Mend.Proofs.Plan.File
import Mend.Proofs.Plan.Legible

/-!
# Loading plans

What becomes of a plan file, whatever is in it. There is a plan just if the file can be read, its
contents are a document, and the document is legible as a plan. A file that cannot be read and a text
that is no document are errors of the settings. All other defects are not: bytes that are not UTF-8, a
document that is too deep or has a numeral that is too long, and a document that is no plan.

## Main definitions

* `World.FindsText` — the texts that are found in files.
* `Plan.Loads` — how loading ends, by what there is under the path.

## Main statements

* `Plan.load_contained` — what becomes of a plan file.
-/

namespace Mend

/-- Whether a text is not read only because that takes the reader too much. -/
def Json.Reason.isExcess : Reason → Bool
  | .tooDeep | .numeralTooLong _ => true
  | _ => false

namespace World

variable {σ : Type} {w : World σ} {path : Path}

/-- The text that is found in a file, with the line ends of Unix. -/
def FindsText (w : World σ) (path : Path) (t : Text) : Prop :=
  ∃ b u, w.reading path = .ok b ∧ Utf8.decode b = .ok u ∧ u.unixLines = t

/-- A file is not read if the file system cannot be given its path, or if it cannot be opened. -/
theorem cases_of_reading_error {e : Fault} (h : w.reading path = .error e) :
    ¬path.IsNameable ∧ e.IsCoding ∨ ∃ f, e = .file f := by
  by_cases hpath : path.IsNameable
  · exact .inr (exists_file_of_reading hpath h)
  · obtain ⟨e', he', hcoding⟩ := Fix.exists_coding_of_reading (s := w) hpath
    obtain rfl := Except.error.inj (h.symm.trans he')
    exact .inl ⟨hpath, hcoding⟩

end World

namespace Plan

variable {σ : Type}

/-- How loading a plan ends, by what is found under the path. -/
inductive Loads (w : World σ) (depth : Json.Depth) (path : Path) : Except Fault Plan → Prop
  | plan {t : Text} {v : Value} {p : Plan} (text : w.FindsText path t)
      (document : Json.read depth t = .ok v) (legible : Legible v) (value : ofValue v = .ok p) :
      Loads w depth path (.ok p)
  | unreadable {f : FileFault} (read : w.reading path = .error (.file f)) :
      Loads w depth path (.error (.config (.planUnreadable path.toText f.message)))
  | malformed {t : Text} {f : Json.Failure} (text : w.FindsText path t)
      (document : Json.read depth t = .error f) (simple : f.reason.isExcess = false) :
      Loads w depth path (.error (.config (.planUnreadable path.toText f.message)))
  | unnameable {e : Fault} (refused : ¬path.IsNameable) (coding : e.IsCoding) :
      Loads w depth path (.error e)
  | undecodable {b : Bytes} {f : Utf8.Failure} (read : w.reading path = .ok b)
      (text : Utf8.decode b = .error f) : Loads w depth path (.error (.undecodable f))
  | excessive {t : Text} {f : Json.Failure} (text : w.FindsText path t)
      (document : Json.read depth t = .error f) (excess : f.reason.isExcess = true) :
      Loads w depth path (.error (.badDocument f))
  | illegible {t : Text} {v : Value} {e : Fault} (text : w.FindsText path t)
      (document : Json.read depth t = .ok v) (illegible : ¬Legible v)
      (contents : e.isOfContents = true) : Loads w depth path (.error e)

theorem isUnreadable_badDocument (f : Json.Failure) :
    isUnreadable (.badDocument f) = !f.reason.isExcess := by
  obtain ⟨reason, position, line, column⟩ := f
  cases reason <;> rfl

theorem isUnreadable_of_isOfContents {e : Fault} (h : e.isOfContents = true) :
    isUnreadable e = false := by
  cases e with
  | file | badDocument => cases h
  | _ => rfl

theorem isUnreadable_of_isCoding {e : Fault} (h : e.IsCoding) : isUnreadable e = false := by
  rcases h with ⟨t, i, rfl⟩ | rfl <;> rfl

/-- Loading ends as it must with what is found under the path. -/
theorem loads_of_run (depth : Json.Depth) (path : Path) (w : World σ) :
    ∃ r, (load depth path).run w = (r, w.looked) ∧ Loads w depth path r := by
  refine ⟨_, run_load_eq depth path w, ?_⟩
  cases hread : w.reading path with
  | error e =>
      show Loads w depth path (if isUnreadable e then _ else .error e)
      rcases World.cases_of_reading_error hread with ⟨hpath, hcoding⟩ | ⟨f, rfl⟩
      · rw [isUnreadable_of_isCoding hcoding]
        exact .unnameable hpath hcoding
      · exact .unreadable hread
  | ok b =>
      rw [ok_bind, ofBytes]
      cases hdecode : Utf8.decode b with
      | error f => exact .undecodable hread hdecode
      | ok t =>
          have htext : w.FindsText path t.unixLines := ⟨b, t, hread, hdecode, rfl⟩
          dsimp only
          rw [ofText]
          cases hdocument : Json.read depth t.unixLines with
          | error f =>
              show Loads w depth path (if isUnreadable (.badDocument f) then _ else _)
              rw [isUnreadable_badDocument]
              cases hexcess : f.reason.isExcess with
              | true => exact .excessive htext hdocument hexcess
              | false => exact .malformed htext hdocument hexcess
          | ok v =>
              have hplan := reads_ofValue v
              dsimp only
              cases hvalue : ofValue v with
              | ok p => exact .plan htext hdocument (hplan.of_ok hvalue) hvalue
              | error e =>
                  rw [hvalue] at hplan
                  dsimp only
                  rw [isUnreadable_of_isOfContents hplan.2]
                  exact .illegible htext hdocument hplan.1 hplan.2

/-- Whatever is wrong with a plan file, the program ends with status 1. -/
theorem Loads.status {w : World σ} {depth : Json.Depth} {path : Path} {e : Fault}
    (h : Loads w depth path (.error e)) : (Cli.failure .fix e).2 = 1 := by
  cases h with
  | unnameable _ hcoding => rcases hcoding with ⟨t, i, rfl⟩ | rfl <;> rfl
  | illegible _ _ _ hcontents =>
      cases e with
      | scan f => cases hcontents
      | _ => rfl
  | _ => rfl

/-- What becomes of a plan file. Loading is one look and changes nothing. There is a plan just if a text
is found under the path that is a document, and the document is legible as a plan. It is an error of the
settings just if the file cannot be read, or if its text is no document, unless that takes the reader too
much. What else can be wrong is no error of the settings; the program ends with status 1 all the same. -/
theorem load_contained (depth : Json.Depth) (path : Path) (w : World σ) :
    ∃ r, (load depth path).run w = (r, w.looked) ∧ Loads w depth path r ∧
      ((∃ p, r = .ok p) ↔
        ∃ t v, w.FindsText path t ∧ Json.read depth t = .ok v ∧ Legible v) ∧
      ((∃ c, r = .error (.config c)) ↔
        (∃ f, w.reading path = .error (.file f)) ∨
          ∃ t f, w.FindsText path t ∧ Json.read depth t = .error f ∧ f.reason.isExcess = false) ∧
      ∀ e, r = .error e → (Cli.failure .fix e).2 = 1 := by
  obtain ⟨r, hrun, hloads⟩ := loads_of_run depth path w
  refine ⟨r, hrun, hloads, ⟨?_, ?_⟩, ⟨?_, ?_⟩, ?_⟩
  · rintro ⟨p, rfl⟩
    cases hloads with
    | plan htext hdocument hlegible _ => exact ⟨_, _, htext, hdocument, hlegible⟩
  · rintro ⟨t, v, ⟨b, u, hread, hdecode, rfl⟩, hdocument, hlegible⟩
    obtain ⟨p, hp⟩ := (reads_ofValue v).exists_ok hlegible
    have hbytes : ofBytes depth b = .ok p := by
      simp only [ofBytes, hdecode, ofText, hdocument, hp]
    exact ⟨p, congrArg Prod.fst (hrun.symm.trans (run_load hread hbytes))⟩
  · rintro ⟨c, rfl⟩
    cases hloads with
    | unreadable hread => exact .inl ⟨_, hread⟩
    | malformed htext hdocument hsimple => exact .inr ⟨_, _, htext, hdocument, hsimple⟩
    | unnameable _ hcoding => rcases hcoding with ⟨t, i, h⟩ | h <;> cases h
    | illegible _ _ _ hcontents => cases hcontents
  · rw [run_load_eq] at hrun
    rintro (⟨f, hread⟩ | ⟨t, f, ⟨b, u, hread, hdecode, rfl⟩, hdocument, hsimple⟩)
    · rw [hread] at hrun
      exact ⟨_, (congrArg Prod.fst hrun).symm⟩
    · simp only [hread, ok_bind, ofBytes, hdecode, ofText, hdocument, isUnreadable_badDocument,
        hsimple] at hrun
      exact ⟨_, (congrArg Prod.fst hrun).symm⟩
  · rintro e rfl
    exact hloads.status

/-- A byte that begins no character is no error of the settings. -/
example : ((load .least (Path.child {} [0x70])).run
    { tree := ⟨.dir [([0x70], .file [0xFF])]⟩, extra := () }).1 =
      .error (.undecodable ⟨[0xFF], 0, .start⟩) := by
  rfl

/-- Neither is a document of another shape. -/
example : ((load .least (Path.child {} [0x70])).run
    { tree := ⟨.dir [([0x70], .file [0x5B, 0x5D])]⟩, extra := () }).1 =
      .error (.lacks "list" "get") := by
  rfl

end Plan

end Mend
