import Mend.Proofs.Fix.History
import Mend.Proofs.Text.Kept

/-!
# Bytes outside an edit

A candidate that differs from the old text of a file in one place differs from the old contents in the
bytes of that place only: those before it and behind it are written as they were read, whether or not
they encode anything.

## Main definitions

* `Backup.Edit` — the bytes of a text and of the parts around it, where one part is replaced.

## Main statements

* `Backup.writeCandidate_edit` — what is written in place of a part of the old text.
-/

namespace Mend.Backup

variable {σ : Type}

/-- The bytes of three parts of a text, and of a text that takes the place of the second one. -/
structure Edit (before old behind new : Text) where
  first : Bytes
  removed : Bytes
  last : Bytes
  written : Bytes
  encode_before : Utf8.encodeKeeping before = .ok first
  encode_old : Utf8.encodeKeeping old = .ok removed
  encode_behind : Utf8.encodeKeeping behind = .ok last
  encode_new : Utf8.encode new = .ok written

namespace Edit

variable {before old behind new : Text}

/-- The bytes of the three parts, one after the other. -/
def source (e : Edit before old behind new) : Bytes := e.first ++ e.removed ++ e.last

/-- The bytes of the first part, of what takes the place of the second one, and of the third. -/
def result (e : Edit before old behind new) : Bytes := e.first ++ e.written ++ e.last

/-- Whatever can be written can be written in parts, and characters can be put in place of a part. -/
theorem exists_of_isWritable (h : Utf8.IsWritable (before ++ old ++ behind))
    (hnew : ∀ c ∈ new, Text.isScalar c = true) :
    ∃ e : Edit before old behind new, Utf8.encodeKeeping (before ++ old ++ behind) = .ok e.source ∧
      Utf8.encodeKeeping (before ++ new ++ behind) = .ok e.result := by
  have hparts := h
  rw [Utf8.isWritable_append, Utf8.isWritable_append] at hparts
  obtain ⟨⟨hbefore, hold⟩, hbehind⟩ := hparts
  have hwritable : Utf8.IsWritable new := fun c hc => by rw [hnew c hc, Bool.true_or]
  have hresult : Utf8.IsWritable (before ++ new ++ behind) := by
    rw [Utf8.isWritable_append, Utf8.isWritable_append]
    exact ⟨⟨hbefore, hwritable⟩, hbehind⟩
  refine ⟨⟨_, _, _, _, Utf8.encodeKeeping_eq hbefore, Utf8.encodeKeeping_eq hold,
    Utf8.encodeKeeping_eq hbehind, Utf8.encode_of_isScalar hnew⟩, ?_, ?_⟩
  · rw [Utf8.encodeKeeping_eq h, List.flatMap_append, List.flatMap_append]
    rfl
  · rw [Utf8.encodeKeeping_eq hresult, List.flatMap_append, List.flatMap_append]
    rfl

end Edit

/-- A candidate with known bytes is written as these. -/
theorem run_writeCandidate_of_encode {h : Held σ} {content : Text} {bytes : Bytes}
    (hbytes : Utf8.encodeKeeping content = .ok bytes) :
    (writeCandidate content).run h =
      (((World.writeFile h.backup.path bytes).run h.world).1,
        { world := ((World.writeFile h.backup.path bytes).run h.world).2
          backup := h.backup.changed }) := by
  rw [run_writeCandidate, hbytes]

/-- A candidate that was written without a fault is in the file. -/
theorem read_of_writeCandidate {h h' : Held σ} {content : Text} {bytes : Bytes}
    (hbytes : Utf8.encodeKeeping content = .ok bytes)
    (hrun : (writeCandidate content).run h = (.ok (), h')) :
    h'.world.tree.read h.backup.path = .ok bytes := by
  rw [run_writeCandidate_of_encode hbytes] at hrun
  rcases hw : (World.writeFile h.backup.path bytes).run h.world with ⟨r, w⟩
  rw [hw] at hrun
  obtain ⟨rfl, rfl⟩ := Prod.mk.inj hrun
  cases World.wrote_of_run hw with
  | done hwrite => exact Tree.read_of_write hwrite

/-- A candidate that can be encoded is written unless the file or the disk takes no writes. -/
theorem exists_run_writeCandidate {h : Held σ} {content : Text} {bytes : Bytes}
    (hbytes : Utf8.encodeKeeping content = .ok bytes)
    (htakes : h.world.tree.TakesWrites h.backup.path)
    (hdisk : h.world.disk h.world.writes = .done) :
    ∃ h', (writeCandidate content).run h = (.ok (), h') := by
  obtain ⟨b, t, hwrite⟩ := htakes
  obtain ⟨t', hwrite'⟩ := Tree.exists_write_of_write hwrite bytes
  have hrun := World.run_writeFile_of_done hwrite' hdisk
  exact ⟨_, by rw [run_writeCandidate_of_encode hbytes, hrun]⟩

/-- The old contents are the bytes of the old text, whatever they are. If a part of the old text is
replaced by characters, the old contents consist of the bytes of the parts before it, of it, and behind
it; and what is written consists of the same bytes before and behind, with the UTF-8 of the new part
between them. A write that meets no fault leaves just these bytes in the file, and nothing but the file
or the disk stands in the way of it. -/
theorem writeCandidate_edit (h : Held σ) :
    Utf8.encodeKeeping h.backup.baselineText = .ok h.backup.baseline ∧
    ∀ before old behind new : Text, h.backup.baselineText = before ++ old ++ behind →
      (∀ c ∈ new, Text.isScalar c = true) →
      ∃ e : Edit before old behind new,
        h.backup.baseline = e.source ∧
        (writeCandidate (before ++ new ++ behind)).run h =
          (((World.writeFile h.backup.path e.result).run h.world).1,
            { world := ((World.writeFile h.backup.path e.result).run h.world).2
              backup := h.backup.changed }) ∧
        (∀ h', (writeCandidate (before ++ new ++ behind)).run h = (.ok (), h') →
          h'.world.tree.read h.backup.path = .ok e.result) ∧
        (h.world.tree.TakesWrites h.backup.path → h.world.disk h.world.writes = .done →
          ∃ h', (writeCandidate (before ++ new ++ behind)).run h = (.ok (), h')) := by
  have hsame : Utf8.encodeKeeping h.backup.baselineText = .ok h.backup.baseline :=
    Utf8.encodeKeeping_decodeKeeping h.backup.baseline
  refine ⟨hsame, fun before old behind new hsplit hnew => ?_⟩
  have hwritable : Utf8.IsWritable (before ++ old ++ behind) :=
    hsplit ▸ Utf8.isWritable_decodeKeeping h.backup.baseline
  obtain ⟨e, hsource, hresult⟩ := Edit.exists_of_isWritable hwritable hnew
  rw [← hsplit, hsame] at hsource
  exact ⟨e, Except.ok.inj hsource, run_writeCandidate_of_encode hresult,
    fun h' hrun => read_of_writeCandidate hresult hrun,
    fun htakes hdisk => exists_run_writeCandidate hresult htakes hdisk⟩

/-- A file of Latin-1, half a surrogate pair, a slash in two bytes, a character that breaks off, and
ASCII. -/
def garbledBytes : Bytes := [0xE9, 0xED, 0xA0, 0x80, 0xC0, 0xAF, 0xF0, 0x9F, 0x62]

/-- That file under repair. -/
def garbled : Held Unit where
  world := { tree := ⟨.dir [([0x61], .file garbledBytes)]⟩, extra := () }
  backup := keeping (Path.child {} [0x61]) garbledBytes "copy"

theorem writeCandidate_edit_garbled :
    ∃ h', (writeCandidate ([0xDCE9, 0xDCED] ++ [0x20AC] ++ [0xDCAF, 0xDCF0, 0xDC9F, 0x62])).run garbled =
        (.ok (), h') ∧
      h'.world.tree.read (Path.child {} [0x61]) =
        .ok ([0xE9, 0xED] ++ [0xE2, 0x82, 0xAC] ++ [0xAF, 0xF0, 0x9F, 0x62]) := by
  have hnew : ∀ c ∈ ([0x20AC] : Text), Text.isScalar c = true := by decide
  have htakes : garbled.world.tree.TakesWrites garbled.backup.path := ⟨[], _, rfl⟩
  obtain ⟨-, hedit⟩ := writeCandidate_edit garbled
  obtain ⟨e, -, -, hread, hdone⟩ := hedit [0xDCE9, 0xDCED] [0xDCA0, 0xDC80, 0xDCC0]
    [0xDCAF, 0xDCF0, 0xDC9F, 0x62] [0x20AC] (by decide +kernel) hnew
  obtain ⟨h', hrun⟩ := hdone htakes rfl
  have hfirst : e.first = [0xE9, 0xED] := Except.ok.inj (e.encode_before.symm.trans (by decide +kernel))
  have hwritten : e.written = [0xE2, 0x82, 0xAC] :=
    Except.ok.inj (e.encode_new.symm.trans (by decide +kernel))
  have hlast : e.last = [0xAF, 0xF0, 0x9F, 0x62] :=
    Except.ok.inj (e.encode_behind.symm.trans (by decide +kernel))
  refine ⟨h', hrun, ?_⟩
  have hbytes := hread h' hrun
  rw [Edit.result, hfirst, hwritten, hlast] at hbytes
  exact hbytes

end Mend.Backup
