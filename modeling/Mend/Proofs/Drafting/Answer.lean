import Mend.Proofs.Drafting.Extraction

/-!
# Reading back a fenced file

What comes out of an answer that is one fenced block. A file that holds no fence is found whole, but
for the line feeds around it.

## Main definitions

* `Answer.closed` — a file as it stands in a block, with a line end before the closing fence.
-/

namespace Mend.Answer

open Text

variable {info t : Text}

/-- A text with a line feed at its end. -/
def closed (t : Text) : Text := if t.getLast? = some newline then t else t ++ [newline]

theorem getLast?_closed (t : Text) : (closed t).getLast? = some newline := by
  rw [closed]
  split
  case isTrue h => exact h
  case isFalse h => simp

theorem trim_closed (t : Text) : (closed t).trim (· == newline) = t.trim (· == newline) := by
  rw [closed]
  split
  case isTrue h => rfl
  case isFalse h => exact trim_append_singleton rfl

theorem contains_closed (t : Text) : (closed t).contains fence = t.contains fence := by
  rw [closed]
  split
  case isTrue _ => rfl
  case isFalse _ => exact contains_append_of_notMem (by decide) t

theorem all_closed (t : Text) : (closed t).all isBlank = t.all isBlank := by
  rw [← all_trim_newline, trim_closed, all_trim_newline]

/-- A block has no white space at its ends. -/
theorem strip_fenced (info body : Text) : (fenced info body).strip = fenced info body := by
  have hhead : (fenced info body).head? = some backtick := rfl
  have hlast : (fenced info body).getLast? = some backtick := by
    simp [fenced, cat, fence, List.getLast?_cons]
  refine trim_eq_self (fun d hd => ?_) fun d hd => ?_
  · obtain rfl : backtick = d := Option.some.inj (hhead.symm.trans hd)
    rfl
  · obtain rfl : backtick = d := Option.some.inj (hlast.symm.trans hd)
    rfl

/-- What comes out of a block that holds a file: nothing if the file is blank, else the file without
the line feeds around it, and one line feed. -/
theorem extractSource_closed (hinfo : IsInfo info) (hfence : Text.contains t fence = false) :
    extractSource (fenced info (closed t)) =
      if t.all isBlank then none else some (t.trim (· == newline) ++ [newline]) := by
  have hunfenced : (closed t).contains fence = false := (contains_closed t).trans hfence
  have hblocks := blocks_written ⟨[], rfl⟩
    [(⟨info, closed t, hinfo, hunfenced, .inr (getLast?_closed t)⟩, ⟨[], rfl⟩)]
  have hwritten : written [] [((⟨info, closed t, hinfo, hunfenced, .inr (getLast?_closed t)⟩ : Block),
      (⟨[], rfl⟩ : Talk))] = fenced info (closed t) := by
    simp [written]
  rw [hwritten] at hblocks
  have hmark : (fenced info (closed t)).strip.startsWith unusableMark = false := by
    rw [strip_fenced]
    rfl
  have hlongest : longest (blocks (fenced info (closed t))) = some (closed t) := by
    rw [hblocks]
    rfl
  rw [extractSource_of_blocks hmark hlongest, tidy_eq, all_closed, trim_closed]

end Mend.Answer
