import Mend.Text.Class

/-!
# Log lines

What a run tells its user on the way: lines of text, each with a level. A console shows the lines
from a level upwards, laid out by a pattern.

## Main definitions

* `Log.Level`, `Log.Line` — levels and lines.
* `Log.Layout` — patterns for lines.
-/

namespace Mend.Log

/-- The weight of a line. -/
abbrev Level := Int

/-- Details for the search for a fault. -/
abbrev debug : Level := 10

/-- The course of the work. -/
abbrev info : Level := 20

/-- Something to look at. -/
abbrev warning : Level := 30

/-- Something that failed. -/
abbrev error : Level := 40

/-- The name of a level. -/
def Level.name (l : Level) : Text :=
  if l = 10 then "DEBUG" else if l = 20 then "INFO" else if l = 30 then "WARNING"
  else if l = 40 then "ERROR" else if l = 50 then "CRITICAL" else if l = 0 then "NOTSET"
  else .cat ["Level ", .ofInt l]

/-- A line of the log. -/
structure Line where
  level : Level
  text : Text

/-- The line with its level before it. -/
def Line.tagged (l : Line) : Text := .cat [l.level.name, " ", l.text]

/-! ## Loggers -/

/-- The name of the logger above all others. -/
def rootName : Text := "remediation_agent"

/-- The full name of the logger for a part of the work. -/
def fullName (name : Text) : Text :=
  if name == rootName || name.startsWith (rootName ++ ".") then name else .cat [rootName, ".", name]

/-- A line together with the name of its logger. -/
structure Entry where
  name : Text
  level : Level
  text : Text

/-- Whether lines of a level are shown from a threshold on. -/
def isShown (threshold level : Level) : Bool := threshold ≤ level && 0 < level

/-! ## Layouts -/

/-- A piece of a pattern: text, or a named field filled up with blanks to a width. -/
inductive Piece where
  | literal (t : Text)
  | field (name : Text) (left : Bool) (width : Nat)

/-- A pattern for lines. -/
abbrev Layout := List Piece

/-- The flags and the width behind the name of a field, and the rest after the letter `s` or `d`. -/
def Layout.directive? (t : Text) : Option (Bool × Nat × Text) :=
  let flags := t.takeWhile fun c => c == 0x2D || c == 0x20 || c == 0x2B || c == 0x23 || c == 0x30
  let rest := t.drop flags.length
  let digits := rest.takeWhile Text.isAsciiDigit
  let width := digits.foldl (fun n d => 10 * n + (d - 0x30)) 0
  match rest.drop digits.length with
  | c :: rest => if c == 0x73 || c == 0x64 then some (flags.elem 0x2D, width, rest) else none
  | [] => none

/-- The pieces of a pattern. -/
def Layout.ofText (t : Text) : Layout :=
  go t.length t
where
  /-- Reads at most `fuel` pieces. -/
  go : Nat → Text → Layout
    | 0, _ => []
    | _, [] => []
    | fuel + 1, 0x25 :: 0x25 :: rest => .literal [0x25] :: go fuel rest
    | fuel + 1, 0x25 :: 0x28 :: rest =>
      let name := rest.takeWhile (· != 0x29)
      match Layout.directive? (rest.drop (name.length + 1)) with
      | some (left, width, rest) => .field name left width :: go fuel rest
      | none => .literal [0x25] :: go fuel (0x28 :: rest)
    | fuel + 1, c :: rest => .literal [c] :: go fuel rest

/-- The value of a field of an entry. The time of day is not known here. -/
def Entry.field (e : Entry) (name : Text) : Text :=
  if name == Text.ofString "levelname" then e.level.name
  else if name == Text.ofString "name" then e.name
  else if name == Text.ofString "message" then e.text
  else if name == Text.ofString "levelno" then .ofInt e.level
  else if name == Text.ofString "asctime" then "<TIME>"
  else []

/-- An entry laid out by a pattern. -/
def Layout.apply (l : Layout) (e : Entry) : Text :=
  l.flatMap fun
    | .literal t => t
    | .field name left width =>
      let t := e.field name
      let fill := List.replicate (width - t.length) 0x20
      if left then t ++ fill else fill ++ t

/-- The pattern of the console: time, level and text. -/
def console : Text := "[%(asctime)s] %(levelname)s - %(message)s"

/-- What a console shows of some entries, from a level upwards, each on a line of its own. -/
def shown (layout : Layout) (threshold : Level) (entries : List Entry) : Text :=
  (entries.filter fun e => isShown threshold e.level).flatMap fun e => layout.apply e ++ [0x0A]

end Mend.Log
