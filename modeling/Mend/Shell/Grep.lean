import Mend.Scan.Pattern

/-!
# Line patterns

The patterns that `grep` looks for: characters, dots, sets in brackets, stars behind them, and the
edges of the line. A bar, behind a backslash in the plain dialect, separates alternatives.

## Main definitions

* `Shell.LinePattern`, `Shell.LinePattern.ofText` — patterns.
* `Shell.LinePattern.isMatch` — whether a line holds a match.
-/

namespace Mend.Shell

/-- A pattern for a part of a line. -/
structure LinePattern where
  atStart : Bool := false
  atEnd : Bool := false
  pattern : Pattern

namespace LinePattern

/-- The characters that a set in brackets names, ranges included. -/
def members : Text → Code → Bool
  | a :: 0x2D :: b :: rest, c => (a ≤ c && c ≤ b) || members rest c
  | a :: rest, c => a == c || members rest c
  | [], _ => false

/-- The set behind an opening bracket, and the rest behind it. -/
def bracket (t : Text) : Option ((Code → Bool) × Text) :=
  let (negated, t) := match t with
    | 0x5E :: rest => (true, rest)
    | t => (false, t)
  let first := t.take 1
  let body := first ++ (t.drop 1).takeWhile (· != 0x5D)
  match t.drop body.length with
  | _ :: rest => some (fun c => members body c != negated, rest)
  | [] => none

/-- The class of characters at the beginning of a pattern, and the rest behind it. -/
def atom (t : Text) : Option ((Code → Bool) × Text) :=
  match t with
  | 0x5C :: c :: rest => some ((· == c), rest)
  | 0x2E :: rest => some (fun _ => true, rest)
  | 0x5B :: rest => bracket rest
  | c :: rest => some ((· == c), rest)
  | [] => none

/-- The pattern in at most `fuel` characters. -/
def sequence (extended : Bool) : Nat → Text → Pattern
  | 0, _ => .empty
  | fuel + 1, t =>
    match atom t with
    | none => .empty
    | some (p, 0x2A :: rest) => .seq (.many p) (sequence extended fuel rest)
    | some (p, c :: rest) =>
      if extended && c == 0x2B then
        .seq (.seq (.one p) (.many p)) (sequence extended fuel rest)
      else if extended && c == 0x3F then
        .seq (.optional (.one p)) (sequence extended fuel rest)
      else .seq (.one p) (sequence extended fuel (c :: rest))
    | some (p, []) => .one p

/-- The alternatives of a pattern. -/
def alternatives (extended : Bool) : Text → List Text
  | [] => [[]]
  | [c] => if extended && c == 0x7C then [[], []] else [[c]]
  | c :: d :: rest =>
    if extended && c == 0x7C then [] :: alternatives extended (d :: rest)
    else if c == 0x5C && d == 0x7C && !extended then [] :: alternatives extended rest
    else
      match alternatives extended (d :: rest) with
      | a :: as => (c :: a) :: as
      | [] => [[c]]

/-- One alternative of a pattern. -/
def ofAlternative (extended : Bool) (t : Text) : LinePattern :=
  let atStart := t.head? == some 0x5E
  let t := if atStart then t.drop 1 else t
  let atEnd := t.getLast? == some 0x24
  let t := if atEnd then t.dropLast else t
  { atStart, atEnd, pattern := sequence extended t.length t }

/-- Whether a pattern matches at a spot. -/
def isMatchAt (p : LinePattern) (s : Spot) : Bool :=
  (p.pattern.ends s).any fun e => !p.atEnd || e.rest.isEmpty

/-- Whether a pattern matches somewhere from `before` on. -/
def search (p : LinePattern) (before : Option Code) : Text → Bool
  | [] => p.isMatchAt ⟨before, []⟩
  | c :: rest => p.isMatchAt ⟨before, c :: rest⟩ || search p (some c) rest

/-- Whether a line holds a match. -/
def isMatch (p : LinePattern) (line : Text) : Bool :=
  if p.atStart then p.isMatchAt ⟨none, line⟩ else p.search none line

end LinePattern

end Mend.Shell
