import Mend.Text.Utf8

/-!
# Paths

Paths of files and directories. Empty parts and parts that are a single dot say nothing and are left
out; a part of two dots stays, because what it leads to depends on the tree.

## Main definitions

* `Path`, `Path.ofText`, `Path.toText` — paths and their texts.
* `Path.join` — a path below another.
-/

namespace Mend

/-- A path: where it starts, and the names along it. -/
structure Path where
  /-- One or two slashes for an absolute path, nothing for a relative one. -/
  root : Text := []
  parts : List Text := []
deriving DecidableEq, Repr

namespace Path

/-- The slash between the parts of a path. -/
abbrev slash : Code := 0x2F

/-- The parts of a text between slashes that say anything. -/
def partsOf (t : Text) : List Text :=
  (Text.splitOn slash t).filter fun p => p != [] && p != [0x2E]

/-- The path that a text stands for. Exactly two leading slashes are kept as they are, any other
number counts as one. -/
def ofText (t : Text) : Path :=
  let slashes := (t.takeWhile (· == slash)).length
  { root := if slashes = 0 then [] else if slashes = 2 then [slash, slash] else [slash]
    parts := partsOf t }

/-- The text of a path; the path without parts is a dot. -/
def toText (p : Path) : Text :=
  if p.root.isEmpty && p.parts.isEmpty then [0x2E] else p.root ++ Text.join [slash] p.parts

/-- The path that leads from the first path to the second. An absolute path starts afresh. -/
def join (p q : Path) : Path :=
  if q.root.isEmpty then { p with parts := p.parts ++ q.parts } else q

/-- The path below another that a text stands for. -/
def child (p : Path) (t : Text) : Path := p.join (.ofText t)

/-- The last part of a path. -/
def name (p : Path) : Text := p.parts.getLast?.getD []

/-- Whether a path does not depend on where one is. -/
def isAbsolute (p : Path) : Bool := !p.root.isEmpty

end Path

end Mend
