import Mend.Text.Basic

/-!
# Keys for findings

A finding of a local scan is named after its place. Several findings on one line are told apart by a
number behind the place. Whoever asks for a key sees to it that the line can be written: a line of a
text always can, and the line that a model reports is checked when it is read.

## Main definitions

* `KeyFactory`, `KeyFactory.next` — giving out keys.
-/

namespace Mend

/-- How many keys have been given out for each place. -/
abbrev KeyFactory := List (Text × Nat)

namespace KeyFactory

/-- The text of a place. -/
def placeText (path : Text) (line : Int) : Text := .cat [path, ":", .ofInt line]

/-- The key of the `count`-th finding at a place. -/
def keyText (place : Text) (count : Nat) : Text :=
  if count = 1 then place else .cat [place, "#", .decimal count]

/-- How many keys have been given out for a place. -/
def count (keys : KeyFactory) (place : Text) : Nat := (keys.lookup place).getD 0

/-- Notes how many keys have been given out for a place. -/
def note (place : Text) (n : Nat) : KeyFactory → KeyFactory
  | [] => [(place, n)]
  | (p, m) :: rest => if p == place then (p, n) :: rest else (p, m) :: note place n rest

/-- The next key for a place. -/
def nextAt (keys : KeyFactory) (place : Text) : Text × KeyFactory :=
  let n := keys.count place + 1
  (keyText place n, keys.note place n)

/-- The next key for a line of a file. -/
def next (keys : KeyFactory) (path : Text) (line : Int) : Text × KeyFactory :=
  keys.nextAt (placeText path line)

end KeyFactory

end Mend
