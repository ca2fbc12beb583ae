import Mend.Fault
import Mend.Json.Writer

/-!
# Documents for files

The text of a document that goes into a file. A document with a number of too many digits is not
written.
-/

namespace Mend

mutual

/-- Whether every number of a value can be written. -/
def Value.fits : Value → Bool
  | .num (.int n) => Numeral.fits n
  | .list items => Value.itemsFit items
  | .obj fields => Value.fieldsFit fields
  | _ => true

/-- Whether every number in a list can be written. -/
def Value.itemsFit : List Value → Bool
  | [] => true
  | v :: rest => v.fits && Value.itemsFit rest

/-- Whether every number in the fields of an object can be written. -/
def Value.fieldsFit : List (Text × Value) → Bool
  | [] => true
  | (_, v) :: rest => v.fits && Value.fieldsFit rest

end

/-- A document over several lines, if it can be written. -/
def Json.document (v : Value) : Except Fault Text :=
  if v.fits then .ok (pretty v) else .error .numberTooLong

end Mend
