import Mend.Fault

/-!
# Taking documents apart

Reading fields, numbers, names and collections out of values whose kind is not known beforehand.
Every function says which fault a value of another kind gives.
-/

namespace Mend.Value

/-- The value of a field, if the value is an object and has it. -/
def field? (v : Value) (name : Text) : Option Value :=
  match v with
  | .obj fields => fields.lookup name
  | _ => none

/-- The fields of an object. -/
def fields (v : Value) (operation : Text) : Except Fault (List (Text × Value)) :=
  match v with
  | .obj fields => .ok fields
  | v => .error (.lacks v.kind operation)

/-- The value of a field of an object, if it has it. -/
def get? (v : Value) (name : Text) : Except Fault (Option Value) := do
  return (← v.fields "get").lookup name

/-- The value of a field of an object, or another value. -/
def getD (v : Value) (name : Text) (other : Value) : Except Fault Value := do
  return (← v.get? name).getD other

/-- The value of a field that an object must have. -/
def require (v : Value) (name : Text) : Except Fault Value :=
  match v with
  | .obj fields =>
    match fields.lookup name with
    | some w => .ok w
    | none => .error (.missingField name)
  | .list _ => .error (.wrongKind "list indices must be integers or slices, not str")
  | .text _ => .error (.wrongKind "string indices must be integers, not 'str'")
  | v => .error (.wrongKind (.cat ["'", v.kind, "' object is not subscriptable"]))

/-- The whole number that a text stands for. -/
def intOfText (t : Text) : Except Fault Int :=
  match Numeral.read t with
  | .ok n => .ok n
  | .error .malformed => .error (.notNumeral t)
  | .error (.tooLong digits) => .error (.numeralTooLong digits)

/-- The numeral of a whole number. One that would have too many digits is not written. -/
def textOfInt (n : Int) : Except Fault Text :=
  if Numeral.fits n then .ok (.ofInt n) else .error .numberTooLong

/-- The whole number that a value stands for; a fraction is cut off. -/
def asInt : Value → Except Fault Int
  | .bool b => .ok (if b then 1 else 0)
  | .num (.int n) => .ok n
  | .num (.real x) =>
    if x.isNaN then .error .undefinedNumber
    else if x.isInf then .error .infiniteNumber
    else .ok (Real.truncated x)
  | .text t => intOfText t
  | v =>
    .error (.wrongKind (.cat
      ["int() argument must be a string, a bytes-like object or a real number, not '", v.kind, "'"]))

/-- The number in double precision that a value stands for. -/
def asReal : Value → Except Fault Float
  | .bool b => .ok (if b then 1 else 0)
  | .num n => .ok n.toFloat
  | v =>
    .error (.wrongKind (.cat
      ["float() argument must be a string or a real number, not '", v.kind, "'"]))

/-- A value, or another one if it is not given. -/
def givenOr (v other : Value) : Value := if v.isGiven then v else other

/-- The text that a value is; `operation` is what was to be done with it. -/
def asText (v : Value) (operation : Text) : Except Fault Text :=
  match v with
  | .text t => .ok t
  | v => .error (.lacks v.kind operation)

/-- The elements of a collection: the items of a list, the characters of a text, the names of an
object's fields. -/
def elements : Value → Except Fault (List Value)
  | .list items => .ok items
  | .text t => .ok (t.map fun c => .text [c])
  | .obj fields => .ok (fields.map fun (k, _) => .text k)
  | v => .error (.wrongKind (.cat ["'", v.kind, "' object is not iterable"]))

/-- The elements as the members of a set, each content once. -/
def members (v : Value) : Except Fault (List Value) := do
  let vs ← v.elements
  match vs.find? fun w => !w.isAtomic with
  | some w => .error (.wrongKind (.cat ["unhashable type: '", w.kind, "'"]))
  | none => return distinct vs

/-- The members of a set in ascending order. -/
def ascending (vs : List Value) : Except Fault (List Value) :=
  match sorted? vs with
  | some ws => .ok ws
  | none =>
    .error (.wrongKind "'<' not supported between instances of values of different kinds")

end Mend.Value
