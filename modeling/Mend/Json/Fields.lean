import Mend.Json.Access

/-!
# Fields of documents

Looking up what a document says, with something else in the place of what it leaves out. Names that
nobody knows can be refused.

## Main definitions

* `Value.given?`, `Value.textAt?`, `Value.intAt`, `Value.flagAt` — what a field says.
* `Value.wholeAt`, `Value.numberAt` — fields that must be numbers.
* `Value.checkNames`, `Value.checkThere` — documents with unknown or missing fields.
-/

namespace Mend

namespace Value

/-- The value of a field that is there and not `null`. -/
def given? (v : Value) (name : String) : Option Value :=
  match v.field? (Text.ofString name) with
  | none | some .null => none
  | some w => some w

/-- The text in a field. -/
def textAt? (v : Value) (name : String) : Option Text := (v.given? name).map (·.shown)

/-- The whole number in a field, or another one. -/
def intAt (v : Value) (name : String) (other : Int) : Int :=
  match v.given? name with
  | some (.num (.int n)) => n
  | some (.bool b) => if b then 1 else 0
  | _ => other

/-- The whole number in a field, or another one if there is no such field. Nothing else may be
there. -/
def wholeAt (v : Value) (name : String) (other : Int) : Except Fault Int :=
  match v.field? (Text.ofString name) with
  | none => .ok other
  | some (.num (.int n)) => .ok n
  | some (.bool b) => .ok (if b then 1 else 0)
  | some w => .error (.wrongKind (.cat ["'", w.kind, "' is no number"]))

/-- The number in a field, or another one if there is no such field. Nothing else may be there. -/
def numberAt (v : Value) (name : String) (other : Number) : Except Fault Number :=
  match v.field? (Text.ofString name) with
  | none => .ok other
  | some (.num n) => .ok n
  | some (.bool b) => .ok (.int (if b then 1 else 0))
  | some w => .error (.wrongKind (.cat ["'", w.kind, "' is no number"]))

/-- Whether a field is given. -/
def flagAt (v : Value) (name : String) (other : Bool) : Bool :=
  match v.field? (Text.ofString name) with
  | none => other
  | some w => w.isGiven

/-- The items of a list in a field, if there is one. -/
def itemsAt? (v : Value) (name : String) : Option (List Value) :=
  match v.given? name with
  | some (.list l) => some l
  | some _ => some []
  | none => none

/-- The texts of a list in a field, if there is one. -/
def textsAt? (v : Value) (name : String) : Option (List Text) :=
  (v.itemsAt? name).map fun l => l.map (·.shown)

/-- Refuses fields with other names than the given ones. -/
def checkNames (v : Value) (names : List String) : Except Fault Unit :=
  match v with
  | .obj fields =>
    match fields.find? fun f => !names.any fun n => Text.ofString n == f.1 with
    | some (name, _) =>
      .error (.wrongKind (.cat ["got an unexpected keyword argument '", name, "'"]))
    | none => .ok ()
  | _ => .ok ()

/-- The members of a list in a field, or all. -/
def membersAt {α : Type} (v : Value) (name : String) (read : Value → Except Fault α)
    (all : List α) : Except Fault (List α) :=
  match v.field? (Text.ofString name) with
  | none => .ok all
  | some (.list l) => l.mapM read
  | some _ => .ok []

/-- Refuses documents without one of some fields. -/
def checkThere (v : Value) (names : List String) : Except Fault Unit :=
  if names.any fun n => (v.field? (Text.ofString n)).isNone then
    .error (.wrongKind "missing a required argument")
  else .ok ()

end Value

end Mend
