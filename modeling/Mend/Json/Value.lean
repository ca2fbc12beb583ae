import Mend.Number.Real
import Mend.Text.Quoted

/-!
# Document values

The values of JSON documents. An object keeps its fields in the order in which they arrived; a field
that arrives again keeps its place and takes the new value.

## Main definitions

* `Value` — a document value.
* `Value.shown`, `Value.repr` — how a value appears in a message.
* `Value.same` — equality of content.
-/

namespace Mend

/-- A value of a document. -/
inductive Value where
  | null
  | bool (b : Bool)
  | num (n : Number)
  | text (t : Text)
  | list (items : List Value)
  | obj (fields : List (Text × Value))

namespace Value

instance : Inhabited Value := ⟨.null⟩

instance : Coe Text Value := ⟨.text⟩

/-- A whole number as a value. -/
def int (n : Int) : Value := .num (.int n)

/-- A count as a value. -/
def nat (n : Nat) : Value := .num (.int n)

/-- A string literal as a value. -/
def str (s : String) : Value := .text (Text.ofString s)

/-- A list of texts as a value. -/
def texts (ts : List Text) : Value := .list (ts.map .text)

/-- A value that may be absent, with `null` for none. -/
def opt {α : Type} (f : α → Value) : Option α → Value
  | none => .null
  | some a => f a

/-- Puts a field into a list of fields: in its old place, or at the end. -/
def put (k : Text) (v : Value) : List (Text × Value) → List (Text × Value)
  | [] => [(k, v)]
  | (k', v') :: rest => if k == k' then (k, v) :: rest else (k', v') :: put k v rest

/-- The fields of a list of pairs, where a later pair overrides an earlier one. -/
def ofPairs (pairs : List (Text × Value)) : List (Text × Value) :=
  pairs.foldl (fun fields (k, v) => put k v fields) []

/-- An object with the given fields. -/
def record (fields : List (String × Value)) : Value :=
  .obj (fields.map fun (k, v) => (Text.ofString k, v))

/-- The name of the kind of a value, as messages give it. -/
def kind : Value → Text
  | .null => "NoneType"
  | .bool _ => "bool"
  | .num (.int _) => "int"
  | .num (.real _) => "float"
  | .text _ => "str"
  | .list _ => "list"
  | .obj _ => "dict"

/-- Whether a value counts as given: `null`, `false`, zero and everything empty do not. -/
def isGiven : Value → Bool
  | .null => false
  | .bool b => b
  | .num n => !n.isZero
  | .text t => !t.isEmpty
  | .list l => !l.isEmpty
  | .obj fs => !fs.isEmpty

mutual

/-- A value inside a message, a text between quotes. -/
def repr : Value → Text
  | .null => Text.ofString "None"
  | .bool true => Text.ofString "True"
  | .bool false => Text.ofString "False"
  | .num n => n.text
  | .text t => t.quoted
  | .list items => [0x5B] ++ reprItems items ++ [0x5D]
  | .obj fields => [0x7B] ++ reprFields fields ++ [0x7D]

/-- Values separated by commas. -/
def reprItems : List Value → Text
  | [] => []
  | [v] => repr v
  | v :: w :: rest => repr v ++ Text.ofString ", " ++ reprItems (w :: rest)

/-- Fields separated by commas. -/
def reprFields : List (Text × Value) → Text
  | [] => []
  | [(k, v)] => k.quoted ++ Text.ofString ": " ++ repr v
  | (k, v) :: f :: rest =>
    k.quoted ++ Text.ofString ": " ++ repr v ++ Text.ofString ", " ++ reprFields (f :: rest)

end

/-- A value as a message on its own, a text as it is. -/
def shown : Value → Text
  | .text t => t
  | v => repr v

/-- The number that a value is in comparisons; a truth value counts as one or zero. -/
def number? : Value → Option Number
  | .bool b => some (.int (if b then 1 else 0))
  | .num n => some n
  | _ => none

mutual

/-- Whether two values have the same content. The order of fields does not matter. -/
def same : Value → Value → Bool
  | .null, .null => true
  | .text a, .text b => a == b
  | .bool a, .bool b => a == b
  | .bool a, .num n => Number.same (.int (if a then 1 else 0)) n
  | .num n, .bool b => Number.same n (.int (if b then 1 else 0))
  | .num a, .num b => Number.same a b
  | .list a, .list b => sameItems a b
  | .obj a, .obj b => a.length == b.length && sameFields a b
  | _, _ => false

/-- Whether two lists have the same content. -/
def sameItems : List Value → List Value → Bool
  | [], [] => true
  | v :: vs, w :: ws => same v w && sameItems vs ws
  | _, _ => false

/-- Whether each field on the left has a partner on the right. -/
def sameFields : List (Text × Value) → List (Text × Value) → Bool
  | [], _ => true
  | (k, v) :: rest, fields =>
    (match fields.lookup k with
      | some w => same v w
      | none => false) && sameFields rest fields

end

/-- Whether a value can be a member of a set or a key: lists and objects cannot. -/
def isAtomic : Value → Bool
  | .list _ => false
  | .obj _ => false
  | _ => true

/-- The order of two values, where they have one: numbers with numbers, texts with texts, lists by
their first difference. -/
def before? : Value → Value → Option Bool
  | .text a, .text b => some (Text.before a b)
  | a, b =>
    match a.number?, b.number? with
    | some m, some n => some (Number.cmp m n == .lt)
    | _, _ => none

/-- The first of each group of values with the same content, in order. -/
def distinct (vs : List Value) : List Value :=
  vs.foldl (fun kept v => if kept.any (same v) then kept else kept ++ [v]) []

/-- Puts a value into an ascending list, behind those that do not come after it. -/
def insertSorted (v : Value) : List Value → List Value
  | [] => [v]
  | w :: rest => if v.before? w == some true then v :: w :: rest else w :: insertSorted v rest

/-- The values in ascending order, if every two of them have an order. -/
def sorted? (vs : List Value) : Option (List Value) :=
  match vs with
  | [] | [_] => some vs
  | _ =>
    if vs.all fun v => vs.all fun w => (v.before? w).isSome then
      some (vs.foldl (fun sorted v => insertSorted v sorted) [])
    else none

end Value

end Mend
