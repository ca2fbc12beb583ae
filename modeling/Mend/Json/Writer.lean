import Mend.Json.Value

/-!
# Writing documents

Documents are written in ASCII: every other character is written by its number, in four digits, a
character beyond `U+FFFF` as a pair. `pretty` puts each item and field on a line of its own, two
blanks deeper than what encloses it; `compact` writes all on one line.
-/

namespace Mend.Json

/-- A character by its number. -/
def numbered (c : Code) : Text := [0x5C, 0x75] ++ Text.hex 4 c

/-- A character inside a string. -/
def escape (c : Code) : Text :=
  if c == 0x22 || c == 0x5C then [0x5C, c]
  else if c == 0x08 then [0x5C, 0x62]
  else if c == 0x09 then [0x5C, 0x74]
  else if c == 0x0A then [0x5C, 0x6E]
  else if c == 0x0C then [0x5C, 0x66]
  else if c == 0x0D then [0x5C, 0x72]
  else if 0x20 ≤ c && c < 0x7F then [c]
  else if c < 0x10000 then numbered c
  else numbered (0xD800 + (c - 0x10000) / 0x400) ++ numbered (0xDC00 + (c - 0x10000) % 0x400)

/-- A string between quotes. -/
def quoted (t : Text) : Text := [0x22] ++ t.flatMap escape ++ [0x22]

/-- A number. -/
def numeral : Number → Text
  | .int n => Text.ofInt n
  | .real x =>
    if x.isNaN then Text.ofString "NaN"
    else if x.isInf then Real.sign x ++ Text.ofString "Infinity"
    else Real.text x

/-- A line end with the indentation of a depth. -/
def newLine (depth : Nat) : Text := 0x0A :: List.replicate (2 * depth) 0x20

mutual

/-- A value over several lines, inside `depth` lists and objects. -/
def prettyAt (depth : Nat) : Value → Text
  | .null => Text.ofString "null"
  | .bool true => Text.ofString "true"
  | .bool false => Text.ofString "false"
  | .num n => numeral n
  | .text t => quoted t
  | .list [] => Text.ofString "[]"
  | .list (v :: rest) =>
    [0x5B] ++ newLine (depth + 1) ++ prettyAt (depth + 1) v ++ prettyItems (depth + 1) rest ++
      newLine depth ++ [0x5D]
  | .obj [] => [0x7B, 0x7D]
  | .obj ((k, v) :: rest) =>
    [0x7B] ++ newLine (depth + 1) ++ quoted k ++ [0x3A, 0x20] ++ prettyAt (depth + 1) v ++
      prettyFields (depth + 1) rest ++ newLine depth ++ [0x7D]

/-- The items of a list behind the first. -/
def prettyItems (depth : Nat) : List Value → Text
  | [] => []
  | v :: rest => [0x2C] ++ newLine depth ++ prettyAt depth v ++ prettyItems depth rest

/-- The fields of an object behind the first. -/
def prettyFields (depth : Nat) : List (Text × Value) → Text
  | [] => []
  | (k, v) :: rest =>
    [0x2C] ++ newLine depth ++ quoted k ++ [0x3A, 0x20] ++ prettyAt depth v ++ prettyFields depth rest

end

/-- A document over several lines. -/
def pretty (v : Value) : Text := prettyAt 0 v

mutual

/-- A document on one line. -/
def compact : Value → Text
  | .null => Text.ofString "null"
  | .bool true => Text.ofString "true"
  | .bool false => Text.ofString "false"
  | .num n => numeral n
  | .text t => quoted t
  | .list [] => Text.ofString "[]"
  | .list (v :: rest) => [0x5B] ++ compact v ++ compactItems rest ++ [0x5D]
  | .obj [] => [0x7B, 0x7D]
  | .obj ((k, v) :: rest) =>
    [0x7B] ++ quoted k ++ [0x3A] ++ compact v ++ compactFields rest ++ [0x7D]

/-- The items of a list behind the first. -/
def compactItems : List Value → Text
  | [] => []
  | v :: rest => [0x2C] ++ compact v ++ compactItems rest

/-- The fields of an object behind the first. -/
def compactFields : List (Text × Value) → Text
  | [] => []
  | (k, v) :: rest => [0x2C] ++ quoted k ++ [0x3A] ++ compact v ++ compactFields rest

end

end Mend.Json
