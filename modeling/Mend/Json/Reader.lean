import Mend.Json.Value
import Mend.Number.Numeral

/-!
# Reading documents

A reader for JSON that says where and why a document is malformed. Besides the numbers of JSON it
reads `NaN`, `Infinity` and `-Infinity`.

## Main definitions

* `Json.Reason`, `Json.Failure` — why a text is no document, and where.
* `Json.read` — the value of a text.
-/

namespace Mend.Json

/-- Why a text is no document. -/
inductive Reason where
  | expectedValue
  | expectedName
  | expectedColon
  | expectedComma
  | unterminated
  | controlCharacter
  | badEscape
  | badUnicodeEscape
  | extraData
  | byteOrderMark
  | tooDeep
  | numeralTooLong (digits : Nat)
deriving DecidableEq, Repr

/-- The wording of a reason. -/
def Reason.message : Reason → Text
  | .expectedValue => "Expecting value"
  | .expectedName => "Expecting property name enclosed in double quotes"
  | .expectedColon => "Expecting ':' delimiter"
  | .expectedComma => "Expecting ',' delimiter"
  | .unterminated => "Unterminated string starting at"
  | .controlCharacter => "Invalid control character at"
  | .badEscape => "Invalid \\escape"
  | .badUnicodeEscape => "Invalid \\uXXXX escape"
  | .extraData => "Extra data"
  | .byteOrderMark => "Unexpected UTF-8 BOM (decode using utf-8-sig)"
  | .tooDeep => "maximum recursion depth exceeded while decoding a JSON array from a unicode string"
  | .numeralTooLong digits => Numeral.refusal digits

/-- A place in the document, as the number of code points left, and what is wrong there. -/
structure Stop where
  left : Nat
  reason : Reason

/-- What a part of the reader gives: a result and the rest of the text, or where it stopped. -/
abbrev Read (α : Type) := Except Stop (α × Text)

/-- Stops before `t`. -/
def stop {α : Type} (t : Text) (reason : Reason) : Read α := .error ⟨t.length, reason⟩

/-- The blanks between the parts of a document. -/
def isSpace (c : Code) : Bool := c == 0x20 || c == 0x09 || c == 0x0A || c == 0x0D

/-- The text behind leading blanks. -/
def skip (t : Text) : Text := t.dropWhile isSpace

/-- The value of a hexadecimal digit. -/
def hexValue? (c : Code) : Option Nat :=
  if Text.isAsciiDigit c then some (c - 0x30)
  else if 0x61 ≤ c && c ≤ 0x66 then some (c - 0x57)
  else if 0x41 ≤ c && c ≤ 0x46 then some (c - 0x37)
  else none

/-- The value of four hexadecimal digits at the start of a text. -/
def hex4? : Text → Option (Nat × Text)
  | a :: b :: c :: d :: rest => do
    let a ← hexValue? a
    let b ← hexValue? b
    let c ← hexValue? c
    let d ← hexValue? d
    some (((a * 16 + b) * 16 + c) * 16 + d, rest)
  | _ => none

/-- The character behind a backslash that has a one-letter escape. -/
def unescape? (c : Code) : Option Code :=
  if c == 0x22 || c == 0x5C || c == 0x2F then some c
  else if c == 0x62 then some 0x08
  else if c == 0x66 then some 0x0C
  else if c == 0x6E then some 0x0A
  else if c == 0x72 then some 0x0D
  else if c == 0x74 then some 0x09
  else none

/-- Whether a code point is the first half of a pair. -/
def isHigh (c : Code) : Bool := 0xD800 ≤ c && c < 0xDC00

/-- Whether a code point is the second half of a pair. -/
def isLow (c : Code) : Bool := 0xDC00 ≤ c && c < 0xE000

/-- The code point that a pair stands for. -/
def joinPair (high low : Code) : Code := 0x10000 + (high - 0xD800) * 0x400 + (low - 0xDC00)

/-- The code point of a four-digit escape, of which `t` is the text behind the letter `u`. Two such
escapes that form a pair are one code point. -/
def unicodeEscape (t : Text) : Read Code :=
  if (t.drop 4).isEmpty then .error ⟨t.length + 1, .badUnicodeEscape⟩
  else
    match hex4? t with
    | none => .error ⟨t.length + 1, .badUnicodeEscape⟩
    | some (high, rest) =>
      match isHigh high, rest with
      | true, 0x5C :: 0x75 :: more =>
        if (more.drop 4).isEmpty then .ok (high, rest)
        else
          match hex4? more with
          | none => .error ⟨more.length + 1, .badUnicodeEscape⟩
          | some (low, rest') =>
            if isLow low then .ok (joinPair high low, rest') else .ok (high, rest)
      | _, _ => .ok (high, rest)

/-- The characters of a string up to its closing quote, behind those in `acc`; none if the text ends
before it. -/
def chars : (fuel : Nat) → (t acc : Text) → Except Stop (Option (Text × Text))
  | 0, _, _ => .ok none
  | _ + 1, [], _ => .ok none
  | fuel + 1, c :: rest, acc =>
    if c == 0x22 then .ok (some (acc.reverse, rest))
    else if c == 0x5C then
      match rest with
      | [] => .ok none
      | 0x75 :: more =>
        match unicodeEscape more with
        | .error e => .error e
        | .ok (u, rest') => chars fuel rest' (u :: acc)
      | e :: more =>
        match unescape? e with
        | some u => chars fuel more (u :: acc)
        | none => .error ⟨rest.length + 1, .badEscape⟩
    else if c ≤ 0x1F then .error ⟨rest.length + 1, .controlCharacter⟩
    else chars fuel rest (c :: acc)

/-- A string, of which `t` is the text behind the opening quote. An open string is a fault at that
quote. -/
def string (fuel : Nat) (t : Text) : Read Text :=
  match chars fuel t [] with
  | .error e => .error e
  | .ok (some r) => .ok r
  | .ok none => .error ⟨t.length + 1, .unterminated⟩

/-- The leading ASCII digits of a text and the rest. -/
def spanDigits (t : Text) : Text × Text := (t.takeWhile Text.isAsciiDigit, t.dropWhile Text.isAsciiDigit)

/-- A fraction at the start of a text, if a digit follows the point. -/
def fraction (t : Text) : Text × Text :=
  match t with
  | 0x2E :: rest =>
    let (ds, rest') := spanDigits rest
    if ds.isEmpty then ([], t) else (ds, rest')
  | _ => ([], t)

/-- An exponent at the start of a text, if it has a digit. -/
def exponent (t : Text) : Option Int × Text :=
  match t with
  | e :: rest =>
    if e == 0x65 || e == 0x45 then
      let (negative, rest') :=
        match rest with
        | 0x2D :: r => (true, r)
        | 0x2B :: r => (false, r)
        | r => (false, r)
      let (ds, rest'') := spanDigits rest'
      if ds.isEmpty then (none, t)
      else
        let n : Int := Numeral.value (ds.map (· - 0x30))
        (some (if negative then -n else n), rest'')
    else (none, t)
  | [] => (none, t)

/-- The number nearest to `digits * 10 ^ e`. -/
def nearest (digits : Nat) (e : Int) : Float :=
  if digits = 0 then 0.0
  else
    let lead : Int := (digits.log2 : Int) * 30103 / 100000 + e
    if lead > 400 then 1.0 / 0.0
    else if lead < -400 then 0.0
    else Float.ofScientific digits (e < 0) e.natAbs

/-- A number at the start of a text; `whole` are the digits before the point. -/
def numberTail (negative : Bool) (whole rest : Text) : Except Reason Number × Text :=
  let (frac, rest') := fraction rest
  let (exp, rest'') := exponent rest'
  if frac.isEmpty && exp.isNone then
    if whole.length > Numeral.maxDigits then (.error (.numeralTooLong whole.length), rest'')
    else
      let n : Int := Numeral.value (whole.map (· - 0x30))
      (.ok (.int (if negative then -n else n)), rest'')
  else
    let n := Numeral.value ((whole ++ frac).map (· - 0x30))
    let x := nearest n (exp.getD 0 - frac.length)
    (.ok (.real (if negative then -x else x)), rest'')

/-- Whether a text starts with a minus sign, and what is behind it. -/
def sign (t : Text) : Bool × Text :=
  match t with
  | 0x2D :: rest => (true, rest)
  | _ => (false, t)

/-- The digits before the point at the start of a text. Behind a leading zero comes no other digit. -/
def whole (t : Text) : Text × Text :=
  match t with
  | 0x30 :: rest => ([0x30], rest)
  | _ => spanDigits t

/-- A number at the start of a text. -/
def number (t : Text) : Read Number :=
  let (negative, body) := sign t
  let (digits, rest) := whole body
  if digits.isEmpty then stop t .expectedValue
  else
    match numberTail negative digits rest with
    | (.ok n, rest') => .ok (n, rest')
    | (.error reason, _) => stop t reason

/-- The words that are values, with their values. -/
def words : List (Text × Value) :=
  [("null", .null), ("true", .bool true), ("false", .bool false),
   ("NaN", .num (.real (0.0 / 0.0))), ("Infinity", .num (.real (1.0 / 0.0))),
   ("-Infinity", .num (.real (-1.0 / 0.0)))]

/-- How many lists and objects may lie in one another in a document that is read. The interpreter sets
that limit, and it is another one in each place of a program, but a few levels are always left. -/
def Depth := { levels : Nat // 10 ≤ levels }

/-- The limit where it is the tightest. -/
def Depth.least : Depth := ⟨10, Nat.le_refl _⟩

instance : Coe Depth Nat := ⟨Subtype.val⟩

mutual

/-- A value at the start of a text that is shorter than `size`. -/
def value (size : Nat) : (fuel depth : Nat) → Text → Read Value
  | 0, _, t => stop t .expectedValue
  | fuel + 1, depth, t =>
    match t with
    | 0x22 :: rest =>
      match string size rest with
      | .error e => .error e
      | .ok (s, rest') => .ok (.text s, rest')
    | 0x7B :: rest =>
      if depth = 0 then stop t .tooDeep
      else
        match skip rest with
        | 0x7D :: rest' => .ok (.obj [], rest')
        | rest' => fields size fuel (depth - 1) rest' []
    | 0x5B :: rest =>
      if depth = 0 then stop t .tooDeep
      else
        match skip rest with
        | 0x5D :: rest' => .ok (.list [], rest')
        | rest' => items size fuel (depth - 1) rest' []
    | _ =>
      match words.find? fun (w, _) => w.isPrefixOf t with
      | some (w, v) => .ok (v, t.drop w.length)
      | none =>
        match number t with
        | .error e => .error e
        | .ok (n, rest) => .ok (.num n, rest)

/-- The items of a list up to its end, behind those in `acc`. -/
def items (size : Nat) : (fuel depth : Nat) → Text → List Value → Read Value
  | 0, _, t, _ => stop t .expectedValue
  | fuel + 1, depth, t, acc =>
    match value size fuel depth t with
    | .error e => .error e
    | .ok (v, rest) =>
      match skip rest with
      | 0x5D :: rest' => .ok (.list (v :: acc).reverse, rest')
      | 0x2C :: rest' => items size fuel depth (skip rest') (v :: acc)
      | rest' => stop rest' .expectedComma

/-- The fields of an object up to its end, behind those in `acc`. -/
def fields (size : Nat) : (fuel depth : Nat) → Text → List (Text × Value) → Read Value
  | 0, _, t, _ => stop t .expectedValue
  | fuel + 1, depth, t, acc =>
    match t with
    | 0x22 :: rest =>
      match string size rest with
      | .error e => .error e
      | .ok (k, rest') =>
        match skip rest' with
        | 0x3A :: rest'' =>
          match value size fuel depth (skip rest'') with
          | .error e => .error e
          | .ok (v, after) =>
            match skip after with
            | 0x7D :: after' => .ok (.obj (Value.ofPairs ((k, v) :: acc).reverse), after')
            | 0x2C :: after' => fields size fuel depth (skip after') ((k, v) :: acc)
            | after' => stop after' .expectedComma
        | rest'' => stop rest'' .expectedColon
    | _ => stop t .expectedName

end

/-- Why and where a text is no document. -/
structure Failure where
  reason : Reason
  /-- The number of code points before the place. -/
  position : Nat
  line : Nat
  column : Nat
deriving DecidableEq, Repr

/-- The failure at a place of a text. -/
def Failure.at (t : Text) (s : Stop) : Failure :=
  let position := t.length - s.left
  let before := t.take position
  { reason := s.reason
    position
    line := before.count Text.newline + 1
    column := (before.reverse.takeWhile (· != Text.newline)).length + 1 }

/-- The wording of a failure, with its place. No place is named where the text is well-formed so far
and only takes the reader too much. -/
def Failure.message (f : Failure) : Text :=
  match f.reason with
  | .tooDeep | .numeralTooLong _ => f.reason.message
  | reason =>
    .cat [reason.message, ": line ", .decimal f.line, " column ", .decimal f.column, " (char ",
      .decimal f.position, ")"]

/-- The value of a document. -/
def read (depth : Depth) (t : Text) : Except Failure Value :=
  if t.head? == some 0xFEFF then .error (.at t ⟨t.length, .byteOrderMark⟩)
  else
    let size := t.length + 1
    match value size (2 * size) depth (skip t) with
    | .error s => .error (.at t s)
    | .ok (v, rest) =>
      match skip rest with
      | [] => .ok v
      | rest' => .error (.at t ⟨rest'.length, .extraData⟩)

end Mend.Json
