import Mend.Text.Basic

/-!
# Shell words

How a command language puts words together: from bare characters, quoted ones, the values of
variables and the output of other commands.

## Main definitions

* `Shell.Piece`, `Shell.Word` — words before they are expanded.
* `Shell.Defect` — what can be wrong with a script.
* `Shell.readWord` — the word at the beginning of a text.
-/

namespace Mend.Shell

/-- A piece of a word. -/
inductive Piece where
  /-- Bare characters, in which a star or a question mark matches the names of files. -/
  | bare (t : Text)
  /-- Characters that stand for themselves. -/
  | quoted (t : Text)
  /-- The value of a variable, or another text if it has none. -/
  | variable (name : Text) (other : Text) (isQuoted : Bool)
  /-- What a script prints. -/
  | output (script : Text) (isQuoted : Bool)
deriving DecidableEq, Repr

/-- A word before it is expanded. -/
abbrev Word := List Piece

/-- What is wrong with a script. -/
inductive Defect where
  | openQuote
  | openSubstitution
  | badSubstitution
  /-- Something stands where it may not, perhaps in the place of something else. -/
  | unexpected (what : Text) (wanted : Option Text)
deriving DecidableEq, Repr

/-- The wording of a defect. -/
def Defect.message : Defect → Text
  | .openQuote => "Syntax error: Unterminated quoted string"
  | .openSubstitution => "Syntax error: end of file unexpected (expecting \")\")"
  | .badSubstitution => "Syntax error: Bad substitution"
  | .unexpected what none => .cat ["Syntax error: ", what, " unexpected"]
  | .unexpected what (some wanted) =>
    .cat ["Syntax error: ", what, " unexpected (expecting \"", wanted, "\")"]

/-! ## Characters -/

/-- The single quote. -/
abbrev apostrophe : Code := 0x27

/-- The sign before the name of a variable. -/
abbrev dollar : Code := 0x24

/-- The blanks between words. -/
def isSpace (c : Code) : Bool := c == 0x20 || c == 0x09

/-- The characters that end a bare word. -/
def endsWord (c : Code) : Bool :=
  isSpace c || c == Text.newline || (Text.ofString ";&|()<>").elem c

/-- The characters of names. -/
def isNameCode (c : Code) : Bool := Text.isAsciiLetter c || Text.isAsciiDigit c || c == 0x5F

/-- Whether a text is a name. -/
def isName (t : Text) : Bool :=
  t.all isNameCode && (t.head?.map fun c => !Text.isAsciiDigit c).getD false

/-- The variables that have a single character for a name. -/
def isSpecial (c : Code) : Bool := Text.isAsciiDigit c || (Text.ofString "?$#@*!-").elem c

/-! ## Substitutions -/

/-- The script between parentheses, of which `depth` are open, and the rest behind them. -/
def enclosed (depth : Nat) (quote : Option Code) : Text → Except Defect (Text × Text)
  | [] => .error .openSubstitution
  | c :: rest =>
    let next (depth : Nat) (quote : Option Code) :=
      (enclosed depth quote rest).map fun (body, rest) => (c :: body, rest)
    match quote with
    | some q => if c == q then next depth none else next depth quote
    | none =>
      if c == apostrophe || c == Text.quote then next depth (some c)
      else if c == 0x28 then next (depth + 1) none
      else if c == 0x29 then
        if depth ≤ 1 then .ok ([], rest) else next (depth - 1) none
      else next depth none

/-- The script between grave accents, without its backslashes before accents. -/
def accented : Text → Except Defect (Text × Text)
  | [] => .error .openSubstitution
  | [c] => if c == Text.backtick then .ok ([], []) else .error .openSubstitution
  | c :: d :: rest =>
    if c == Text.backtick then .ok ([], d :: rest)
    else if c == Text.backslash && (d == Text.backtick || d == Text.backslash || d == dollar) then
      (accented rest).map fun (body, rest) => (d :: body, rest)
    else (accented (d :: rest)).map fun (body, rest) => (c :: body, rest)

/-- The piece behind a dollar sign, and the rest behind it. -/
def afterDollar (isQuoted : Bool) (t : Text) : Except Defect (Piece × Text) :=
  match t with
  | 0x28 :: rest => do
    let (body, rest) ← enclosed 1 none rest
    return (.output body isQuoted, rest)
  | 0x7B :: rest =>
    let body := rest.takeWhile (· != 0x7D)
    let name := body.takeWhile fun c => isNameCode c || isSpecial c && c != 0x2D
    let other := (body.drop name.length).dropWhile (· == 0x3A)
    match rest.drop body.length, other with
    | [], _ => .error .openQuote
    | _ :: rest, [] => .ok (.variable name [] isQuoted, rest)
    | _ :: rest, c :: other =>
      if c == 0x2D then .ok (.variable name other isQuoted, rest) else .error .badSubstitution
  | c :: rest =>
    let name := t.takeWhile isNameCode
    if isSpecial c then .ok (.variable [c] [] isQuoted, rest)
    else if name.isEmpty then .ok (.quoted [dollar], t)
    else .ok (.variable name [] isQuoted, t.drop name.length)
  | [] => .ok (.quoted [dollar], [])

/-! ## Words -/

/-- The characters that a backslash protects inside double quotes. -/
def isProtectable (c : Code) : Bool :=
  c == dollar || c == Text.backtick || c == Text.quote || c == Text.backslash

/-- The pieces between double quotes, of which the first has been read, and the rest behind them. -/
def readQuoted : Nat → Text → Except Defect (Word × Text)
  | 0, _ => .error .openQuote
  | _ + 1, [] => .error .openQuote
  | fuel + 1, c :: rest =>
    let add (p : Piece) (rest : Text) :=
      (readQuoted fuel rest).map fun (w, rest) => (p :: w, rest)
    if c == Text.quote then .ok ([], rest)
    else if c == dollar then do
      let (p, rest) ← afterDollar true rest
      add p rest
    else if c == Text.backtick then do
      let (body, rest) ← accented rest
      add (.output body true) rest
    else if c == Text.backslash then
      match rest with
      | 0x0A :: rest => readQuoted fuel rest
      | d :: rest' => if isProtectable d then add (.quoted [d]) rest' else add (.quoted [c]) rest
      | [] => .error .openQuote
    else
      let run := (c :: rest).takeWhile fun c => !isProtectable c
      add (.quoted run) ((c :: rest).drop run.length)

/-- The pieces of a word of at most `fuel` pieces, and the rest behind it. -/
def readPieces : Nat → Text → Except Defect (Word × Text)
  | 0, t => .ok ([], t)
  | _ + 1, [] => .ok ([], [])
  | fuel + 1, c :: rest =>
    let add (w : Word) (rest : Text) :=
      (readPieces fuel rest).map fun (w', rest) => (w ++ w', rest)
    if endsWord c then .ok ([], c :: rest)
    else if c == apostrophe then
      let body := rest.takeWhile (· != apostrophe)
      match rest.drop body.length with
      | [] => .error .openQuote
      | _ :: rest => add [.quoted body] rest
    else if c == Text.quote then do
      let (w, rest) ← readQuoted fuel rest
      add (.quoted [] :: w) rest
    else if c == dollar then do
      let (p, rest) ← afterDollar false rest
      add [p] rest
    else if c == Text.backtick then do
      let (body, rest) ← accented rest
      add [.output body false] rest
    else if c == Text.backslash then
      match rest with
      | 0x0A :: rest => readPieces fuel rest
      | d :: rest => add [.quoted [d]] rest
      | [] => .ok ([.quoted [c]], [])
    else
      let run := (c :: rest).takeWhile fun c =>
        !(endsWord c || c == apostrophe || isProtectable c)
      add [.bare run] ((c :: rest).drop run.length)

/-- The word at the beginning of a text, and the rest behind it. -/
def readWord (t : Text) : Except Defect (Word × Text) := readPieces (t.length + 1) t

end Mend.Shell
