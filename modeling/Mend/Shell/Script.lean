import Mend.Shell.Word

/-!
# Shell scripts

A script is a sequence of commands: programs with words, joined by pipes and conditions, and the
usual branches and loops over them. It is read line by line, so that the lines before a defect count.

## Main definitions

* `Shell.Token`, `Shell.tokens` — the words and signs of a script.
* `Shell.Script` — commands.
* `Shell.linesOf` — the lines of a script, and the defect that ends them.
-/

namespace Mend.Shell

/-- What a redirection does with a stream. -/
inductive Redirection where
  | reading
  | writing
  | appending
  /-- The stream goes where another one goes. -/
  | joining
deriving DecidableEq, Repr

/-- A word or a sign. -/
inductive Token where
  | word (w : Word)
  | sign (t : Text)
  | redirect (stream : Nat) (how : Redirection)
  | newline
  | finish
  | broken (d : Defect)
deriving DecidableEq, Repr

/-- A redirection with its target. -/
structure Redirect where
  stream : Nat
  how : Redirection
  target : Word

/-- Commands. -/
inductive Script where
  /-- Does nothing. -/
  | skip
  /-- A program with its words, on a line. -/
  | call (line : Nat) (assignments : List (Text × Word)) (words : List Word)
      (redirects : List Redirect)
  | next (a b : Script)
  | both (a b : Script)
  | either (a b : Script)
  | inverted (a : Script)
  | pipe (a b : Script)
  /-- Commands that change the variables and the directory of nothing else. -/
  | apart (line : Nat) (a : Script) (redirects : List Redirect)
  /-- Commands with streams of their own. -/
  | group (line : Nat) (a : Script) (redirects : List Redirect)
  | branch (condition yes no : Script)
  | each (name : Text) (words : List Word) (body : Script)
  | loop (condition : Script) (whileTrue : Bool) (body : Script)

/-! ## Tokens -/

/-- The signs that are no words, the longest first. -/
def signs : List Text := [";;", "&&", "||", ";", "&", "|", "(", ")"]

/-- The signs of redirections, the longest first, with the stream that they mean by themselves. -/
def redirectSigns : List (Text × Nat × Redirection) :=
  [(">>", 1, .appending), (">&", 1, .joining), (">|", 1, .writing), (">", 1, .writing),
   ("<&", 0, .joining), ("<", 0, .reading)]

/-- The redirection at the beginning of a text, and the rest behind it. -/
def redirection? (t : Text) : Option (Token × Text) :=
  let digits := t.takeWhile Text.isAsciiDigit
  let t := t.drop digits.length
  (redirectSigns.find? fun (s, _) => Text.startsWith t s).map fun (s, stream, how) =>
    let stream := if digits.isEmpty then stream else digits.foldl (fun n d => 10 * n + (d - 0x30)) 0
    (.redirect stream how, t.drop s.length)

/-- At most `fuel` tokens of a text, each with its line. -/
def tokensFrom : Nat → (line : Nat) → Text → List (Nat × Token)
  | 0, line, _ => [(line, .finish)]
  | _ + 1, line, [] => [(line, .finish)]
  | fuel + 1, line, c :: rest =>
    let t := c :: rest
    if isSpace c then tokensFrom fuel line rest
    else if c == Text.newline then (line, .newline) :: tokensFrom fuel (line + 1) rest
    else if c == 0x23 then tokensFrom fuel line (rest.dropWhile (· != Text.newline))
    else
      match redirection? t, signs.find? (Text.startsWith t) with
      | some (token, rest), _ => (line, token) :: tokensFrom fuel line rest
      | none, some s => (line, .sign s) :: tokensFrom fuel line (t.drop s.length)
      | none, none =>
        match readWord t with
        | .error d => [(line + t.count Text.newline, .broken d)]
        | .ok (w, rest) =>
          let lines := (t.take (t.length - rest.length)).count Text.newline
          (line, .word w) :: tokensFrom fuel (line + lines) rest

/-- The tokens of a script. The last one says how it ends. -/
def tokens (t : Text) : List (Nat × Token) := tokensFrom (t.length + 1) 1 t

/-! ## Reading commands -/

/-- The words that are signs where a command may begin. -/
def reserved : List Text :=
  ["if", "then", "elif", "else", "fi", "for", "while", "until", "do", "done", "case", "esac", "in",
   "!", "\x7b", "\x7d"]

/-- The reserved word that a token is. -/
def Token.keyword? : Token → Option Text
  | .word [.bare t] => if reserved.elem t then some t else none
  | _ => none

/-- Whether a token is a certain reserved word. -/
def Token.isKeyword (t : Token) (word : Text) : Bool := t.keyword? == some word

/-- How a token is called in a message. -/
def Token.title : Token → Text
  | .word w => match (Token.word w).keyword? with
    | some t => .cat ["\"", t, "\""]
    | none => "word"
  | .sign t => .cat ["\"", t, "\""]
  | .redirect .. => "redirection"
  | .newline => "newline"
  | .finish | .broken _ => "end of file"

/-- The rest of a script. -/
abbrev Tokens := List (Nat × Token)

/-- What comes of reading a part of a script; a defect is told with its line. -/
abbrev Reading := Except (Nat × Defect)

/-- The first token, with its line. -/
def Tokens.first (ts : Tokens) : Nat × Token := ts.headD (1, .finish)

/-- The defect of a token that may not stand where it is. -/
def unexpected {α : Type} (ts : Tokens) (wanted : Option Text) : Reading α :=
  match ts.first with
  | (line, .broken d) => .error (line, d)
  | (line, token) => .error (line, .unexpected token.title wanted)

/-- Reads a reserved word. -/
def keyword (word : Text) (ts : Tokens) : Reading Tokens :=
  if ts.first.2.isKeyword word then .ok ts.tail else unexpected ts (some word)

/-- The rest of a script behind line ends. -/
def Tokens.skipLines : Tokens → Tokens
  | (_, .newline) :: ts => skipLines ts
  | ts => ts

/-- The variable and the value in a word that sets a variable. -/
def assignment? (w : Word) : Option (Text × Word) :=
  match w with
  | .bare t :: rest =>
    let name := t.takeWhile (· != 0x3D)
    if isName name && name.length < t.length then
      let value := t.drop (name.length + 1)
      some (name, if value.isEmpty then rest else .bare value :: rest)
    else none
  | _ => none

/-- Whether a token begins a command. -/
def Token.isStart (t : Token) : Bool :=
  match t with
  | .word _ =>
    match t.keyword? with
    | some k => ([["if", "for", "while", "until", "!", "\x7b"]] : List (List Text)).any (·.elem k)
    | none => true
  | .redirect .. => true
  | .sign s => s == Text.ofString "("
  | _ => false

/-- Reads redirections. -/
def redirects : Nat → Tokens → Reading (List Redirect × Tokens)
  | fuel + 1, (_, .redirect stream how) :: ts =>
    match ts with
    | (_, .word target) :: ts => do
      let (rs, ts) ← redirects fuel ts
      return (⟨stream, how, target⟩ :: rs, ts)
    | ts => unexpected ts none
  | _, ts => .ok ([], ts)

/-- Reads a program with its words. -/
def simple : Nat → (line : Nat) → List (Text × Word) → List Word → List Redirect → Tokens →
    Reading (Script × Tokens)
  | fuel + 1, line, sets, words, rs, ts =>
    match ts with
    | (_, .word w) :: rest =>
      match words, assignment? w with
      | [], some s => simple fuel line (sets ++ [s]) [] rs rest
      | _, _ => simple fuel line sets (words ++ [w]) rs rest
    | (_, .redirect stream how) :: rest =>
      match rest with
      | (_, .word target) :: rest =>
        simple fuel line sets words (rs ++ [⟨stream, how, target⟩]) rest
      | _ => unexpected rest none
    | ts => .ok (.call line sets words rs, ts)
  | 0, line, sets, words, rs, ts => .ok (.call line sets words rs, ts)

/-- The words of a loop, up to the end of the line. -/
def loopWords : Tokens → List Word × Tokens
  | (_, .word w) :: ts =>
    let (ws, ts) := loopWords ts
    (w :: ws, ts)
  | ts => ([], ts)

mutual

/-- Reads commands up to something that begins none. Between them stand signs and, if `across`, line
ends. -/
def commands : Nat → (across : Bool) → Tokens → Reading (Script × Tokens)
  | 0, _, ts => unexpected ts none
  | fuel + 1, across, ts => do
    let ts := if across then ts.skipLines else ts
    if ts.first.2.isStart then
      let (a, ts) ← conditions fuel ts
      match ts.first.2 with
      | .sign s =>
        if s == Text.ofString ";" || s == Text.ofString "&" then
          let (b, ts) ← commands fuel across ts.tail
          return (.next a b, ts)
        else return (a, ts)
      | .newline =>
        if across then
          let (b, ts) ← commands fuel across ts.tail
          return (.next a b, ts)
        else return (a, ts)
      | _ => return (a, ts)
    else return (.skip, ts)

/-- Reads commands of which each depends on the one before it. -/
def conditions : Nat → Tokens → Reading (Script × Tokens)
  | 0, ts => unexpected ts none
  | fuel + 1, ts => do
    let (a, ts) ← pipes fuel ts
    moreConditions fuel a ts

/-- Reads on behind the command `a`. -/
def moreConditions : Nat → Script → Tokens → Reading (Script × Tokens)
  | 0, a, ts => .ok (a, ts)
  | fuel + 1, a, ts =>
    match ts.first.2 with
    | .sign s =>
      if s == Text.ofString "&&" then do
        let (b, ts) ← pipes fuel (Tokens.skipLines ts.tail)
        moreConditions fuel (.both a b) ts
      else if s == Text.ofString "||" then do
        let (b, ts) ← pipes fuel (Tokens.skipLines ts.tail)
        moreConditions fuel (.either a b) ts
      else .ok (a, ts)
    | _ => .ok (a, ts)

/-- Reads commands joined by pipes. -/
def pipes : Nat → Tokens → Reading (Script × Tokens)
  | 0, ts => unexpected ts none
  | fuel + 1, ts => do
    if ts.first.2.isKeyword "!" then
      let (a, ts) ← pipes fuel ts.tail
      return (.inverted a, ts)
    else
      let (a, ts) ← command fuel ts
      match ts.first.2 with
      | .sign s =>
        if s == Text.ofString "|" then
          let (b, ts) ← pipes fuel (Tokens.skipLines ts.tail)
          return (.pipe a b, ts)
        else return (a, ts)
      | _ => return (a, ts)

/-- Reads one command. -/
def command : Nat → Tokens → Reading (Script × Tokens)
  | 0, ts => unexpected ts none
  | fuel + 1, ts =>
    let (line, token) := ts.first
    match token.keyword?, token with
    | some k, _ =>
      if [Text.ofString "if", "for", "while", "until", "\x7b"].elem k then do
        let (a, ts) ← compound fuel k ts.tail
        let (rs, ts) ← redirects fuel ts
        return (if rs.isEmpty then a else .group line a rs, ts)
      else unexpected ts none
    | none, .sign s =>
      if s == Text.ofString "(" then do
        let (a, ts) ← commands fuel true ts.tail
        match ts.first.2 with
        | .sign s =>
          if s == Text.ofString ")" then
            let (rs, ts) ← redirects fuel ts.tail
            return (.apart line a rs, ts)
          else unexpected ts (some ")")
        | _ => unexpected ts (some ")")
      else unexpected ts none
    | none, .word _ | none, .redirect .. => simple fuel line [] [] [] ts
    | none, _ => unexpected ts none

/-- Reads the rest of a command that begins with a reserved word. -/
def compound : Nat → (word : Text) → Tokens → Reading (Script × Tokens)
  | 0, _, ts => unexpected ts none
  | fuel + 1, word, ts =>
    if word == Text.ofString "if" then branches fuel ts
    else if word == Text.ofString "for" then forLoop fuel ts
    else if word == Text.ofString "while" then conditionLoop fuel true ts
    else if word == Text.ofString "until" then conditionLoop fuel false ts
    else do
      let (a, ts) ← commands fuel true ts
      let ts ← keyword "\x7d" ts
      return (a, ts)

/-- Reads the rest of a branch, behind its first word. -/
def branches : Nat → Tokens → Reading (Script × Tokens)
  | 0, ts => unexpected ts none
  | fuel + 1, ts => do
    let (condition, ts) ← commands fuel true ts
    let ts ← keyword "then" ts
    let (yes, ts) ← commands fuel true ts
    if ts.first.2.isKeyword "elif" then
      let (no, ts) ← branches fuel ts.tail
      return (.branch condition yes no, ts)
    else if ts.first.2.isKeyword "else" then
      let (no, ts) ← commands fuel true ts.tail
      let ts ← keyword "fi" ts
      return (.branch condition yes no, ts)
    else
      let ts ← keyword "fi" ts
      return (.branch condition yes .skip, ts)

/-- Reads the body of a loop. -/
def body : Nat → Tokens → Reading (Script × Tokens)
  | 0, ts => unexpected ts none
  | fuel + 1, ts => do
    let ts ← keyword "do" ts
    let (a, ts) ← commands fuel true ts
    let ts ← keyword "done" ts
    return (a, ts)

/-- Reads the rest of a loop over words. -/
def forLoop : Nat → Tokens → Reading (Script × Tokens)
  | fuel + 1, (_, .word [.bare name]) :: ts => do
    let ts ← keyword "in" (Tokens.skipLines ts)
    let (words, ts) := loopWords ts
    let ts := match ts.first.2 with
      | .sign s => if s == Text.ofString ";" then Tokens.skipLines ts.tail else ts
      | _ => Tokens.skipLines ts
    let (a, ts) ← body fuel ts
    return (.each name words a, ts)
  | _, ts => unexpected ts none

/-- Reads the rest of a loop under a condition. -/
def conditionLoop : Nat → Bool → Tokens → Reading (Script × Tokens)
  | 0, _, ts => unexpected ts none
  | fuel + 1, whileTrue, ts => do
    let (condition, ts) ← commands fuel true ts
    let (a, ts) ← body fuel ts
    return (.loop condition whileTrue a, ts)

end

/-- The lines of a script from some tokens on, at most `fuel` of them. -/
def linesFrom (size : Nat) : Nat → Tokens → List Script × Option (Nat × Defect)
  | 0, _ => ([], none)
  | fuel + 1, ts =>
    let ts := ts.skipLines
    match ts.first.2 with
    | .finish => ([], none)
    | _ =>
      let line : Reading (Script × Tokens) := do
        let (a, ts) ← commands size false ts
        match ts.first.2 with
        | .finish | .newline => return (a, ts)
        | _ => unexpected ts none
      match line with
      | .error d => ([], some d)
      | .ok (a, ts) =>
        let (rest, d) := linesFrom size fuel ts
        (a :: rest, d)

/-- The lines of a script, and the defect that ends them, if there is one. -/
def linesOf (t : Text) : List Script × Option (Nat × Defect) :=
  let ts := tokens t
  linesFrom (8 * ts.length + 8) (ts.length + 1) ts

end Mend.Shell
