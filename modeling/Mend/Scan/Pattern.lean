import Mend.Text.Class

/-!
# Text patterns

Patterns that describe what a suspicious line contains. A pattern is matched at a place of a text;
it may match in several ways, which differ in where they end.

## Main definitions

* `Pattern` — characters of a class, runs of them, edges of words, sequences and choices.
* `Pattern.ends` — the places where a match can end.
* `Pattern.occursIn` — whether a text contains a match.
-/

namespace Mend

/-- A place inside a text: the character before it, if there is one, and the text behind it. -/
structure Spot where
  before : Option Code
  rest : Text

/-- A pattern for a part of a text. -/
inductive Pattern where
  /-- One character of a class. -/
  | one (p : Code → Bool)
  /-- Any number of characters of a class. -/
  | many (p : Code → Bool)
  /-- The place between a word character and something else. -/
  | wordEdge
  /-- Nothing at all. -/
  | empty
  | seq (a b : Pattern)
  | either (a b : Pattern)

namespace Pattern

/-- The places after any number of characters of a class. -/
def runEnds (p : Code → Bool) (before : Option Code) : Text → List Spot
  | [] => [⟨before, []⟩]
  | c :: rest =>
    ⟨before, c :: rest⟩ :: if p c then runEnds p (some c) rest else []

/-- Whether the character at an edge is a word character. -/
def isWordAt (c : Option Code) : Bool := (c.map Text.isWord).getD false

/-- The places where a match that begins at a spot can end. -/
def ends : Pattern → Spot → List Spot
  | one p, s =>
    match s.rest with
    | c :: rest => if p c then [⟨some c, rest⟩] else []
    | [] => []
  | many p, s => runEnds p s.before s.rest
  | wordEdge, s => if isWordAt s.before != isWordAt s.rest.head? then [s] else []
  | empty, s => [s]
  | seq a b, s => (ends a s).flatMap (ends b)
  | either a b, s => ends a s ++ ends b s

/-- Whether the pattern matches at some place from `before` on. -/
def search (p : Pattern) (before : Option Code) : Text → Bool
  | [] => !(p.ends ⟨before, []⟩).isEmpty
  | c :: rest => !(p.ends ⟨before, c :: rest⟩).isEmpty || search p (some c) rest

/-- Whether a text contains a match. -/
def occursIn (p : Pattern) (t : Text) : Bool := p.search none t

/-! ## Building patterns -/

/-- Several patterns, one behind the other. -/
def chain : List Pattern → Pattern
  | [] => empty
  | [p] => p
  | p :: rest => seq p (chain rest)

/-- One of several patterns. -/
def choice : List Pattern → Pattern
  | [] => one fun _ => false
  | [p] => p
  | p :: rest => either p (choice rest)

/-- A given text. -/
def word (t : Text) : Pattern := chain (t.map fun c => one (· == c))

/-- Whether a character counts as the lower case letter `c` when case does not matter. Three letters
have a relative outside ASCII: the long s, the Kelvin sign, and the dotted and dotless i. -/
def sameLetter (c d : Code) : Bool :=
  d == c ||
    (0x61 ≤ c && c ≤ 0x7A &&
      (d + 0x20 == c || (c == 0x73 && d == 0x17F) || (c == 0x6B && d == 0x212A) ||
        (c == 0x69 && (d == 0x130 || d == 0x131))))

/-- A given text in lower case, in any case. -/
def anyCase (t : Text) : Pattern := chain (t.map fun c => one (sameLetter c))

/-- White space, or none. -/
def blanks : Pattern := many Text.isBlank

/-- Anything but a character. -/
def others (c : Code) : Code → Bool := (· != c)

/-- A pattern, or nothing. -/
def optional (p : Pattern) : Pattern := either p empty

end Pattern

end Mend
