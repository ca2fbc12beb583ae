import Mend.Text.Basic
import Mend.Fault

/-!
# Command words

A command line is cut into words at blanks. Quotes of either kind keep blanks in a word; inside
single quotes everything stands for itself; a backslash takes away the meaning of the next
character, and inside double quotes only that of a double quote and of a backslash.

## Main definitions

* `Text.words` — the words of a command line.
-/

namespace Mend.Text

/-- Where in a word the reader is. -/
inductive WordState where
  /-- Between words. -/
  | outside
  /-- Inside a word, outside quotes. -/
  | plain
  /-- Inside single quotes. -/
  | single
  /-- Inside double quotes. -/
  | double
  /-- Behind a backslash, inside double quotes or not. -/
  | escape (quoted : Bool)
deriving DecidableEq, Repr

/-- The blanks between words. -/
def isWordBlank (c : Code) : Bool := c == 0x20 || c == 0x09 || c == 0x0D || c == 0x0A

/-- The state behind a character outside quotes, and what the character adds to the word. -/
def WordState.open (c : Code) : WordState × Text :=
  if c == 0x27 then (.single, []) else if c == 0x22 then (.double, [])
  else if c == 0x5C then (.escape false, []) else (.plain, [c])

/-- The words of the rest of a command line. `word` is the part of the current word that has been
read, and `quoted` says whether a quote stood in it, so that it counts even if it is empty. -/
def wordsFrom (state : WordState) (word : Text) (quoted : Bool) : Text → Except Fault (List Text)
  | [] =>
    match state with
    | .outside => .ok []
    | .plain => .ok (if word.isEmpty && !quoted then [] else [word])
    | .single | .double => .error .openQuotation
    | .escape _ => .error .openEscape
  | c :: rest =>
    match state with
    | .outside =>
      if isWordBlank c then wordsFrom .outside [] false rest
      else
        let (next, added) := WordState.open c
        wordsFrom next added (next == .single || next == .double) rest
    | .plain =>
      if isWordBlank c then
        if word.isEmpty && !quoted then wordsFrom .outside [] false rest
        else (wordsFrom .outside [] false rest).map (word :: ·)
      else
        let (next, added) := WordState.open c
        wordsFrom next (word ++ added) (quoted || next == .single || next == .double) rest
    | .single =>
      if c == 0x27 then wordsFrom .plain word quoted rest else wordsFrom .single (word ++ [c]) quoted rest
    | .double =>
      if c == 0x22 then wordsFrom .plain word quoted rest
      else if c == 0x5C then wordsFrom (.escape true) word quoted rest
      else wordsFrom .double (word ++ [c]) quoted rest
    | .escape true =>
      let kept : Text := if c == 0x22 || c == 0x5C then [c] else [0x5C, c]
      wordsFrom .double (word ++ kept) quoted rest
    | .escape false => wordsFrom .plain (word ++ [c]) quoted rest

/-- The words of a command line. -/
def words (t : Text) : Except Fault (List Text) := wordsFrom .outside [] false t

end Mend.Text
