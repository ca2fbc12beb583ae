/-!
# Texts

A text is a list of code points. File contents that are not valid UTF-8 are texts as well: a byte
that does not decode stands for itself as one of the code points `0xDC80` to `0xDCFF`, which no
valid encoding produces, so nothing of a file is lost by reading it.

## Main definitions

* `Code`, `Text` — code points and texts.
* `Text.decimal`, `Text.ofInt` — decimal numerals.
* `Text.splitOn`, `Text.lines`, `Text.unixLines` — cutting a text into pieces.
-/

namespace Mend

/-- A code point. -/
abbrev Code := Nat

/-- A text, as the list of its code points. -/
abbrev Text := List Code

namespace Text

/-- The code points of a string. -/
def ofString (s : String) : Text := s.toList.map Char.toNat

instance : Coe String Text := ⟨ofString⟩

instance : Coe Char Code := ⟨Char.toNat⟩

/-- The string with the same characters; a code point that is no character becomes U+FFFD. -/
def toString (t : Text) : String :=
  String.ofList (t.map fun c => if c.isValidChar then Char.ofNat c else '\uFFFD')

/-- Several texts, one after the other. -/
def cat (parts : List Text) : Text := parts.flatten

/-- Several lists of lines, one below the other. -/
def stack (parts : List (List Text)) : List Text := parts.flatten

/-- Several texts with `sep` between neighbours. -/
def join (sep : Text) : List Text → Text
  | [] => []
  | [t] => t
  | t :: u :: rest => t ++ sep ++ join sep (u :: rest)

/-! ## Single code points -/

/-- The line feed. -/
abbrev newline : Code := 0x0A

/-- The double quote. -/
abbrev quote : Code := 0x22

/-- The backslash. -/
abbrev backslash : Code := 0x5C

/-- The grave accent, of which three open and close a fenced block. -/
abbrev backtick : Code := 0x60

/-- The ASCII decimal digits. -/
def isAsciiDigit (c : Code) : Bool := 0x30 ≤ c && c ≤ 0x39

/-- The ASCII letters of either case. -/
def isAsciiLetter (c : Code) : Bool := (0x41 ≤ c && c ≤ 0x5A) || (0x61 ≤ c && c ≤ 0x7A)

/-- The code points that stand for text: no surrogates, nothing beyond the last plane. -/
def isScalar (c : Code) : Bool := c < 0xD800 || (0xE000 ≤ c && c < 0x110000)

/-- White space: the blanks and line ends of Unicode, and the four separators of ASCII. -/
def isBlank (c : Code) : Bool :=
  (0x09 ≤ c && c ≤ 0x0D) || (0x1C ≤ c && c ≤ 0x20) || c == 0x85 || c == 0xA0 || c == 0x1680 ||
  (0x2000 ≤ c && c ≤ 0x200A) || c == 0x2028 || c == 0x2029 || c == 0x202F || c == 0x205F ||
  c == 0x3000

/-- The code points that end a line when a text is cut into lines. -/
def isLineEnd (c : Code) : Bool :=
  (0x0A ≤ c && c ≤ 0x0D) || (0x1C ≤ c && c ≤ 0x1E) || c == 0x85 || c == 0x2028 || c == 0x2029

/-! ## Numerals -/

/-- The decimal numeral of a natural number. -/
def decimal (n : Nat) : Text :=
  if n < 10 then [0x30 + n] else decimal (n / 10) ++ [0x30 + n % 10]

/-- The decimal numeral of an integer, with a minus sign before a negative one. -/
def ofInt : Int → Text
  | .ofNat n => decimal n
  | .negSucc n => 0x2D :: decimal (n + 1)

/-- The numeral padded on the left with zeros to at least `width` digits. -/
def padded (width n : Nat) : Text :=
  let digits := decimal n
  List.replicate (width - digits.length) 0x30 ++ digits

/-- The hexadecimal digit of a value below sixteen, in lower case. -/
def hexDigit (n : Nat) : Code := if n < 10 then 0x30 + n else 0x57 + n

/-- The lowest `width` hexadecimal digits of `n`. -/
def hex : (width : Nat) → (n : Nat) → Text
  | 0, _ => []
  | w + 1, n => hex w (n / 16) ++ [hexDigit (n % 16)]

/-! ## Trimming -/

/-- Drops the leading code points that satisfy `p`. -/
def trimLeft (p : Code → Bool) (t : Text) : Text := t.dropWhile p

/-- Drops the trailing code points that satisfy `p`. -/
def trimRight (p : Code → Bool) (t : Text) : Text := (t.reverse.dropWhile p).reverse

/-- Drops the code points that satisfy `p` at both ends. -/
def trim (p : Code → Bool) (t : Text) : Text := trimRight p (trimLeft p t)

/-- The text without white space at its ends. -/
def strip (t : Text) : Text := trim isBlank t

/-! ## Searching and cutting -/

/-- Whether `t` begins with `u`. -/
def startsWith (t u : Text) : Bool := u.isPrefixOf t

/-- Whether `t` ends with `u`. -/
def endsWith (t u : Text) : Bool := u.isSuffixOf t

/-- Whether `u` occurs somewhere in `t`. -/
def contains (t u : Text) : Bool :=
  u.isPrefixOf t ||
    match t with
    | [] => false
    | _ :: rest => contains rest u

/-- The pieces of a text between the occurrences of `sep`; there is always at least one. -/
def splitOn (sep : Code) : Text → List Text
  | [] => [[]]
  | c :: rest =>
    match splitOn sep rest with
    | [] => [[]]
    | piece :: pieces => if c == sep then [] :: piece :: pieces else (c :: piece) :: pieces

/-- The lines of a text, without their ends; a line end at the very end starts no further line. -/
def lines (t : Text) : List Text :=
  go [] t
where
  /-- Collects the code points of the current line, last one first. -/
  go (current : Text) : Text → List Text
    | [] => if current.isEmpty then [] else [current.reverse]
    | [c] => if isLineEnd c then [current.reverse] else [(c :: current).reverse]
    | c :: d :: rest =>
      if c == 0x0D && d == 0x0A then current.reverse :: go [] rest
      else if isLineEnd c then current.reverse :: go [] (d :: rest)
      else go (c :: current) (d :: rest)

/-- The text with every carriage return, alone or before a line feed, turned into a line feed. -/
def unixLines : Text → Text
  | [] => []
  | [c] => [if c == 0x0D then 0x0A else c]
  | c :: d :: rest =>
    if c == 0x0D then
      if d == 0x0A then 0x0A :: unixLines rest else 0x0A :: unixLines (d :: rest)
    else c :: unixLines (d :: rest)

/-- The order of texts by their code points. -/
def before : Text → Text → Bool
  | [], [] => false
  | [], _ :: _ => true
  | _ :: _, [] => false
  | a :: s, b :: t => if a == b then before s t else a < b

end Text

end Mend
