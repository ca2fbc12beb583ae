import Mend.Text.WordTable
import Mend.Text.PrintableTable
import Mend.Text.CaseTable
import Mend.Text.CasedTable

/-!
# Character classes and case

Membership in the tables of Unicode properties, and case mapping of whole texts. Case mapping looks
at one character at a time, except for the capital sigma, whose lower case at the end of a word has a
shape of its own.
-/

namespace Mend.Text

/-- Whether a code point lies in one of the closed ranges. -/
def inRanges (ranges : List (Code × Code)) (c : Code) : Bool :=
  ranges.any fun r => r.1 ≤ c && c ≤ r.2

/-- Word characters: letters, numbers and the underscore. -/
def isWord (c : Code) : Bool :=
  if c < 0x80 then isAsciiLetter c || isAsciiDigit c || c == 0x5F else inRanges wordRanges c

/-- Whether a code point has a printed form of its own. -/
def isPrintable (c : Code) : Bool :=
  if c < 0x7F then 0x20 ≤ c else !inRanges unprintableRanges c

/-- The zero digits of Unicode; the nine digits after each are its other digits. -/
def zeroDigits : List Code :=
  [0x30, 0x660, 0x6F0, 0x7C0, 0x966, 0x9E6, 0xA66, 0xAE6, 0xB66, 0xBE6, 0xC66, 0xCE6, 0xD66, 0xDE6,
   0xE50, 0xED0, 0xF20, 0x1040, 0x1090, 0x17E0, 0x1810, 0x1946, 0x19D0, 0x1A80, 0x1A90, 0x1B50,
   0x1BB0, 0x1C40, 0x1C50, 0xA620, 0xA8D0, 0xA900, 0xA9D0, 0xA9F0, 0xAA50, 0xABF0, 0xFF10,
   0x104A0, 0x10D30, 0x11066, 0x110F0, 0x11136, 0x111D0, 0x112F0, 0x11450, 0x114D0, 0x11650,
   0x116C0, 0x11730, 0x118E0, 0x11950, 0x11C50, 0x11D50, 0x11DA0, 0x16A60, 0x16AC0, 0x16B50,
   0x1D7CE, 0x1D7D8, 0x1D7E2, 0x1D7EC, 0x1D7F6, 0x1E140, 0x1E2F0, 0x1E950, 0x1FBF0]

/-- The value of a decimal digit of any script. -/
def digit? (c : Code) : Option Nat :=
  if isAsciiDigit c then some (c - 0x30)
  else if c < 0x80 then none
  else (zeroDigits.find? fun z => z ≤ c && c ≤ z + 9).map (c - ·)

/-- Whether a code point is a decimal digit of any script. -/
def isDigit (c : Code) : Bool := (digit? c).isSome

/-- The image of a character under a case mapping. -/
def mapCase (runs : List CaseRun) (expansions : List (Code × Text)) (c : Code) : Text :=
  match runs.find? fun (first, last, step, _) => first ≤ c && c ≤ last && (c - first) % step == 0 with
  | some (_, _, _, shift) => [(c + shift).toNat]
  | none => (expansions.lookup c).getD [c]

/-- The upper case of a text. -/
def upper (t : Text) : Text :=
  t.flatMap fun c =>
    if c < 0x80 then [if 0x61 ≤ c && c ≤ 0x7A then c - 0x20 else c]
    else mapCase upperRuns upperExpansions c

/-- Whether a text goes on with a letter that has case, once some characters are passed over. -/
def opensCased : Text → Bool
  | [] => false
  | c :: rest => if inRanges ignorableRanges c then opensCased rest else inRanges casedRanges c

/-- The lower case of a character between two texts, the first of them read backwards. A sigma behind
a letter and before none is the last one of a word. -/
def lowerBetween (before : Text) (c : Code) (behind : Text) : Text :=
  if c == 0x3A3 then [if opensCased before && !opensCased behind then 0x3C2 else 0x3C3]
  else if c < 0x80 then [if 0x41 ≤ c && c ≤ 0x5A then c + 0x20 else c]
  else mapCase lowerRuns lowerExpansions c

/-- The lower case of a text behind another one, which is read backwards. -/
def lowerBehind (before : Text) : Text → Text
  | [] => []
  | c :: rest => lowerBetween before c rest ++ lowerBehind (c :: before) rest

/-- The lower case of a text. -/
def lower (t : Text) : Text := lowerBehind [] t

end Mend.Text
