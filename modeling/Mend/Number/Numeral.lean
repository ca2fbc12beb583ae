import Mend.Text.Class

/-!
# Reading whole numbers

A numeral is a run of decimal digits of any script, with at most one underscore between two digits,
an optional sign before it and white space around it. Numerals of more than `Numeral.maxDigits`
digits are refused, and numbers that would take more are not written.
-/

namespace Mend.Numeral

/-- Why a text is not read as a whole number. -/
inductive Defect where
  | malformed
  | tooLong (digits : Nat)
deriving DecidableEq, Repr

/-- The most digits a numeral may have. -/
def maxDigits : Nat := 4300

/-- Whether a number has no more digits than a numeral may have. -/
def fits (n : Int) : Bool := n.natAbs < Nat.pow 10 maxDigits

/-- The wording of the refusal of a numeral with too many digits. -/
def refusal (digits : Nat) : Text :=
  .cat ["Exceeds the limit (4300 digits) for integer string conversion: value has ", .decimal digits,
    " digits; use sys.set_int_max_str_digits() to increase the limit"]

/-- The digits of an unsigned numeral. After a digit comes a digit, or an underscore and a digit. -/
def digits? : Text → Option (List Nat)
  | [] => none
  | c :: rest =>
    match Text.digit? c, rest with
    | none, _ => none
    | some d, [] => some [d]
    | some d, u :: rest' =>
      if u == 0x5F then (digits? rest').map (d :: ·) else (digits? (u :: rest')).map (d :: ·)

/-- The value of a list of digits, most significant first. -/
def value (digits : List Nat) : Nat := digits.foldl (fun n d => 10 * n + d) 0

/-- The value of an unsigned numeral. -/
def unsigned (t : Text) : Except Defect Nat :=
  match digits? t with
  | none => .error .malformed
  | some ds => if ds.length > maxDigits then .error (.tooLong ds.length) else .ok (value ds)

/-- Whether a code point may stand around a numeral: white space, but none of the four separators of
ASCII. -/
def isPadding (c : Code) : Bool := Text.isBlank c && !(0x1C ≤ c && c ≤ 0x1F)

/-- The value of a numeral with an optional sign, white space around it. -/
def read (t : Text) : Except Defect Int :=
  match t.trim isPadding with
  | 0x2D :: rest => (unsigned rest).map fun n => -(n : Int)
  | 0x2B :: rest => (unsigned rest).map Int.ofNat
  | rest => (unsigned rest).map Int.ofNat

end Mend.Numeral
