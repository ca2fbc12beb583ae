import Mend.Text.Basic

/-!
# Binary floating point numbers as decimals

Every finite number of double precision is `m * 2 ^ q` for a natural number `m`. The functions here
compute with that form exactly: they choose the fewest decimal digits that read back as the same
number, and they round to a fixed number of decimal places.

## Main definitions

* `Binary.ofFloat` — the exact value of a finite number.
* `Binary.shortest` — the fewest digits that identify it.
* `Real.text` — shortest digits, positional from `1e-4` up to below `1e16`.
* `Real.fixed` — a fixed number of places, a half going to the even neighbour.
-/

namespace Mend

/-- The absolute value of a finite number of double precision, `mantissa * 2 ^ exponent`. -/
structure Binary where
  mantissa : Nat
  exponent : Int
  /-- Whether the gap below the number is half as wide as the gap above it. -/
  narrowBelow : Bool
deriving Repr, DecidableEq

/-- A decimal number, `digits * 10 ^ exponent`. -/
structure Decimal where
  digits : Nat
  exponent : Int
deriving Repr, DecidableEq

namespace Binary

/-- The absolute value of a number that is neither infinite nor undefined. -/
def ofFloat (x : Float) : Binary :=
  let bits := x.toBits.toNat
  let e : Nat := bits / Nat.pow 2 52 % 2048
  let f : Nat := bits % Nat.pow 2 52
  if e = 0 then ⟨f, -1074, false⟩
  else ⟨Nat.pow 2 52 + f, Int.subNatNat e 1075, f == 0 && e > 1⟩

/-- The order of `a * 10 ^ i` and `n * 2 ^ j`. -/
def cmpScaled (a : Nat) (i : Int) (n : Nat) (j : Int) : Ordering :=
  compare (a * Nat.pow 10 i.toNat * Nat.pow 2 (-j).toNat)
    (n * Nat.pow 2 j.toNat * Nat.pow 10 (-i).toNat)

/-- Whether a decimal lies among the reals that round to the number: between the middles of the two
gaps beside it, the middles included if the mantissa is even. -/
def readsBack (x : Binary) (d : Decimal) : Bool :=
  let lo := if x.narrowBelow then 4 * x.mantissa - 1 else 4 * x.mantissa - 2
  let hi := 4 * x.mantissa + 2
  let closed := x.mantissa % 2 == 0
  let below := cmpScaled d.digits d.exponent lo (x.exponent - 2)
  let above := cmpScaled d.digits d.exponent hi (x.exponent - 2)
  (below == .gt || (closed && below == .eq)) && (above == .lt || (closed && above == .eq))

/-- The numerator of the number in units of `10 ^ k`. -/
def num (x : Binary) (k : Int) : Nat :=
  x.mantissa * Nat.pow 2 x.exponent.toNat * Nat.pow 10 (-k).toNat

/-- The denominator that goes with `num`. -/
def den (x : Binary) (k : Int) : Nat :=
  Nat.pow 2 (-x.exponent).toNat * Nat.pow 10 k.toNat

/-- The least `k` with the number below `10 ^ k`, searched upwards from `k`. -/
def scaleFrom (x : Binary) : Nat → Int → Int
  | 0, k => k
  | steps + 1, k => if cmpScaled 1 k x.mantissa x.exponent == .gt then k else scaleFrom x steps (k + 1)

/-- The least `k` with the number below `10 ^ k`. -/
def scale (x : Binary) : Int :=
  let guess := ((x.mantissa.log2 : Int) + x.exponent) * 30103 / 100000 - 1
  scaleFrom x 5 guess

/-- The multiple of `10 ^ k` nearest to the number that reads back, if there is one. Of two that are
equally near the even one is taken. -/
def candidate (x : Binary) (k : Int) : Option Decimal :=
  let n := x.num k
  let d := x.den k
  let q := n / d
  let r := n % d
  let down : Decimal := ⟨q, k⟩
  let up : Decimal := ⟨q + 1, k⟩
  match x.readsBack down, x.readsBack up with
  | true, true =>
    match compare (2 * r) d with
    | .lt => some down
    | .gt => some up
    | .eq => some (if q % 2 == 0 then down else up)
  | true, false => some down
  | false, true => some up
  | false, false => none

/-- The first candidate on ever finer grids, from `count` digits on. -/
def search (x : Binary) (top : Int) : (tries count : Nat) → Option Decimal
  | 0, _ => none
  | tries + 1, count =>
    match x.candidate (top - count) with
    | some d => some d
    | none => search x top tries (count + 1)

/-- Moves trailing zeros of the digits into the exponent. -/
def stripZeros : Nat → Decimal → Decimal
  | 0, d => d
  | steps + 1, d =>
    if d.digits != 0 && d.digits % 10 == 0 then stripZeros steps ⟨d.digits / 10, d.exponent + 1⟩
    else d

/-- The fewest digits that read back as the number, and of those the nearest to it. -/
def shortest (x : Binary) : Decimal :=
  if x.mantissa = 0 then ⟨0, 0⟩
  else
    match x.search x.scale 17 1 with
    | some d => stripZeros 20 d
    | none => ⟨x.num (-1100), -1100⟩

/-- The number in units of `10 ^ (-places)`, rounded, a half going to the even neighbour. -/
def rounded (x : Binary) (places : Nat) : Nat :=
  let n := x.num (-(places : Int))
  let d := x.den (-(places : Int))
  let q := n / d
  match compare (2 * (n % d)) d with
  | .lt => q
  | .gt => q + 1
  | .eq => if q % 2 == 0 then q else q + 1

/-- The whole part. -/
def whole (x : Binary) : Nat := x.num 0 / x.den 0

end Binary

namespace Real

/-- Whether the sign bit is set. -/
def isNegative (x : Float) : Bool := x.toBits.toNat ≥ Nat.pow 2 63

/-- The sign of a number, written before its absolute value. -/
def sign (x : Float) : Text := if isNegative x then [0x2D] else []

/-- A positive decimal: positional if the leading digit stands for at least `1e-4` and for less than
`1e16`, and then with a fraction; otherwise with an exponent of at least two digits. -/
def layout (d : Decimal) : Text :=
  let ds := Text.decimal d.digits
  let count : Int := ds.length
  let lead := count + d.exponent - 1
  if d.digits = 0 then Text.ofString "0.0"
  else if -4 ≤ lead && lead < 16 then
    if d.exponent ≥ 0 then ds ++ List.replicate d.exponent.toNat 0x30 ++ Text.ofString ".0"
    else if lead ≥ 0 then
      let split := (lead + 1).toNat
      ds.take split ++ [0x2E] ++ ds.drop split
    else Text.ofString "0." ++ List.replicate (-lead - 1).toNat 0x30 ++ ds
  else
    let fraction := if ds.length > 1 then 0x2E :: ds.drop 1 else []
    ds.take 1 ++ fraction ++ [0x65, if lead < 0 then 0x2D else 0x2B] ++ Text.padded 2 lead.natAbs

/-- The text of a number: the fewest digits that identify it. -/
def text (x : Float) : Text :=
  if x.isNaN then Text.ofString "nan"
  else if x.isInf then sign x ++ Text.ofString "inf"
  else sign x ++ layout (Binary.ofFloat x).shortest

/-- The text of a number with a fixed number of decimal places. -/
def fixed (places : Nat) (x : Float) : Text :=
  if x.isNaN then Text.ofString "nan"
  else if x.isInf then sign x ++ Text.ofString "inf"
  else
    let digits := Text.padded (places + 1) ((Binary.ofFloat x).rounded places)
    let split := digits.length - places
    sign x ++ digits.take split ++ (if places = 0 then [] else 0x2E :: digits.drop split)

/-- The number nearest to `x` among those with at most `places` decimal places. -/
def roundTo (places : Nat) (x : Float) : Float :=
  if x.isNaN || x.isInf then x
  else
    let y := Float.ofScientific ((Binary.ofFloat x).rounded places) true places
    if isNegative x then -y else y

/-- The whole part of a finite number, toward zero. -/
def truncated (x : Float) : Int :=
  let n : Int := (Binary.ofFloat x).whole
  if isNegative x then -n else n

end Real

/-- A number of a document or a setting: whole, or with a fraction. -/
inductive Number where
  | int (n : Int)
  | real (x : Float)

namespace Number

instance : Inhabited Number := ⟨.int 0⟩

/-- The number nearest to an integer. -/
def floatOfInt (n : Int) : Float :=
  let x := Float.ofScientific n.natAbs false 0
  if n < 0 then -x else x

/-- The number in double precision. -/
def toFloat : Number → Float
  | .int n => floatOfInt n
  | .real x => x

/-- The sum; it is whole only if both numbers are. -/
def add : Number → Number → Number
  | .int a, .int b => .int (a + b)
  | a, b => .real (a.toFloat + b.toFloat)

instance : Add Number := ⟨add⟩

/-- The text of a number. -/
def text : Number → Text
  | .int n => Text.ofInt n
  | .real x => Real.text x

/-- Whether a number is zero. -/
def isZero : Number → Bool
  | .int n => n == 0
  | .real x => x == 0.0

/-- Whether a number is zero or less. -/
def isAtMostZero : Number → Bool
  | .int n => n ≤ 0
  | .real x => x ≤ 0.0

/-- The number rounded to a number of decimal places. -/
def roundTo (places : Nat) : Number → Number
  | .int n => .int n
  | .real x => .real (Real.roundTo places x)

/-- The text of a number with a fixed number of decimal places. -/
def fixed (places : Nat) (n : Number) : Text := Real.fixed places n.toFloat

/-- The order of two numbers of double precision, `gt` also where one of them is undefined. -/
def cmpFloat (x y : Float) : Ordering := if x < y then .lt else if x == y then .eq else .gt

/-- The order of an integer and a number of double precision. The whole parts are compared exactly,
since an integer may lie between two neighbours of double precision; behind equal whole parts the
fraction decides. -/
def cmpInt (n : Int) (x : Float) : Ordering :=
  if x.isNaN || x.isInf then cmpFloat 0 x
  else (compare n (Real.truncated x)).then (cmpFloat (floatOfInt n) x)

/-- The order of two numbers, exactly, `gt` also where one of them is undefined. -/
def cmp : Number → Number → Ordering
  | .int a, .int b => compare a b
  | .int a, .real y => cmpInt a y
  | .real x, .int b => if x.isNaN then .gt else (cmpInt b x).swap
  | .real x, .real y => cmpFloat x y

/-- Whether two numbers have the same value. -/
def same (a b : Number) : Bool := cmp a b == .eq

end Number

end Mend
