import Mend.Text.Utf8

/-!
# Formatted output

What `echo` and `printf` make of backslashes and percent signs. An octal number stands for one byte;
a byte that is no character by itself is kept as it is.

## Main definitions

* `Shell.unescape` — backslashes in the text of a message.
* `Shell.printf` — arguments laid out by a format.
-/

namespace Mend.Shell

/-- The text of one byte. -/
def byteText (n : Nat) : Text :=
  let b := n % 256
  if b < 0x80 then [b] else [Utf8.kept b.toUInt8]

/-- The octal digits. -/
def isOctal (c : Code) : Bool := 0x30 ≤ c && c ≤ 0x37

/-- The value of digits in a base. -/
def digitsValue (base : Nat) (t : Text) : Nat :=
  t.foldl (fun n c => base * n + (if Text.isAsciiDigit c then c - 0x30 else (c ||| 0x20) - 0x57)) 0

/-- The character that a letter behind a backslash stands for. -/
def escaped? (c : Code) : Option Code :=
  ([(0x61, 0x07), (0x62, 0x08), (0x66, 0x0C), (0x6E, 0x0A), (0x72, 0x0D), (0x74, 0x09), (0x76, 0x0B),
    (0x5C, 0x5C)] : List (Code × Code)).lookup c

/-- What stands for the rest of a text behind a backslash, and what is left of it. -/
def escape (t : Text) : Text × Text :=
  let octal := (t.take 3).takeWhile isOctal
  match t with
  | [] => ([Text.backslash], [])
  | c :: rest =>
    if !octal.isEmpty then (byteText (digitsValue 8 octal), t.drop octal.length)
    else
      match escaped? c with
      | some d => ([d], rest)
      | none => ([Text.backslash, c], rest)

/-- A text with its backslashes worked off, and whether one of them ends all output. -/
def unescapeFrom : Nat → Text → Text × Bool
  | fuel + 1, 0x5C :: 0x63 :: _ => let _ := fuel; ([], true)
  | fuel + 1, 0x5C :: 0x30 :: rest =>
    let octal := (rest.take 3).takeWhile isOctal
    let (t, stop) := unescapeFrom fuel (rest.drop octal.length)
    (byteText (digitsValue 8 octal) ++ t, stop)
  | fuel + 1, 0x5C :: rest =>
    let (here, rest) := escape rest
    let (t, stop) := unescapeFrom fuel rest
    (here ++ t, stop)
  | fuel + 1, c :: rest =>
    let (t, stop) := unescapeFrom fuel rest
    (c :: t, stop)
  | _, t => (t, false)

/-- A text with its backslashes worked off, and whether one of them ends all output. -/
def unescape (t : Text) : Text × Bool := unescapeFrom t.length t

/-! ## Formats -/

/-- How an argument is laid out. -/
structure Conversion where
  flags : Text
  width : Nat
  precision : Option Nat
  letter : Code

namespace Conversion

/-- Whether a conversion has a flag. -/
def has (c : Conversion) (flag : Char) : Bool := c.flags.elem flag.toNat

/-- A text filled up to the width. -/
def fill (c : Conversion) (t : Text) : Text :=
  let blanks := List.replicate (c.width - t.length) 0x20
  if c.has '-' then t ++ blanks else blanks ++ t

/-- A number with the sign before it filled up to the width. -/
def fillNumber (c : Conversion) (sign digits : Text) : Text :=
  match c.precision with
  | some p => c.fill (sign ++ List.replicate (p - digits.length) 0x30 ++ digits)
  | none =>
    if c.has '0' && !c.has '-' then
      sign ++ List.replicate (c.width - sign.length - digits.length) 0x30 ++ digits
    else c.fill (sign ++ digits)

end Conversion

/-- The digits of a number in a base. -/
def digitsIn (base : Nat) : Nat → Nat → Text
  | 0, _ => []
  | fuel + 1, n =>
    if n < base then [Text.hexDigit n] else digitsIn base fuel (n / base) ++ [Text.hexDigit (n % base)]

/-- The number at the beginning of an argument, and whether the argument holds nothing else. -/
def numberOf (t : Text) : Int × Bool :=
  match t with
  | [] => (0, true)
  | [q] => if q == 0x27 || q == 0x22 then (0, true) else unsigned t
  | q :: c :: rest =>
    if q == 0x27 || q == 0x22 then ((c : Int), true)
    else if q == 0x2D then ((unsigned (c :: rest)).map (fun n => -n) id)
    else if q == 0x2B then unsigned (c :: rest)
    else unsigned t
where
  /-- A number without a sign; two marks tell its base. -/
  unsigned (t : Text) : Int × Bool :=
    match t with
    | 0x30 :: 0x78 :: rest =>
      let digits := rest.takeWhile fun c =>
        Text.isAsciiDigit c || (0x61 ≤ (c ||| 0x20) && (c ||| 0x20) ≤ 0x66)
      ((digitsValue 16 digits : Int), digits.length == rest.length)
    | 0x30 :: rest =>
      let digits := rest.takeWhile isOctal
      ((digitsValue 8 digits : Int), digits.length == rest.length)
    | t =>
      let digits := t.takeWhile Text.isAsciiDigit
      ((digitsValue 10 digits : Int), digits.length == t.length && !digits.isEmpty)

/-- The conversion at the beginning of a text, and the rest behind it. -/
def conversion? (t : Text) : Option (Conversion × Text) :=
  let flags := t.takeWhile fun c => (Text.ofString "-+ #0").elem c
  let t := t.drop flags.length
  let width := t.takeWhile Text.isAsciiDigit
  let t := t.drop width.length
  let (precision, t) := match t with
    | 0x2E :: rest =>
      let digits := rest.takeWhile Text.isAsciiDigit
      (some (digitsValue 10 digits), rest.drop digits.length)
    | t => (none, t)
  match t with
  | letter :: rest => some (⟨flags, digitsValue 10 width, precision, letter⟩, rest)
  | [] => none

/-- What has been printed so far. -/
structure Printed where
  text : Text := []
  /-- The arguments that were no numbers. -/
  bad : List Text := []
  left : List Text
  stop : Bool := false

/-- An argument laid out by a conversion. -/
def Printed.convert (p : Printed) (c : Conversion) : Printed :=
  let arg := p.left.headD []
  let p := { p with left := p.left.tail }
  let put (p : Printed) (t : Text) : Printed := { p with text := p.text ++ t }
  let (n, whole) := numberOf arg
  let numeric (sign digits : Text) : Printed :=
    let p := put p (c.fillNumber sign digits)
    if whole then p else { p with bad := p.bad ++ [arg] }
  let unsigned := if n < 0 then (n + Nat.pow 2 64).toNat else n.toNat
  let cut (t : Text) : Text := match c.precision with
    | some k => t.take k
    | none => t
  match Char.ofNat c.letter with
  | 's' => put p (c.fill (cut arg))
  | 'b' =>
    let (t, stop) := unescape arg
    { put p (c.fill (cut t)) with stop }
  | 'c' => put p (c.fill (arg.take 1))
  | 'd' | 'i' =>
    let sign : Text :=
      if n < 0 then "-" else if c.has '+' then "+" else if c.has ' ' then " " else []
    numeric sign (.decimal n.natAbs)
  | 'u' => numeric [] (.decimal unsigned)
  | 'o' => numeric [] (digitsIn 8 64 unsigned)
  | 'x' => numeric [] (digitsIn 16 64 unsigned)
  | 'X' =>
    numeric [] ((digitsIn 16 64 unsigned).map fun c => if 0x61 ≤ c then c - 0x20 else c)
  | _ => p

/-- Goes once through a format. -/
def Printed.pass : Nat → Printed → Text → Printed
  | fuel + 1, p, 0x5C :: rest =>
    let (here, rest) := escape rest
    pass fuel { p with text := p.text ++ here } rest
  | fuel + 1, p, 0x25 :: 0x25 :: rest => pass fuel { p with text := p.text ++ [0x25] } rest
  | fuel + 1, p, 0x25 :: rest =>
    match conversion? rest with
    | none => { p with text := p.text ++ [0x25] }
    | some (c, rest) =>
      let p := p.convert c
      if p.stop then p else pass fuel p rest
  | fuel + 1, p, c :: rest =>
    let run := (c :: rest).takeWhile fun c => c != 0x5C && c != 0x25
    pass fuel { p with text := p.text ++ run } ((c :: rest).drop run.length)
  | _, p, _ => p

/-- Goes through a format again as long as arguments are left and it takes some. -/
def Printed.passes (format : Text) : Nat → Printed → Printed
  | 0, p => p
  | fuel + 1, p =>
    let q := p.pass format.length format
    if q.stop || q.left.isEmpty || q.left.length == p.left.length then q else passes format fuel q

/-- Arguments laid out by a format, which is used as often as there are arguments for it. -/
def printf (format : Text) (args : List Text) : Printed :=
  Printed.passes format (args.length + 1) { left := args }

end Mend.Shell
