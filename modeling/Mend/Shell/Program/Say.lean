import Mend.Shell.Call
import Mend.Shell.Format

/-!
# Programs that say their arguments

`true`, `false`, `echo`, `printf`, `seq` and `sleep`: programs that look at their arguments alone.
-/

namespace Mend.Shell.Program

/-- Does nothing, well. -/
def succeed : Program := fun c => { tree := c.tree }

/-- Does nothing, badly. -/
def refuse : Program := fun c => { tree := c.tree, status := 1 }

/-- Says its arguments. Options leave out the line end or work off backslashes. -/
def echo : Program := fun c =>
  let isOption (t : Text) : Bool :=
    match t with
    | 0x2D :: d :: rest => (d :: rest).all fun x => (Text.ofString "neE").elem x
    | _ => false
  let flags := (c.args.takeWhile isOption).flatten.filter (· != 0x2D)
  let words := c.args.dropWhile isOption
  let text := Text.join " " words
  let escapes := (flags.filter (· != 0x6E)).getLast? == some 0x65
  let (text, stop) := if escapes then unescape text else (text, false)
  c.say (if stop || flags.elem 0x6E then text else text ++ [Text.newline])

/-- Says its arguments as a shell does it: backslashes are always worked off. -/
def plainEcho : Program := fun c =>
  let (silent, words) := match c.args with
    | [0x2D, 0x6E] :: rest => (true, rest)
    | args => (false, args)
  let (text, stop) := unescape (.join " " words)
  c.say (if stop || silent then text else text ++ [Text.newline])

/-- A program's last words about arguments that it cannot use. -/
def helpNotice (c : Call) : Said := ⟨.cat ["Try '", c.name, " --help' for more information.\n"], true⟩

/-- Says its arguments in a format. `isOwn` tells whether a shell does it itself. -/
def printFormat (isOwn : Bool) : Program := fun c =>
  match c.args with
  | [] =>
    if isOwn then c.fail ["usage: printf format [arg ...]"] 2
    else { tree := c.tree, status := 1, said := [c.complaint ["missing operand"], helpNotice c] }
  | format :: args =>
    let p := printf format args
    let refused (t : Text) : Said :=
      if isOwn then c.complaint [t, ": expected numeric value"]
      else c.complaint ["‘", t, "’: expected a numeric value"]
    { tree := c.tree, status := if p.bad.isEmpty then 0 else 1
      said := p.bad.map refused ++ [⟨p.text, false⟩] }

/-- Says numbers in a row. -/
def seq : Program := fun c =>
  let ns := c.args.map fun a => (numberOf a).1
  let (first, step, last) : Int × Int × Int := match ns with
    | [b] => (1, 1, b)
    | [a, b] => (a, 1, b)
    | [a, s, b] => (a, s, b)
    | _ => (1, 1, 0)
  let count := if step = 0 then 0 else ((last - first) / step + 1).toNat
  c.say ((List.range count).flatMap fun (i : Nat) => Text.ofInt (first + step * i) ++ [Text.newline])

/-- The seconds in the argument of a pause, in billionths. -/
def duration? (t : Text) : Option Nat :=
  let (number, unit) : Text × Nat := match t.getLast? with
    | some 0x73 => (t.dropLast, 1)
    | some 0x6D => (t.dropLast, 60)
    | some 0x68 => (t.dropLast, 3600)
    | some 0x64 => (t.dropLast, 86400)
    | _ => (t, 1)
  let whole := number.takeWhile Text.isAsciiDigit
  let fraction := (number.drop whole.length).drop 1
  let point := (number.drop whole.length).take 1
  if (whole ++ fraction).isEmpty || !fraction.all Text.isAsciiDigit || !(point.all (· == 0x2E)) then
    none
  else
    let digits := whole ++ (fraction ++ List.replicate 9 0x30).take 9
    some (digitsValue 10 digits * unit)

/-- Sleeps. -/
def sleep : Program := fun c =>
  match c.args.mapM duration? with
  | some (d :: ds) => { tree := c.tree, pause := countOver id (d :: ds) }
  | some [] =>
    { tree := c.tree, status := 1, said := [c.complaint ["missing operand"], helpNotice c] }
  | none =>
    let bad := c.args.filter fun a => (duration? a).isNone
    { tree := c.tree, status := 1
      said := bad.map (fun a => c.complaint ["invalid time interval ‘", a, "’"]) ++ [helpNotice c] }

end Mend.Shell.Program
