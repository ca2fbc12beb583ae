import Mend.Shell.Program.Say

/-!
# Conditions

`test`, which tells by its status whether a condition on texts, numbers or files holds.
-/

namespace Mend.Shell.Program

/-- Whether one argument after an operator holds. -/
def unary (c : Call) (op arg : Text) : Option Bool :=
  let isFile := match c.entry arg with
    | .ok (.file _) => true
    | _ => false
  let isDir := match c.entry arg with
    | .ok (.dir _) => true
    | _ => false
  match op.toString with
  | "-n" => some !arg.isEmpty
  | "-z" => some arg.isEmpty
  | "-e" | "-r" | "-w" => some (isFile || isDir)
  | "-f" => some isFile
  | "-d" | "-x" => some isDir
  | "-s" => match c.entry arg with
    | .ok (.file b) => some !b.isEmpty
    | .ok (.dir _) => some true
    | .error _ => some false
  | "-L" | "-h" | "-t" | "-p" => some false
  | _ => none

/-- Whether an operator between two arguments holds. -/
def binary (a op b : Text) : Option Bool :=
  let x := (numberOf a).1
  let y := (numberOf b).1
  match op.toString with
  | "=" | "==" => some (a == b)
  | "!=" => some (a != b)
  | "<" => some (Text.before a b)
  | ">" => some (Text.before b a)
  | "-eq" => some (x == y)
  | "-ne" => some (x != y)
  | "-lt" => some (x < y)
  | "-le" => some (x ≤ y)
  | "-gt" => some (x > y)
  | "-ge" => some (x ≥ y)
  | _ => none

/-- Whether a condition holds; nothing if it is none. -/
def condition (c : Call) : List Text → Option Bool
  | [] => some false
  | [a] => some !a.isEmpty
  | [op, a] => if op == Text.ofString "!" then some a.isEmpty else unary c op a
  | [a, op, b] =>
    match binary a op b with
    | some r => some r
    | none =>
      if op == Text.ofString "-a" then some (!a.isEmpty && !b.isEmpty)
      else if op == Text.ofString "-o" then some (!a.isEmpty || !b.isEmpty)
      else if a == Text.ofString "!" then (unary c op b).map not else none
  | a :: rest => if a == Text.ofString "!" then (condition c rest).map not else none

/-- Tells by its status whether a condition holds. -/
def test (bracketed : Bool) : Program := fun c =>
  if bracketed && c.args.getLast? != some [0x5D] then c.fail ["missing ]"] 2
  else
    match condition c (if bracketed then c.args.dropLast else c.args) with
    | some true => succeed c
    | some false => refuse c
    | none => c.fail [c.args.headD [], ": unexpected operator"] 2

end Mend.Shell.Program
