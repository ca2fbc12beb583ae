import Mend.Json.Access

/-!
# Efforts

How long a repair takes. Scanners write it as a sequence of parts such as `1d2h30min`, where a day
has eight hours of work; reports write it in hours and minutes.

## Main definitions

* `Effort.parts`, `Effort.minutes`, `Effort.read` — reading an effort.
* `Effort.report` — writing one.
-/

namespace Mend.Effort

/-- The effort of a finding that does not say how long it takes. -/
def defaultMinutes : Nat := 5

/-- The units of an effort. -/
inductive Part.Unit where
  | day
  | hour
  | minute
deriving DecidableEq, Repr

/-- The minutes in a unit; a day is a working day. -/
def Part.Unit.minutes : Part.Unit → Nat
  | .day => 480
  | .hour => 60
  | .minute => 1

/-- The letters of a unit. -/
def Part.Unit.letters : Part.Unit → Text
  | .day => "d"
  | .hour => "h"
  | .minute => "min"

/-- An amount as it is written, and its unit. -/
structure Part where
  amount : Text
  unit : Part.Unit
deriving DecidableEq, Repr

/-- The unit at the beginning of a text, and what follows it. -/
def unit? : Text → Option (Part.Unit × Text)
  | 0x64 :: rest => some (.day, rest)
  | 0x68 :: rest => some (.hour, rest)
  | 0x6D :: 0x69 :: 0x6E :: rest => some (.minute, rest)
  | _ => none

theorem length_of_unit? {t rest : Text} {u : Part.Unit} (h : unit? t = some (u, rest)) :
    rest.length < t.length := by
  unfold unit? at h
  split at h
  case h_4 => cases h
  all_goals
    obtain ⟨-, rfl⟩ := Prod.mk.inj (Option.some.inj h)
    simp only [List.length_cons]
    omega

theorem length_dropWhile_le (p : Code → Bool) (t : Text) : (t.dropWhile p).length ≤ t.length :=
  (List.dropWhile_sublist p).length_le

/-- The parts of an effort: runs of digits, each followed by a unit, with white space between them
or not. Everything else is passed over. -/
def parts : Text → List Part
  | [] => []
  | c :: rest =>
    if Text.isDigit c then
      let digits := c :: rest.takeWhile Text.isDigit
      let behind := rest.dropWhile Text.isDigit
      match _h : unit? (behind.dropWhile Text.isBlank) with
      | some (unit, rest') => ⟨digits, unit⟩ :: parts rest'
      | none => parts behind
    else parts rest
termination_by t => t.length
decreasing_by
  · have h₁ := length_of_unit? _h
    have h₂ := length_dropWhile_le Text.isBlank behind
    have h₃ : behind.length ≤ rest.length := length_dropWhile_le Text.isDigit rest
    simp only [List.length_cons]
    omega
  · have h₃ := length_dropWhile_le Text.isDigit rest
    simp only [List.length_cons]
    omega
  · simp only [List.length_cons]
    omega

/-- The minutes of a part. -/
def Part.minutes (p : Part) : Except Fault Int := do
  return (← Value.intOfText p.amount) * p.unit.minutes

/-- The sum of the minutes of all parts. -/
def sum (ps : List Part) : Except Fault Int :=
  ps.foldlM (fun total p => do return total + (← p.minutes)) 0

/-- The minutes of an effort. One without parts takes the default time. -/
def minutes (t : Text) : Except Fault Int :=
  match parts t with
  | [] => .ok defaultMinutes
  | ps => sum ps

/-- The minutes of an effort that may be absent or of another kind than text. -/
def read (v : Value) : Except Fault Int :=
  if v.isGiven then minutes v.shown else .ok defaultMinutes

/-- An effort in hours and minutes, two digits for minutes after hours. A number of hours that takes more
digits than a numeral may have cannot be written. -/
def report (n : Int) : Except Fault Text :=
  let hours := n.fdiv 60
  let rest := n.fmod 60
  if hours == 0 then .ok (.cat [.ofInt rest, "min"])
  else if !Numeral.fits hours then .error .numberTooLong
  else if rest == 0 then .ok (.cat [.ofInt hours, "h"])
  else .ok (.cat [.ofInt hours, "h", .padded 2 rest.toNat, "min"])

end Mend.Effort
