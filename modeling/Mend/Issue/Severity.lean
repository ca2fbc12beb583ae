import Mend.Json.Access
import Mend.Text.Class

/-!
# Severities and categories

The two closed lists by which findings are sorted: how bad a finding is, and what kind of defect it
is. Names are read without regard to case and to white space around them.

## Main definitions

* `Severity`, `Severity.rank`, `Severity.descending` — the severities and their order.
* `Category` — the kinds of defects.
-/

namespace Mend

/-- How severe a finding is, the most severe first. -/
inductive Severity where
  | blocker
  | critical
  | major
  | minor
  | info
deriving DecidableEq, Repr

namespace Severity

/-- A higher rank is more severe. -/
def rank : Severity → Nat
  | blocker => 5
  | critical => 4
  | major => 3
  | minor => 2
  | info => 1

/-- The name of a severity in documents. -/
def name : Severity → Text
  | blocker => "BLOCKER"
  | critical => "CRITICAL"
  | major => "MAJOR"
  | minor => "MINOR"
  | info => "INFO"

/-- The name of a severity in a report. -/
def title : Severity → Text
  | blocker => "Blocker"
  | critical => "Critical"
  | major => "Major"
  | minor => "Minor"
  | info => "Info"

/-- All severities, the most severe first. -/
def descending : List Severity := [blocker, critical, major, minor, info]

/-- The order by rank. -/
instance : LT Severity := ⟨fun a b => a.rank < b.rank⟩

instance (a b : Severity) : Decidable (a < b) := inferInstanceAs (Decidable (a.rank < b.rank))

/-- The severity with a name, in any case. -/
def parse (t : Text) : Except Fault Severity :=
  let name := t.strip.upper
  match descending.find? fun s => s.name == name with
  | some s => .ok s
  | none => .error (.notOneOf "Severity" name)

/-- The severity that a value names. -/
def read (v : Value) : Except Fault Severity := do parse (← v.asText "strip")

/-- A higher rank is a higher severity, and two severities of one rank are the same. -/
theorem rank_injective {a b : Severity} (h : a.rank = b.rank) : a = b := by
  cases a <;> cases b <;> simp_all [rank]

end Severity

/-- What kind of defect a finding is. -/
inductive Category where
  | bug
  | vulnerability
  | codeSmell
deriving DecidableEq, Repr

namespace Category

/-- The name of a category in documents. -/
def name : Category → Text
  | bug => "BUG"
  | vulnerability => "VULNERABILITY"
  | codeSmell => "CODE_SMELL"

/-- All categories. -/
def all : List Category := [bug, vulnerability, codeSmell]

/-- The category with a name, in any case and with hyphens in place of underscores. -/
def parse (t : Text) : Except Fault Category :=
  let name := t.strip.upper.map fun c => if c == 0x2D then 0x5F else c
  match all.find? fun k => k.name == name with
  | some k => .ok k
  | none => .error (.notOneOf "IssueType" name)

/-- The category that a value names. -/
def read (v : Value) : Except Fault Category := do parse (← v.asText "strip")

end Category

end Mend
