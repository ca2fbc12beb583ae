import Mend.Scan.Pattern
import Mend.Issue.Severity

/-!
# Detectors

A detector finds one kind of defect by a pattern that a line of source code contains. What it says
about a finding does not depend on the line.

## Main definitions

* `Detector` — a pattern and what it means.
* `Detector.standard` — the detectors of a local scan.
-/

namespace Mend

/-- A rule with the pattern that breaks it. -/
structure Detector where
  rule : Text
  category : Category
  severity : Severity
  pattern : Pattern
  message : Text
  /-- How many minutes the repair takes. -/
  effort : Nat := 5

namespace Detector

open Pattern

/-- Whether a line breaks the rule. -/
def isMatch (d : Detector) (line : Text) : Bool := d.pattern.occursIn line

/-- A double quote. -/
def quoteMark : Pattern := one (· == Text.quote)

/-- Names of things that must not stand in source code. -/
def secretNames : Pattern :=
  choice [
    anyCase "password", anyCase "passwd", anyCase "pwd", anyCase "secret", anyCase "token",
    chain [anyCase "api", optional (word "_"), anyCase "key"], anyCase "credential"]

/-- A variable named like a secret gets a text. -/
def credential : Pattern :=
  chain [
    wordEdge, many Text.isWord, secretNames, many Text.isWord, blanks, word "=", blanks, quoteMark,
    one (others Text.quote), many (others Text.quote), quoteMark]

/-- A statement put together from a text and something else is handed to a data base. -/
def concatenatedQuery : Pattern :=
  chain [
    word ".",
    choice [word "executeQuery", word "executeUpdate", word "execute", word "prepareStatement"],
    blanks, word "(", blanks, quoteMark, many (others Text.quote), quoteMark, blanks, word "+"]

/-- A hash algorithm that is broken. -/
def weakHash : Pattern :=
  chain [
    word "MessageDigest.getInstance", blanks, word "(", blanks, quoteMark,
    choice [word "MD2", word "MD5", chain [word "SHA", optional (word "-"), word "1"]], quoteMark]

/-- A test for equality or inequality. -/
def comparison : Pattern := choice [word "==", word "!="]

/-- A text compared by identity. -/
def identityOfTexts : Pattern :=
  choice [chain [comparison, blanks, quoteMark], chain [quoteMark, blanks, comparison]]

/-- The program ends itself. -/
def exitCall : Pattern := chain [wordEdge, word "System.exit", blanks, word "("]

/-- Output past the logger. -/
def consoleOutput : Pattern :=
  chain [wordEdge, word "System.", choice [word "out", word "err"], word ".print"]

/-- A trace printed past the logger. -/
def printedTrace : Pattern :=
  chain [word ".printStackTrace", blanks, word "(", blanks, word ")"]

/-- An exception that is caught and forgotten. -/
def emptyCatch : Pattern :=
  chain [
    word "catch", blanks, word "(", many (others 0x29), word ")", blanks, one (· == 0x7B), blanks,
    one (· == 0x7D)]

/-- The detectors of a local scan, in the order in which they look at a line. -/
def standard : List Detector := [
  { rule := "java:S2068", category := .vulnerability, severity := .critical, pattern := credential
    message := "Remove this hard-coded credential.", effort := 30 },
  { rule := "java:S3649", category := .vulnerability, severity := .blocker
    pattern := concatenatedQuery
    message := "Use a parameterized query instead of concatenating values into SQL."
    effort := 30 },
  { rule := "java:S4790", category := .vulnerability, severity := .critical, pattern := weakHash
    message := "Use a stronger hashing algorithm than MD5/SHA-1.", effort := 15 },
  { rule := "java:S4973", category := .bug, severity := .major, pattern := identityOfTexts
    message := "Strings should be compared using equals()." },
  { rule := "java:S1147", category := .codeSmell, severity := .blocker, pattern := exitCall
    message := "Remove this call to System.exit().", effort := 30 },
  { rule := "java:S106", category := .codeSmell, severity := .major, pattern := consoleOutput
    message := "Replace this use of System.out or System.err by a logger.", effort := 10 },
  { rule := "java:S1148", category := .codeSmell, severity := .minor, pattern := printedTrace
    message := "Use a logger to log this exception instead of printStackTrace().", effort := 10 },
  { rule := "java:S108", category := .codeSmell, severity := .major, pattern := emptyCatch
    message := "Either remove or fill this empty catch block." }]

end Detector

end Mend
