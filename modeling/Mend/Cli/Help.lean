import Mend.Cli.Command

/-!
# Help

How the program is used, in lines of limited width. Options stand in a column of their own; what they
do stands beside them, or below them where the column is too narrow.

## Main definitions

* `Cli.fill` — words in lines of limited width.
* `Cli.usage`, `Cli.help` — the short and the long form.
-/

namespace Mend.Cli

/-- The width of a line. -/
def lineWidth : Nat := 78

/-- The widest column of options. -/
def maxColumn : Nat := 24

/-- Blanks. -/
def blank (n : Nat) : Text := List.replicate n 0x20

/-- Puts words into lines: as many into each as fit. `line` is the line so far. -/
def fillFrom (width : Nat) (line : Text) : List Text → List Text
  | [] => [line]
  | w :: ws =>
    if line.isEmpty then fillFrom width w ws
    else if line.length + 1 + w.length ≤ width then fillFrom width (.cat [line, " ", w]) ws
    else line :: fillFrom width w ws

/-- Words in lines of a width. -/
def fill (width : Nat) (words : List Text) : List Text := fillFrom width [] words

/-- The words of the short form, behind the name of the program. -/
def usageWords : Option Command → List Text
  | none =>
    ["[-h]", .cat ["\x7b", Text.join "," (Command.all.map (·.name)), "\x7d"], "..."]
  | some c => c.switches.map fun s => .cat ["[", s.written (s.names.headD []), "]"]

/-- How a command is used, in short. -/
def usage (c : Option Command) : Text :=
  let lead := Text.cat ["usage: ", programFor c, " "]
  let lines := fill (lineWidth - lead.length) (usageWords c)
  .cat [lead, Text.join ("\n" ++ blank lead.length) lines, "\n"]

/-- An entry of a list: what it is about, indented, and what is said of it. -/
structure Item where
  indent : Nat
  title : Text
  text : Text

/-- The column in which the texts of some items begin. -/
def columnOf (items : List Item) : Nat :=
  min maxColumn ((items.map fun i => i.indent + i.title.length + 2).foldl max 0)

/-- An item with its text beside it, or below it. -/
def Item.lines (column : Nat) (i : Item) : List Text :=
  let head := blank i.indent ++ i.title
  let texts := fill (lineWidth - column) (Text.splitOn 0x20 i.text)
  let below := texts.map fun t => blank column ++ t
  if head.length + 2 ≤ column then
    match texts with
    | [] => [head]
    | t :: _ => (head ++ blank (column - head.length) ++ t) :: below.tail
  else head :: below

/-- The item of an option. -/
def Switch.item (s : Switch) : Item := ⟨2, .join ", " (s.names.map s.written), s.help⟩

/-- The commands as items. -/
def commandItems : List Item :=
  ⟨2, .cat ["\x7b", Text.join "," (Command.all.map (·.name)), "\x7d"], "Commands"⟩ ::
    Command.all.map fun c => ⟨4, c.name, c.help⟩

/-- A heading with items below it. -/
def section_ (column : Nat) (heading : Text) (items : List Item) : List Text :=
  heading :: items.flatMap (Item.lines column)

/-- How a command is used, at length. -/
def help (c : Option Command) : Text :=
  let options := match c with
    | none => [Switch.forHelp.item]
    | some c => c.switches.map Switch.item
  let items := match c with
    | none => commandItems
    | some _ => []
  let column := columnOf (items ++ options)
  let top : List Text := match c with
    | none => "" :: "Static-analysis issue remediation agent" :: "" ::
        section_ column "positional arguments:" items
    | some _ => []
  .cat [usage c, Text.join "\n" (top ++ [] :: section_ column "options:" options), "\n"]

end Mend.Cli
