import Mend.Shell.Call
import Mend.Shell.Format
import Mend.Shell.Grep

/-!
# Programs that read files

`cat`, `ls`, `wc`, `grep`, `head` and `tail`. A file that cannot be read is told on the error stream
and does not keep the others from being read.
-/

namespace Mend.Shell.Program

/-- Says the contents of files, or its input. -/
def cat : Program := fun c =>
  let files := c.options.2
  let files := if files.isEmpty then [[0x2D]] else files
  files.foldl (fun r t =>
    match c.fileText t with
    | .ok text => { r with said := r.said ++ [⟨text, false⟩] }
    | .error p => { r with status := 1, said := r.said ++ [c.complaint [t, ": ", p.reason]] })
    { tree := c.tree }

/-- The names in a directory, in order; hidden ones if they are wanted. -/
def namesIn (e : Entry) (all : Bool) : List Text :=
  let names := (e.entries.map (·.1)).mergeSort fun a b => !Text.before b a
  if all then Text.ofString "." :: Text.ofString ".." :: names else names.filter fun n => n.head? != some 0x2E

/-- Lists directories. -/
def ls : Program := fun c =>
  let (flags, operands) := c.options
  let all := flags.elem 0x61
  let operands := if operands.isEmpty then [Text.ofString "."] else operands
  let operands := operands.mergeSort fun a b => !Text.before b a
  let found := operands.map fun t => (t, c.entry t)
  let bad := found.filterMap fun (t, e) => match e with
    | .error p => some (c.complaint ["cannot access '", t, "': ", p.reason])
    | .ok _ => none
  let files := found.filterMap fun (t, e) => match e with
    | .ok (.file _) => some (t ++ [Text.newline])
    | _ => none
  let dirs := found.filterMap fun (t, e) => match e with
    | .ok (.dir es) => some (t, (namesIn (.dir es) all).flatMap (· ++ [Text.newline]))
    | _ => none
  let blocks := dirs.map fun (t, lines) =>
    if operands.length = 1 then lines else Text.cat [t, ":\n", lines]
  let blocks := if files.isEmpty then blocks else files.flatten :: blocks
  { tree := c.tree, status := if bad.isEmpty then 0 else 2
    said := bad ++ [⟨.join "\n" blocks, false⟩] }

/-- The number of runs of characters between blanks. -/
def countWords : (inside : Bool) → Text → Nat
  | _, [] => 0
  | inside, c :: rest =>
    if Text.isBlank c then countWords false rest
    else if inside then countWords true rest else countWords true rest + 1

/-- Counts lines, words and bytes. -/
def wc : Program := fun c =>
  let (flags, files) := c.options
  let wanted (f : Char) : Bool := flags.elem f.toNat
  let shows := (flags.filter fun f => (Text.ofString "lwcm").elem f).eraseDups
  let counts (t : Text) : List Nat :=
    (if shows.isEmpty || wanted 'l' then [t.count Text.newline] else []) ++
    (if shows.isEmpty || wanted 'w' then [countWords false t] else []) ++
    (if wanted 'm' then [t.length] else []) ++
    (if shows.isEmpty || wanted 'c' then [Entry.byteCount t] else [])
  let found : List (Text × Except FileProblem Text) :=
    if files.isEmpty then [([], .ok c.input)] else files.map fun f => (f, c.fileText f)
  let total : List Nat := found.foldl (fun sum (_, t) => match t with
    | .ok t => if sum.isEmpty then counts t else (sum.zip (counts t)).map fun (a, b) => a + b
    | .error _ => sum) []
  let bytes := countOver (fun x => match x.2 with
    | .ok t => Entry.byteCount t
    | .error _ => 0) found
  let width :=
    if shows.length = 1 && found.length = 1 then 1
    else if files.isEmpty && !c.inputIsFile then 7 else (Text.decimal bytes).length
  let line (name : Text) (ns : List Nat) : Text :=
    let cells := ns.map fun n =>
      let t := Text.decimal n
      List.replicate (width - t.length) 0x20 ++ t
    .join " " (if name.isEmpty then cells else cells ++ [name]) ++ [Text.newline]
  let said := found.map fun (f, t) => match t with
    | .ok t => (⟨line f (counts t), false⟩ : Said)
    | .error p => c.complaint [f, ": ", p.reason]
  let bad := found.any fun (_, t) => match t with
    | .ok _ => false
    | .error _ => true
  { tree := c.tree, status := if bad then 1 else 0
    said := said ++ (if 1 < found.length then [⟨line "total" total, false⟩] else []) }

/-- The lines of a text; the last one need not end. -/
def linesIn (t : Text) : List Text :=
  let pieces := Text.splitOn Text.newline t
  if pieces.getLast? == some [] then pieces.dropLast else pieces

/-- What to look for in which files. -/
structure Search where
  flags : Text := []
  patterns : List Text := []
  operands : List Text := []

/-- The arguments of a search. -/
def Search.ofArgs : Nat → Search → List Text → Search
  | fuel + 1, s, a :: rest =>
    match a, rest with
    | [0x2D, 0x65], p :: rest => ofArgs fuel { s with patterns := s.patterns ++ [p] } rest
    | [0x2D, 0x2D], rest => { s with operands := s.operands ++ rest }
    | 0x2D :: d :: letters, rest =>
      ofArgs fuel { s with flags := s.flags ++ (d :: letters) } rest
    | a, rest => ofArgs fuel { s with operands := s.operands ++ [a] } rest
  | _, s, _ => s

/-- Looks for lines that match a pattern. -/
def grep : Program := fun c =>
  let s := Search.ofArgs (c.args.length + 1) {} c.args
  let has (f : Char) : Bool := s.flags.elem f.toNat
  let s := match s.patterns, s.operands with
    | [], p :: rest => { s with patterns := [p], operands := rest }
    | _, _ => s
  let fold (t : Text) : Text :=
    if has 'i' then t.map fun x => if 0x41 ≤ x && x ≤ 0x5A then x + 0x20 else x else t
  let patterns : List LinePattern := s.patterns.flatMap fun p =>
    (linesIn (fold p)).flatMap fun p =>
      if has 'F' then [{ pattern := Pattern.word p }]
      else (LinePattern.alternatives (has 'E') p).map (LinePattern.ofAlternative (has 'E'))
  let isMatch (line : Text) : Bool :=
    let line := fold line
    let some_ := patterns.any fun p =>
      if has 'x' then ({ p with atStart := true, atEnd := true } : LinePattern).isMatch line
      else p.isMatch line
    some_ != has 'v'
  let walk := has 'r' || has 'R'
  let operands := if s.operands.isEmpty then [if walk then Text.ofString "." else [0x2D]] else s.operands
  let files : List (Text × Except FileProblem Text) := operands.flatMap fun t =>
    match walk, c.entry t with
    | true, .ok (.dir es) => (Entry.dir es).files.map fun (place, b) =>
        (Text.join "/" (t :: place), .ok (Utf8.decodeKeeping b))
    | _, _ => [(t, c.fileText t)]
  let named := 1 < files.length || walk
  let label (f : Text) : Text := if f == [0x2D] then "(standard input)" else f
  let lead (f : Text) : Text := if named then .cat [label f, ":"] else []
  let report (f : Text) (r : Except FileProblem Text) : Bool × List Said :=
    let hits (t : Text) := ((linesIn t).zip (List.range t.length)).filter fun x => isMatch x.1
    match r with
    | .error p =>
      (false, if has 's' then [] else
        match p with
        | .isDirectory =>
          c.complaint [f, ": ", p.reason] ::
            (if has 'c' then [⟨.cat [lead f, "0\n"], false⟩] else [])
        | p => [c.complaint [f, ": ", p.reason]])
    | .ok t =>
      let hits := hits t
      let out : Text :=
        if has 'q' then []
        else if has 'c' then .cat [lead f, .decimal hits.length, "\n"]
        else if has 'l' then (if hits.isEmpty then [] else label f ++ [Text.newline])
        else hits.flatMap fun (line, n) =>
          Text.cat [lead f, if has 'n' then Text.cat [.decimal (n + 1), ":"] else [], line, "\n"]
      (!hits.isEmpty, [⟨out, false⟩])
  let replies := files.map fun (f, r) => report f r
  let found := replies.any (·.1)
  let bad := files.any fun (_, r) => match r with
    | .ok _ => false
    | .error _ => true
  { tree := c.tree, said := replies.flatMap (·.2)
    status := if bad && !(found && has 'q') then 2 else if found then 0 else 1 }

/-- Whether bytes or lines are counted, how many, and the other arguments. -/
def amount (args : List Text) : Bool × Nat × List Text :=
  match args with
  | [0x2D, f] :: n :: rest => ⟨f == 0x63, digitsValue 10 (n.filter Text.isAsciiDigit), rest⟩
  | (0x2D :: f :: n) :: rest =>
    if Text.isAsciiDigit f then ⟨false, digitsValue 10 ((f :: n).filter Text.isAsciiDigit), rest⟩
    else ⟨f == 0x63, digitsValue 10 (n.filter Text.isAsciiDigit), rest⟩
  | rest => ⟨false, 10, rest⟩

/-- Says an end of its files or of its input. -/
def part (keepFirst : Bool) : Program := fun c =>
  let ⟨bytes, n, files⟩ := amount c.args
  let cut (t : Text) : Text :=
    if bytes then
      let b := (Utf8.encodeKeeping t).toOption.getD []
      Utf8.decodeKeeping (if keepFirst then b.take n else b.drop (b.length - n))
    else
      let ends := (t.splitBy fun a _ => a != Text.newline)
      (if keepFirst then ends.take n else ends.drop (ends.length - n)).flatten
  let files := if files.isEmpty then [[0x2D]] else files
  files.foldl (fun r t =>
    match c.fileText t with
    | .ok text => { r with said := r.said ++ [⟨cut text, false⟩] }
    | .error p =>
      { r with status := 1, said := r.said ++
          [c.complaint ["cannot open '", t, "' for reading: ", p.reason]] })
    { tree := c.tree }

end Mend.Shell.Program
