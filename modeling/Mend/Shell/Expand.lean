import Mend.Shell.Grep
import Mend.Project.Tree

/-!
# Fields

An expanded word is cut into fields at the blanks that come from bare variables and outputs. In a
field, bare stars, question marks and brackets match the names of files.

## Main definitions

* `Shell.Fragment`, `Shell.fields` — the fields of an expanded word.
* `Shell.Field.paths` — what a field stands for in a file tree.
-/

namespace Mend.Shell

/-- A part of an expanded word. -/
inductive Fragment where
  /-- Characters of one field; patterns in them count if they are bare. -/
  | solid (t : Text) (isBare : Bool)
  /-- Characters that are cut at blanks. -/
  | loose (t : Text)
  /-- Several fields. -/
  | several (ts : List Text)
deriving DecidableEq, Repr

/-- A field: its characters, each with whether it may belong to a pattern. -/
abbrev Field := List (Code × Bool)

/-- The field of a text. -/
def Field.ofText (t : Text) (isBare : Bool) : Field := t.map fun c => (c, isBare)

/-- The characters of a field. -/
def Field.toText (f : Field) : Text := f.map (·.1)

/-- The fields in characters that are cut at blanks, behind an open field. The last one is open. -/
def cut (current : Option Field) : Text → List Field × Option Field
  | [] => ([], current)
  | c :: rest =>
    if isBlankHere c then
      let (fs, last) := cut none rest
      (current.toList ++ fs, last)
    else cut (some (current.getD [] ++ [(c, true)])) rest
where
  /-- The blanks at which fields are cut. -/
  isBlankHere (c : Code) : Bool := c == 0x20 || c == 0x09 || c == Text.newline

/-- The fields of fragments behind an open field. -/
def fieldsFrom (current : Option Field) : List Fragment → List Field
  | [] => current.toList
  | .solid t isBare :: rest =>
    fieldsFrom (some (current.getD [] ++ Field.ofText t isBare)) rest
  | .loose t :: rest =>
    let (fs, last) := cut current t
    fs ++ fieldsFrom last rest
  | .several [] :: rest => fieldsFrom current rest
  | .several (t :: ts) :: rest =>
    let all := (current.getD [] ++ Field.ofText t false) :: ts.map fun t => Field.ofText t false
    all.dropLast ++ fieldsFrom all.getLast? rest

/-- The fields of an expanded word. -/
def fields (fragments : List Fragment) : List Field := fieldsFrom none fragments

namespace Field

/-- Whether a field holds a pattern. -/
def isPattern (f : Field) : Bool := f.any fun (c, isBare) => isBare && (c == 0x2A || c == 0x3F || c == 0x5B)

/-- Whether a name matches a pattern. -/
def isMatch : Field → Text → Bool
  | [], t => t.isEmpty
  | (c, isBare) :: p, t =>
    if isBare && c == 0x2A then
      isMatch p t ||
        match t with
        | [] => false
        | _ :: rest => isMatch ((c, isBare) :: p) rest
    else
      match t with
      | [] => false
      | d :: rest =>
        if isBare && c == 0x3F then isMatch p rest
        else if isBare && c == 0x5B then
          let body := (p.takeWhile fun x => x.1 != 0x5D).map (·.1)
          if body.length < p.length then
            let (negated, set) := match body with
              | 0x21 :: set => (true, set)
              | set => (false, set)
            LinePattern.members set d != negated && isMatch (p.drop (body.length + 1)) rest
          else d == c && isMatch p rest
        else d == c && isMatch p rest
termination_by p t => p.length + t.length
decreasing_by all_goals simp only [List.length_cons, List.length_drop]; omega

/-- The parts of a field between slashes. -/
def parts (f : Field) : List Field :=
  f.foldr (fun x parts =>
    if x.1 == Path.slash then [] :: parts
    else match parts with
      | p :: ps => (x :: p) :: ps
      | [] => [[x]]) [[]]

/-- The ways on from some places, each with the text that leads there. -/
def step (t : Tree) (p : Field) (from_ : List (Text × Place)) : List (Text × Place) :=
  if p.isPattern then
    from_.flatMap fun (lead, place) =>
      let names := ((t.top.find? place).map (·.entries)).getD [] |>.map (·.1)
      let isHidden (n : Text) := n.head? == some 0x2E && p.head?.map (·.1) != some 0x2E
      ((names.filter fun n => !isHidden n && p.isMatch n).mergeSort fun a b => !Text.before b a).map
        fun n => (lead ++ n, place ++ [n])
  else
    from_.filterMap fun (lead, place) =>
      let name := p.toText
      if name.isEmpty || name == [0x2E] then some (lead ++ name, place)
      else if ((t.top.find? (place ++ [name])).isSome) then some (lead ++ name, place ++ [name])
      else none

/-- The ways along the parts of a field. -/
def walk (t : Tree) : List Field → List (Text × Place) → List (Text × Place)
  | [], ways => ways
  | [p], ways => step t p ways
  | p :: ps, ways => walk t ps ((step t p ways).map fun (lead, place) => (lead ++ [Path.slash], place))

/-- The texts that a field stands for, in a directory of a tree: the paths that match its pattern,
or itself if there are none. -/
def paths (f : Field) (t : Tree) (dir : Place) : List Text :=
  if f.isPattern && (f.head?.map (·.1)) != some Path.slash then
    match walk t f.parts [([], dir)] with
    | [] => [f.toText]
    | ways => ways.map (·.1)
  else [f.toText]

end Field

end Mend.Shell
