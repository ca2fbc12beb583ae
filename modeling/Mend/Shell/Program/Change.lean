import Mend.Shell.Call

/-!
# Programs that change the tree

`rm`, `mkdir`, `touch`, `cp` and `mv`.
-/

namespace Mend.Shell.Program

/-- Removes entries. -/
def rm : Program := fun c =>
  let (flags, operands) := c.options
  let force := flags.elem 0x66
  let deep := flags.elem 0x72 || flags.elem 0x52
  c.eachOperand (fun c t =>
    match c.place t, c.entry t with
    | .ok place, .ok e =>
      if e.isDir && !deep then .error ["cannot remove '", t, "': Is a directory"]
      else .ok ⟨c.tree.top.erase place⟩
    | .error p, _ | _, .error p =>
      if force then .ok c.tree else .error ["cannot remove '", t, "': ", p.reason]) operands

/-- Whether the directory of a place is there. -/
def hasHome (c : Call) (place : Place) : Bool :=
  match c.tree.top.find? place.dropLast with
  | some (.dir _) => true
  | _ => false

/-- Makes directories. -/
def mkdir : Program := fun c =>
  let (flags, operands) := c.options
  let deep := flags.elem 0x70
  c.eachOperand (fun c t =>
    let place := c.dir ++ (Path.ofText t).parts
    let refused (p : FileProblem) := .error ["cannot create directory ‘", t, "’: ", p.reason]
    match c.tree.top.find? place with
    | some (.dir _) => if deep then .ok c.tree else refused .exists
    | some (.file _) => refused .exists
    | none =>
      if deep || hasHome c place then .ok ⟨c.tree.top.put (.dir []) place⟩ else refused .missing)
    operands

/-- Makes empty files where there are none. -/
def touch : Program := fun c =>
  c.eachOperand (fun c t =>
    match c.entry t, c.place t with
    | .ok _, _ => .ok c.tree
    | .error _, .ok place =>
      if hasHome c place then .ok ⟨c.tree.top.put (.file []) place⟩
      else .error ["cannot touch '", t, "': No such file or directory"]
    | .error _, .error p => .error ["cannot touch '", t, "': ", p.reason]) c.options.2

/-- Copies or moves entries. -/
def copy (moving : Bool) : Program := fun c =>
  let (flags, operands) := c.options
  let target := operands.getLast?.getD []
  c.eachOperand (fun c t =>
    match c.place t, c.entry t, c.place target with
    | .ok source, .ok e, .ok place =>
      let place := match c.tree.top.find? place with
        | some (.dir _) => place ++ [source.getLast?.getD []]
        | _ => place
      let absent := Text.cat ["cannot ", if moving then "move '" else "create regular file '",
        if moving then .cat [t, "' to '", target] else target, "': No such file or directory"]
      if e.isDir && !moving && !(flags.elem 0x72 || flags.elem 0x52 || flags.elem 0x61) then
        .error ["-r not specified; omitting directory '", t, "'"]
      else if !hasHome c place then .error [absent]
      else
        let top := if moving then c.tree.top.erase source else c.tree.top
        .ok ⟨top.put e place⟩
    | .error p, _, _ | _, .error p, _ | _, _, .error p =>
      .error ["cannot stat '", t, "': ", p.reason]) operands.dropLast

end Mend.Shell.Program
