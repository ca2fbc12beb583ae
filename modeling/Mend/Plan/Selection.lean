import Mend.Plan.Basic

/-!
# Selections

The issues that are picked out of a plan to be fixed: all that lie in a file, or those with given
keys. A requested key that cannot be fixed is reported as unlocatable or as unknown.

## Main definitions

* `Selection` — what is picked, by file.
* `Plan.find` — picking by key.
-/

namespace Mend

/-- Issues picked out of a plan. -/
structure Selection where
  groups : List FileGroup
  /-- The requested keys of issues that lie in no file. -/
  unlocatable : List Value := []
  /-- The requested keys that no issue has, in ascending order. -/
  unknown : List Value := []

/-- How many issues are picked. -/
def Selection.issueCount (s : Selection) : Nat := countOver (·.issues.length) s.groups

namespace Plan

/-- Whether a value is one of the wanted keys. -/
def isWanted (wanted : List Value) (key : Value) : Bool := wanted.any fun w => w.same key

/-- The wanted issues of a list. -/
def chosen (wanted : List Value) (issues : List Issue) : List Issue :=
  issues.filter fun i => isWanted wanted i.key

/-- The wanted keys that no issue has. -/
def missing (wanted : List Value) (issues : List Issue) : List Value :=
  wanted.filter fun w => !issues.any fun i => w.same i.key

/-- The issues with one of the given keys, by file; without keys, every issue that lies in a file. -/
def find (p : Plan) (keys : Option (List Value)) : Except Fault Selection :=
  match keys with
  | none => .ok { groups := p.groups }
  | some keys => do
    let wanted ← (Value.list keys).members
    match p.all.find? fun i => !i.key.isAtomic with
    | some i => .error (.wrongKind (.cat ["unhashable type: '", i.key.kind, "'"]))
    | none =>
      let groups := (p.groups.map fun g => { g with issues := chosen wanted g.issues }).filter
        fun g => !g.issues.isEmpty
      let unknown ← Value.ascending (missing wanted p.all)
      return { groups, unlocatable := (chosen wanted p.unlocatable).map (·.key), unknown }

end Plan

end Mend
