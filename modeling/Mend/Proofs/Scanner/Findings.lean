import Mend.Scanner.Fetch
import Mend.Proofs.Act
import Mend.Proofs.Issue.Documents

/-!
# Well-formed findings

What a scanner knows about a finding, and the documents in which it says so. A document may hold more
fields than those that are read, may give the lines as a range or as a single line, and may leave out
lines, effort and tags. Every finding that is described makes the issue with the same contents.

## Main definitions

* `Finding`, `Finding.issue` — what a scanner knows, and the issue it makes.
* `Finding.Describes` — documents of a finding.

## Main statements

* `run_issuesOf` — the documents of findings make their issues, in order.
-/

namespace Mend.Scanner

variable {σ : Type}

/-- What a scanner knows about a finding. -/
structure Finding where
  key : Text
  rule : Text
  category : Category
  severity : Severity
  message : Text
  /-- The name that the scanner has for the place of the finding. -/
  component : Text
  /-- The path of the file that the component is, if it is one. -/
  path : Option Text
  /-- The first and the last line, if they are known. -/
  lines : Option (Nat × Nat)
  /-- The minutes that a repair takes. -/
  effort : Nat
  tags : List Text
deriving DecidableEq

namespace Finding

/-- The issue that a finding makes. -/
def issue (f : Finding) : Issue where
  key := .text f.key
  rule := .text f.rule
  category := f.category
  severity := f.severity
  message := .text f.message
  filePath := .text (f.path.getD [])
  lineStart := (f.lines.map (·.1)).getD 0
  lineEnd := (f.lines.map (·.2)).getD 0
  effort := f.effort
  tags := Value.distinct (f.tags.map .text)
  component := (Value.text f.component).givenOr .null

end Finding

/-- An object in which a field is missing or null. -/
def Omits (v : Value) (name : Text) : Prop :=
  (∃ fields, v = .obj fields) ∧ (v.field? name = none ∨ v.field? name = some .null)

theorem Omits.getD {v : Value} {name : Text} (h : Omits v name) : v.getD name .null = .ok .null := by
  obtain ⟨⟨fields, rfl⟩, hnone | hnull⟩ := h
  · exact Value.getD_obj_of_none hnone .null
  · exact Value.getD_of_field? hnull .null

/-- What the fields of a document say about the lines of a finding. Lines are counted from one. -/
inductive DescribesLines (v : Value) : Option (Nat × Nat) → Prop
  | range {r : Value} {first last : Nat} (range : v.field? "textRange" = some r)
      (start : r.field? "startLine" = some (.nat first)) (stop : r.field? "endLine" = some (.nat last))
      (pos : 1 ≤ first) (le : first ≤ last) : DescribesLines v (some (first, last))
  | line {n : Nat} (range : Omits v "textRange") (line : v.field? "line" = some (.nat n))
      (pos : 1 ≤ n) : DescribesLines v (some (n, n))
  | unknown (range : Omits v "textRange") (line : Omits v "line") : DescribesLines v none

/-- What the fields of a document say about the effort of a finding. -/
inductive DescribesEffort (v : Value) : Nat → Prop
  | effort {t : Text} {n : Nat} (effort : v.field? "effort" = some (.text t)) (filled : t ≠ [])
      (minutes : Effort.minutes t = .ok n) : DescribesEffort v n
  | debt {t : Text} {n : Nat} (effort : Omits v "effort") (debt : v.field? "debt" = some (.text t))
      (filled : t ≠ []) (minutes : Effort.minutes t = .ok n) : DescribesEffort v n
  | unknown (effort : Omits v "effort") (debt : Omits v "debt") :
      DescribesEffort v Effort.defaultMinutes

/-- The documents that describe a finding; they may have other fields besides. -/
structure Finding.Describes (v : Value) (f : Finding) : Prop where
  key : v.field? "key" = some (.text f.key)
  rule : v.field? "rule" = some (.text f.rule)
  category : v.field? "type" = some (.text f.category.name)
  severity : v.field? "severity" = some (.text f.severity.name)
  message : v.field? "message" = some (.text f.message)
  component : v.field? "component" = some (.text f.component)
  lines : DescribesLines v f.lines
  effort : DescribesEffort v f.effort
  tags : v.field? "tags" = some (.texts f.tags) ∨ v.field? "tags" = none ∧ f.tags = []

/-! ## Reading the parts -/

theorem isGiven_nat {n : Nat} (h : 1 ≤ n) : (Value.nat n).isGiven = true := by
  have hne : ((n : Int) == 0) = false := by
    rw [beq_eq_false_iff_ne]
    omega
  simp only [Value.nat, Value.isGiven, Number.isZero, hne, Bool.not_false]

theorem givenOr_of_isGiven {v other : Value} (h : v.isGiven = true) : v.givenOr other = v :=
  if_pos h

theorem isGiven_of_field? {v w : Value} {name : Text} (h : v.field? name = some w) :
    v.isGiven = true := by
  cases v with
  | obj fields =>
      cases fields with
      | nil => cases h
      | cons f fields => rfl
  | _ => cases h

theorem linesOf_of_describes {v : Value} {lines : Option (Nat × Nat)} (h : DescribesLines v lines)
    (hobj : ∃ fields, v = .obj fields) :
    linesOf v = .ok (((lines.map (·.1)).getD 0 : Nat), ((lines.map (·.2)).getD 0 : Nat)) := by
  cases h with
  | @range r first last hrange hstart hstop hpos hle =>
      -- The field for a single line does not matter, whatever it holds.
      obtain ⟨other, hother⟩ : ∃ other, v.getD "line" .null = .ok other := by
        obtain ⟨fields, rfl⟩ := hobj
        exact ⟨_, rfl⟩
      simp only [linesOf, Value.getD_of_field? hrange, ok_bind,
        givenOr_of_isGiven (isGiven_of_field? hstart), Value.getD_of_field? hstart, hother,
        givenOr_of_isGiven (isGiven_nat hpos), Value.getD_of_field? hstop,
        givenOr_of_isGiven (isGiven_nat (Nat.le_trans hpos hle))]
      rfl
  | line hrange hline hpos =>
      have hstart : (Value.obj []).getD "startLine" .null = .ok .null := rfl
      have hstop : (Value.obj []).getD "endLine" .null = .ok .null := rfl
      have hnull (other : Value) : Value.null.givenOr other = other := rfl
      simp only [linesOf, hrange.getD, ok_bind, hnull, hstart, Value.getD_of_field? hline,
        givenOr_of_isGiven (isGiven_nat hpos), hstop]
      rfl
  | unknown hrange hline =>
      have hstart : (Value.obj []).getD "startLine" .null = .ok .null := rfl
      have hstop : (Value.obj []).getD "endLine" .null = .ok .null := rfl
      have hnull (other : Value) : Value.null.givenOr other = other := rfl
      simp only [linesOf, hrange.getD, ok_bind, hnull, hstart, hline.getD, hstop]
      rfl

theorem effortOf_of_describes {v : Value} {n : Nat} (h : DescribesEffort v n)
    (hobj : ∃ fields, v = .obj fields) : effortOf v = .ok (n : Int) := by
  have hgiven {t : Text} (ht : t ≠ []) : (Value.text t).isGiven = true := by
    simpa [Value.isGiven] using ht
  have hread {t : Text} (ht : t ≠ []) (hn : Effort.minutes t = .ok n) :
      Effort.read (.text t) = .ok (n : Int) := by
    rw [Effort.read, if_pos (hgiven ht)]
    exact hn
  have hnull (other : Value) : Value.null.givenOr other = other := rfl
  cases h with
  | effort heffort hfilled hminutes =>
      obtain ⟨other, hother⟩ : ∃ other, v.getD "debt" .null = .ok other := by
        obtain ⟨fields, rfl⟩ := hobj
        exact ⟨_, rfl⟩
      simp only [effortOf, Value.getD_of_field? heffort, ok_bind, hother,
        givenOr_of_isGiven (hgiven hfilled), hread hfilled hminutes]
  | debt heffort hdebt hfilled hminutes =>
      simp only [effortOf, heffort.getD, ok_bind, Value.getD_of_field? hdebt, hnull,
        hread hfilled hminutes]
  | unknown heffort hdebt =>
      simp only [effortOf, heffort.getD, ok_bind, hdebt.getD, hnull]
      rfl

theorem kindOf_of_describes {v : Value} {f : Finding} (h : f.Describes v) :
    kindOf v = .ok (some (f.category, f.severity)) := by
  have hcategory : Category.read (.text f.category.name) = .ok f.category :=
    Category.parse_name f.category
  have hseverity : Severity.read (.text f.severity.name) = .ok f.severity :=
    Severity.parse_name f.severity
  simp only [kindOf, Value.getD_of_field? h.category, Value.getD_of_field? h.severity, ok_bind,
    hcategory, hseverity]
  rfl

/-! ## Making issues -/

/-- The first and the last line of a finding, where zero stands for unknown. -/
def Finding.span (f : Finding) : Int × Int := (f.issue.lineStart, f.issue.lineEnd)

/-- No number of a finding is negative, so it makes an issue. -/
theorem issueWith_of_describes {v : Value} {f : Finding} (h : f.Describes v)
    (hobj : ∃ fields, v = .obj fields) :
    issueWith v (.text f.key) (.text f.component) (.text (f.path.getD [])) f.category f.severity
      f.span = .ok f.issue := by
  have htags : v.getD "tags" (.list []) = .ok (.texts f.tags) := by
    rcases h.tags with hgiven | ⟨hnone, hempty⟩
    · exact Value.getD_of_field? hgiven _
    · obtain ⟨fields, rfl⟩ := hobj
      rw [Value.getD_obj_of_none hnone, hempty]
      rfl
  have hmembers : (Value.texts f.tags).members = .ok (Value.distinct (f.tags.map .text)) :=
    Value.members_list fun t ht => by
      obtain ⟨u, -, rfl⟩ := List.mem_map.1 ht
      exact ⟨u, rfl⟩
  simp only [issueWith, Value.getD_of_field? h.rule, Value.getD_of_field? h.message,
    effortOf_of_describes h.effort hobj, htags, hmembers, ok_bind]
  exact Issue.make_of_nat f.issue

/-- A finding that is described makes its issue. -/
theorem run_issueOf {components : List (Value × Value)} {v : Value} {f : Finding}
    (h : f.Describes v) (hpath : pathOf components (.text f.component) = .ok (.text (f.path.getD [])))
    (w : World σ) : ∃ w', (issueOf components v).run w = (.ok (some f.issue), w') := by
  have hobj : ∃ fields, v = .obj fields := by
    have hkey := h.key
    cases v with
    | obj fields => exact ⟨fields, rfl⟩
    | _ => cases hkey
  have hlines : linesOf v = .ok f.span := linesOf_of_describes h.lines hobj
  simp only [issueOf, Value.getD_of_field? h.key, kindOf_of_describes h, hlines,
    Value.getD_of_field? h.component, hpath, Act.ofExcept_ok_bind,
    issueWith_of_describes h hobj]
  by_cases hgiven : (Value.text (f.path.getD [])).isGiven = true
  · refine ⟨w, ?_⟩
    rw [if_neg (by simp [hgiven])]
    rfl
  · rw [if_pos (by simpa using hgiven)]
    exact ⟨_, rfl⟩

/-- The documents of findings make the issues of the findings, in order. -/
theorem run_issuesOf {components : List (Value × Value)} {vs : List Value} {fs : List Finding}
    (h : List.Forall₂ (fun v (f : Finding) => f.Describes v) vs fs)
    (hpaths : ∀ f ∈ fs, pathOf components (.text f.component) = .ok (.text (f.path.getD [])))
    (w : World σ) : ∃ w', (issuesOf components vs).run w = (.ok (fs.map (·.issue)), w') := by
  induction h generalizing w with
  | nil => exact ⟨w, rfl⟩
  | @cons v f vs fs hf _ ih =>
      obtain ⟨w₁, hissue⟩ := run_issueOf hf (hpaths f (List.mem_cons_self ..)) w
      obtain ⟨w₂, hrest⟩ := ih (fun g hg => hpaths g (List.mem_cons_of_mem f hg)) w₁
      exact ⟨w₂, by rw [issuesOf, Act.run_bind_ok hissue, Act.run_bind_ok hrest]; rfl⟩

end Mend.Scanner
