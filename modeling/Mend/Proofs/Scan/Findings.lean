import Mend.Scan.Findings
import Mend.Proofs.Act
import Mend.Proofs.Json.Reading

/-!
# Findings of a model, one by one

What becomes of each finding that a model reports. A finding that says what is needed makes an issue;
most others are left out alone. But some make the scan itself break off: those that are no objects,
that give an infinite number as a line, or that give something else than a text as the name of a
category or a severity.

## Main definitions

* `StartsAt` — the line for which a finding takes a key.
* `Reports` — the issue that a finding makes.
* `Breaks` — findings on which a scan breaks off.
* `Kept` — the issues of some findings, where those that make none are left out.

## Main statements

* `takeFindings_contained`, `takeFindings_broken` — what becomes of the findings for a file.
-/

namespace Mend.Scan

variable {σ α : Type}

/-! ## What a finding says -/

/-- What a finding says about its first line. -/
def lineIn (v : Value) : Value := v.fieldOr "line_start" (.nat 0)

/-- What a finding says about its last line: the same as about its first one if it says nothing. -/
def lastLineIn (v : Value) (first : Int) : Value := (v.fieldOr "line_end" .null).givenOr (.int first)

/-- Infinite numbers. -/
def IsInfinite (v : Value) : Prop := ∃ x : Float, v = .num (.real x) ∧ x.isNaN = false ∧ x.isInf = true

/-- Values that are given in place of a name, but are no texts. -/
def IsNoName (v : Value) : Prop := v.isGiven = true ∧ ¬v.IsText

/-- What a name stands for; one that is missing or unknown stands for `other`. -/
inductive StandsForName (read : Value → Except Fault α) (other : α) (v : Value) : α → Prop
  | known {a : α} (given : v.isGiven = true) (h : read v = .ok a) : StandsForName read other v a
  | missing (h : v.isGiven = false) : StandsForName read other v other
  | unknown {what name : Text} (given : v.isGiven = true) (h : read v = .error (.notOneOf what name)) :
      StandsForName read other v other

/-- The line for which a finding takes a key: the one that it gives as its first, if that can be
written. -/
structure StartsAt (v : Value) (n : Int) : Prop where
  line : (lineIn v).StandsFor n
  fits : Numeral.fits n = true

/-- A finding makes an issue in a file. Nothing is said about the key of the issue. -/
structure Reports (path : Text) (v : Value) (i : Issue) : Prop where
  object : v.IsObject
  rule : i.rule = (v.fieldOr "rule" .null).givenOr (.str "ai:deep-scan")
  category : StandsForName Category.read .codeSmell (v.fieldOr "issue_type" .null) i.category
  severity : StandsForName Severity.read .major (v.fieldOr "severity" .null) i.severity
  message : i.message = v.fieldOr "message" (.text [])
  filePath : i.filePath = .text path
  lineStart : StartsAt v i.lineStart
  lineEnd : (lastLineIn v i.lineStart).StandsFor i.lineEnd
  effort : i.effort = Effort.defaultMinutes
  tags : i.tags = [.str "deep-scan"]
  component : i.component = .null

/-- Findings on which a scan breaks off. What comes behind a first line that is no number, or one too
long to be written, is not looked at. -/
inductive Breaks (v : Value) : Prop
  | noObject (h : ¬v.IsObject)
  | firstLine (h : IsInfinite (lineIn v))
  | category {n : Int} (line : StartsAt v n) (h : IsNoName (v.fieldOr "issue_type" .null))
  | severity {n : Int} (line : StartsAt v n) (h : IsNoName (v.fieldOr "severity" .null))
  | lastLine {n : Int} (line : StartsAt v n) (h : IsInfinite (lastLineIn v n))

/-- A number in place of the name of a severity breaks the scan off. -/
example : Breaks (.record [("line_start", .nat 1), ("severity", .nat 5)]) := by
  refine .severity ⟨.whole 1, Numeral.fits_of_lt_million (n := 1) (by decide)⟩ ⟨rfl, ?_⟩
  rintro ⟨t, ht⟩
  cases ht

/-- The issues of some findings in a file, in order: each finding makes its issue, or it is left out
because it makes none. -/
inductive Kept (path : Text) : List Value → List Issue → Prop
  | nil : Kept path [] []
  | keep {v : Value} {i : Issue} {vs : List Value} {is : List Issue} (h : Reports path v i)
      (rest : Kept path vs is) : Kept path (v :: vs) (i :: is)
  | drop {v : Value} {vs : List Value} {is : List Issue} (h : ∀ i, ¬Reports path v i)
      (rest : Kept path vs is) : Kept path (v :: vs) is

/-- The faults with which a scan breaks off on a finding. -/
inductive IsBreak : Fault → Prop
  | lacks (kind operation : Text) : IsBreak (.lacks kind operation)
  | infinite : IsBreak .infiniteNumber

/-! ## Reading the parts -/

/-- How a number is read: it stands for one, it is malformed, or it is infinite. -/
theorem asInt_cases (v : Value) :
    (∃ n, v.asInt = .ok n ∧ v.StandsFor n) ∨
    (∃ e, v.asInt = .error e ∧ e.isMalformedValue = true ∧ (∀ n, ¬v.StandsFor n) ∧ ¬IsInfinite v) ∨
    (v.asInt = .error .infiniteNumber ∧ IsInfinite v) := by
  cases h : v.asInt with
  | ok n => exact .inl ⟨n, rfl, Value.standsFor_of_asInt h⟩
  | error e =>
      have hnone := Value.not_standsFor_of_asInt h
      have hother {u : Value} (hu : ∀ x : Float, u ≠ .num (.real x)) : ¬IsInfinite u :=
        fun ⟨x, hx, _⟩ => hu x hx
      cases Value.hasNoInt_of_asInt h with
      | infinite hdefined hinfinite => exact .inr (.inr ⟨rfl, _, rfl, hdefined, hinfinite⟩)
      | undefined hundefined =>
          refine .inr (.inl ⟨_, rfl, rfl, hnone, ?_⟩)
          rintro ⟨x, hx, hdefined, -⟩
          cases hx
          rw [hdefined] at hundefined
          cases hundefined
      | _ => exact .inr (.inl ⟨_, rfl, rfl, hnone, hother nofun⟩)

theorem StartsAt.unique {v : Value} {m n : Int} (hm : StartsAt v m) (hn : StartsAt v n) : m = n :=
  hm.line.unique hn.line

theorem not_standsFor_of_isInfinite {v : Value} (h : IsInfinite v) (n : Int) : ¬v.StandsFor n := by
  obtain ⟨x, rfl, -, hinfinite⟩ := h
  rintro (_ | _ | ⟨-, hfinite⟩)
  rw [hfinite] at hinfinite
  cases hinfinite

/-- How the first line of a finding is read: there is one, it is malformed, or it is infinite. -/
theorem firstLine_cases {v : Value} (hv : v.IsObject) :
    (∃ n, firstLine v = .ok n ∧ StartsAt v n) ∨
    (∃ e, firstLine v = .error e ∧ e.isMalformedValue = true ∧ (∀ n, ¬StartsAt v n) ∧
      ¬IsInfinite (lineIn v)) ∨
    (firstLine v = .error .infiniteNumber ∧ IsInfinite (lineIn v)) := by
  rw [firstLine, Value.getD_of_isObject hv, ok_bind, ← lineIn]
  rcases asInt_cases (lineIn v) with
    ⟨n, hread, hline⟩ | ⟨e, hread, hmalformed, hnone, hfinite⟩ | ⟨hread, hinfinite⟩
  · rw [hread, ok_bind]
    by_cases hfits : Numeral.fits n = true
    · exact .inl ⟨n, if_pos hfits, hline, hfits⟩
    · refine .inr (.inl ⟨_, if_neg hfits, rfl, fun m hm => hfits ?_, fun hinfinite => ?_⟩)
      · rw [hline.unique hm.line]
        exact hm.fits
      · exact not_standsFor_of_isInfinite hinfinite n hline
  · exact .inr (.inl ⟨e, by rw [hread]; rfl, hmalformed, fun n hn => hnone n hn.line, hfinite⟩)
  · exact .inr (.inr ⟨by rw [hread]; rfl, hinfinite⟩)

theorem firstLine_of_startsAt {v : Value} {n : Int} (hv : v.IsObject) (h : StartsAt v n) :
    firstLine v = .ok n := by
  obtain ⟨m, hread, hm⟩ | ⟨e, -, -, hnone, -⟩ | ⟨-, hinfinite⟩ := firstLine_cases hv
  · rw [hread, hm.unique h]
  · exact absurd h (hnone n)
  · exact absurd h.line (not_standsFor_of_isInfinite hinfinite n)

/-- How a name is read: it stands for something, or it is no name. -/
theorem readOr_cases {read : Value → Except Fault α} (hread : ReadsNames read) (v : Value)
    (other : α) :
    (∃ a, readOr read v other = .ok a ∧ StandsForName read other v a ∧ ¬IsNoName v) ∨
    ∃ kind operation, readOr read v other = .error (.lacks kind operation) ∧ IsNoName v := by
  unfold readOr
  by_cases hgiven : v.isGiven = true
  · rw [if_pos hgiven]
    by_cases htext : v.IsText
    · have hname : ¬IsNoName v := fun h => h.2 htext
      obtain ⟨t, rfl⟩ := htext
      rcases hread.text t with ⟨a, ha⟩ | ⟨what, name, hunknown⟩
      · exact .inl ⟨a, by rw [ha], .known hgiven ha, hname⟩
      · exact .inl ⟨other, by rw [hunknown], .unknown hgiven hunknown, hname⟩
    · obtain ⟨kind, operation, hfault⟩ := hread.other v htext
      exact .inr ⟨kind, operation, by rw [hfault], hgiven, htext⟩
  · rw [if_neg hgiven]
    exact .inl ⟨other, rfl, .missing (Bool.eq_false_iff.2 hgiven), fun h => hgiven h.1⟩

/-- Only a text stands for a name. -/
theorem StandsForName.not_isNoName {read : Value → Except Fault α} (hread : ReadsNames read)
    {other a : α} {v : Value} (h : StandsForName read other v a) : ¬IsNoName v := by
  rintro ⟨hgiven, hnot⟩
  cases h with
  | known _ h => exact hnot (hread.isText h)
  | missing h => rw [h] at hgiven; cases hgiven
  | unknown _ h =>
      obtain ⟨kind, operation, hfault⟩ := hread.other v hnot
      rw [hfault] at h
      cases h

/-- A finding that makes an issue does not break the scan off. -/
theorem Reports.not_breaks {path : Text} {v : Value} {i : Issue} (h : Reports path v i) :
    ¬Breaks v := by
  rintro (hobject | hline | ⟨-, hcategory⟩ | ⟨-, hseverity⟩ | ⟨hline, hlast⟩)
  · exact hobject h.object
  · exact not_standsFor_of_isInfinite hline _ h.lineStart.line
  · exact h.category.not_isNoName Category.readsNames hcategory
  · exact h.severity.not_isNoName Severity.readsNames hseverity
  · obtain rfl := hline.unique h.lineStart
    exact not_standsFor_of_isInfinite hlast _ h.lineEnd

/-! ## Taking findings -/

/-- What becomes of a finding: it makes an issue, it is malformed, or the scan breaks off on it. -/
inductive Taken (path : Text) (v : Value) : Except Fault Issue → Prop
  | made {i : Issue} (h : Reports path v i) : Taken path v (.ok i)
  | malformed {e : Fault} (h : e.isMalformedValue = true) (none : ∀ i, ¬Reports path v i)
      (free : ¬Breaks v) : Taken path v (.error e)
  | broken {e : Fault} (h : IsBreak e) (breaks : Breaks v) : Taken path v (.error e)

/-- What is made of a finding when its lines are read: no line may be negative. -/
theorem taken_make {path key : Text} {v : Value} {n m : Int} {c : Category} {s : Severity}
    (hv : v.IsObject) (hline : StartsAt v n) (hlast : (lastLineIn v n).StandsFor m)
    (hc : StandsForName Category.read .codeSmell (v.fieldOr "issue_type" .null) c)
    (hs : StandsForName Severity.read .major (v.fieldOr "severity" .null) s)
    (hfree : ¬Breaks v) :
    Taken path v (Issue.make {
      key := .text key, rule := (v.fieldOr "rule" .null).givenOr (.str "ai:deep-scan"), category := c
      severity := s, message := v.fieldOr "message" (.text []), filePath := .text path
      lineStart := n, lineEnd := m, tags := [.str "deep-scan"] }) := by
  unfold Issue.make
  have heffort : ¬(Effort.defaultMinutes : Int) < 0 := by decide
  dsimp only
  rw [if_neg heffort]
  split
  · rename_i hnegative
    refine .malformed rfl (fun i hi => ?_) hfree
    obtain rfl := hline.unique hi.lineStart
    obtain rfl := hlast.unique hi.lineEnd
    simp only [Bool.or_eq_true, decide_eq_true_iff] at hnegative
    omega
  · rename_i hnonneg
    simp only [Bool.or_eq_true, decide_eq_true_iff, not_or, Int.not_lt] at hnonneg
    obtain ⟨n, rfl⟩ := Int.eq_ofNat_of_zero_le hnonneg.1
    obtain ⟨m, rfl⟩ := Int.eq_ofNat_of_zero_le hnonneg.2
    exact .made ⟨hv, rfl, hc, hs, rfl, rfl, hline, hlast, rfl, rfl, rfl⟩

/-- What becomes of a finding whose first line is read. -/
theorem taken_findingIssue {path key : Text} {v : Value} {n : Int} (hv : v.IsObject)
    (hline : StartsAt v n) : Taken path v (findingIssue path key n v) := by
  simp only [findingIssue, Value.getD_of_isObject hv, ok_bind]
  rcases readOr_cases Category.readsNames (v.fieldOr "issue_type" .null) .codeSmell with
    ⟨c, hread, hc, hname⟩ | ⟨kind, operation, hread, hno⟩
  · rw [hread, ok_bind]
    rcases readOr_cases Severity.readsNames (v.fieldOr "severity" .null) .major with
      ⟨s, hread, hs, hname'⟩ | ⟨kind, operation, hread, hno⟩
    · rw [hread, ok_bind]
      have hfree (hlast : ¬IsInfinite (lastLineIn v n)) : ¬Breaks v := by
        rintro (hobject | hfirst | ⟨-, hno⟩ | ⟨-, hno⟩ | ⟨hline', hinfinite⟩)
        · exact hobject hv
        · exact not_standsFor_of_isInfinite hfirst _ hline.line
        · exact hname hno
        · exact hname' hno
        · exact hlast (hline.unique hline' ▸ hinfinite)
      rcases asInt_cases (lastLineIn v n) with
        ⟨m, hread, hlast⟩ | ⟨e, hread, hmalformed, hnone, hfinite⟩ | ⟨hread, hinfinite⟩
      · rw [← lastLineIn, hread, ok_bind]
        exact taken_make hv hline hlast hc hs
          (hfree fun hinfinite => not_standsFor_of_isInfinite hinfinite _ hlast)
      · rw [← lastLineIn, hread]
        refine .malformed hmalformed (fun i hi => ?_) (hfree hfinite)
        obtain rfl := hline.unique hi.lineStart
        exact hnone _ hi.lineEnd
      · rw [← lastLineIn, hread]
        exact .broken .infinite (.lastLine hline hinfinite)
    · rw [hread]
      exact .broken (.lacks ..) (.severity hline hno)
  · rw [hread]
    exact .broken (.lacks ..) (.category hline hno)

theorem taken_takeFinding (path : Text) (keys : KeyFactory) (v : Value) :
    Taken path v (takeFinding path keys v).1 := by
  unfold takeFinding
  by_cases hv : v.IsObject
  · rcases firstLine_cases hv with
      ⟨n, hread, hline⟩ | ⟨e, hread, hmalformed, hnone, hfinite⟩ | ⟨hread, hinfinite⟩
    · rw [hread]
      exact taken_findingIssue hv hline
    · rw [hread]
      refine .malformed hmalformed (fun i hi => hnone _ hi.lineStart) ?_
      rintro (hobject | hfirst | ⟨hline, -⟩ | ⟨hline, -⟩ | ⟨hline, -⟩)
      · exact hobject hv
      · exact hfinite hfirst
      all_goals exact hnone _ hline
    · rw [hread]
      exact .broken .infinite (.firstLine hinfinite)
  · cases v with
    | obj fields => exact absurd ⟨fields, rfl⟩ hv
    | _ => exact .broken (.lacks ..) (.noObject hv)

theorem not_isMalformedValue_of_isBreak {e : Fault} (h : IsBreak e) : e.isMalformedValue = false := by
  cases h <;> rfl

/-- If the scan breaks off on none of the findings, each makes its issue or is left out alone. -/
theorem takeFindings_contained {path : Text} {vs : List Value} (h : ∀ v ∈ vs, ¬Breaks v)
    (keys : KeyFactory) (w : World σ) :
    ∃ issues keys' w', (takeFindings path keys vs).run w = (.ok (issues, keys'), w') ∧
      Kept path vs issues := by
  induction vs generalizing keys w with
  | nil => exact ⟨[], keys, w, rfl, .nil⟩
  | cons v rest ih =>
      have hrest : ∀ u ∈ rest, ¬Breaks u := fun u hu => h u (List.mem_cons_of_mem v hu)
      have htaken := taken_takeFinding path keys v
      rw [takeFindings]
      rcases hfinding : takeFinding path keys v with ⟨r, keys₁⟩
      rw [hfinding] at htaken
      cases htaken with
      | made hreports =>
          obtain ⟨issues, keys', w', hrun, hkept⟩ := ih hrest keys₁ w
          exact ⟨_, keys', w', by dsimp only; rw [Act.run_bind_ok hrun]; rfl, .keep hreports hkept⟩
      | malformed hmalformed hnone _ =>
          obtain ⟨issues, keys', w', hrun, hkept⟩ := ih hrest keys₁ _
          refine ⟨issues, keys', w', ?_, .drop hnone hkept⟩
          dsimp only
          rw [if_pos hmalformed, Act.run_bind_ok (World.run_say ..)]
          exact hrun
      | broken _ hbreaks => exact absurd hbreaks (h v (List.mem_cons_self ..))

/-- If the scan breaks off on one of the findings, nothing is kept. -/
theorem takeFindings_broken {path : Text} {vs : List Value} (h : ∃ v ∈ vs, Breaks v)
    (keys : KeyFactory) (w : World σ) :
    ∃ e w', (takeFindings path keys vs).run w = (.error e, w') ∧ IsBreak e := by
  induction vs generalizing keys w with
  | nil => obtain ⟨v, hv, -⟩ := h; cases hv
  | cons v rest ih =>
      have htaken := taken_takeFinding path keys v
      rw [takeFindings]
      rcases hfinding : takeFinding path keys v with ⟨r, keys₁⟩
      rw [hfinding] at htaken
      have hbehind (hfree : ¬Breaks v) : ∃ u ∈ rest, Breaks u := by
        obtain ⟨u, hu, hbreaks⟩ := h
        rcases List.mem_cons.1 hu with rfl | hu
        · exact absurd hbreaks hfree
        · exact ⟨u, hu, hbreaks⟩
      cases htaken with
      | made hreports =>
          obtain ⟨e, w', hrun, hbreak⟩ := ih (hbehind hreports.not_breaks) keys₁ w
          exact ⟨e, w', by dsimp only; rw [Act.run_bind_error hrun], hbreak⟩
      | malformed hmalformed _ hfree =>
          obtain ⟨e, w', hrun, hbreak⟩ := ih (hbehind hfree) keys₁ _
          refine ⟨e, w', ?_, hbreak⟩
          dsimp only
          rw [if_pos hmalformed, Act.run_bind_ok (World.run_say ..)]
          exact hrun
      | @broken e hbreak _ =>
          refine ⟨e, w, ?_, hbreak⟩
          dsimp only
          rw [if_neg (by simp [not_isMalformedValue_of_isBreak hbreak])]
          rfl

end Mend.Scan
