import Mend.Scanner.Fetch
import Mend.Proofs.Act
import Mend.Proofs.Json.Reading

/-!
# Legible answers

Which documents a scanner may send so that everything in them can be read. The documents are free in
all that is not read, and a field that is not there counts as an empty one. A finding of an unknown
category or severity is left out, so nothing more of it has to be legible; a count of something
unknown is passed over likewise.

## Main definitions

* `LegibleFinding`, `LegibleFindings` — findings that can be read.
* `LegibleComponent`, `LegibleFacet`, `LegiblePage` — answers to a search that can be read, apart from
  the findings in them.

## Main statements

* `settles_gather` — the issues of a page are found just if its findings are legible.
* `reads_pageOf` — a document is read as a page just if it is legible.
-/

namespace Mend

variable {σ α β : Type}

/-- An action that only reads: it leaves alone what the collaborators keep for themselves, and comes
to a result just on what is legible. -/
def Act.Settles (legible : Prop) (a : Act (World σ) α) : Prop :=
  ∀ w, (a.run w).2.extra = w.extra ∧ Reads legible (a.run w).1

namespace Act.Settles

variable {legible part : Prop} {a : Act (World σ) α}

theorem ofExcept {r : Except Fault α} (h : Reads legible r) :
    (Act.ofExcept r : Act (World σ) α).Settles legible :=
  fun _ => ⟨rfl, h⟩

theorem pure (h : legible) (x : α) : (pure x : Act (World σ) α).Settles legible :=
  fun _ => ⟨rfl, h⟩

theorem congr (h : a.Settles part) (heq : part ↔ legible) : a.Settles legible :=
  fun w => ⟨(h w).1, (h w).2.congr heq⟩

/-- An action in two steps, of which the first one reads a part. -/
theorem bind {f : α → Act (World σ) β} (ha : a.Settles part) (hpart : legible → part)
    (hf : ∀ x w w', a.run w = (.ok x, w') → (f x).Settles legible) : (a >>= f).Settles legible := by
  intro w
  obtain ⟨hextra, hreads⟩ := ha w
  rcases hrun : a.run w with ⟨e | x, w'⟩
  · rw [run_bind_error hrun]
    rw [hrun] at hextra hreads
    exact ⟨hextra, fun h => hreads.1 (hpart h), hreads.2⟩
  · rw [run_bind_ok hrun]
    rw [hrun] at hextra
    obtain ⟨hextra', hreads'⟩ := hf x w w' hrun w'
    exact ⟨hextra'.trans hextra, hreads'⟩

/-- A reading, and what is done with its result. -/
theorem ofExcept_bind {r : Except Fault α} {f : α → Act (World σ) β} (hr : Reads part r)
    (hpart : legible → part) (hf : ∀ x, r = .ok x → (f x).Settles legible) :
    (Act.ofExcept r >>= f).Settles legible :=
  .bind (.ofExcept hr) hpart fun x _ _ hx => hf x (Prod.mk.inj hx).1

theorem map {f : α → β} (ha : a.Settles legible) : (f <$> a).Settles legible :=
  ha.bind id fun x w _ hx => .pure ((ha w).2.of_ok (x := x) (congrArg Prod.fst hx)) (f x)

/-- A line in the log makes no difference. -/
theorem say {f : Unit → Act (World σ) α} (level : Log.Level) (parts : List Text)
    (h : (f ()).Settles legible) : (World.say level parts >>= f).Settles legible :=
  fun w => h { w with log := ⟨level, .cat parts⟩ :: w.log }

end Act.Settles

namespace Scanner

/-! ## Findings -/

/-- What a finding says about its lines: an object, empty if there is none. -/
def rangeIn (v : Value) : Value := (v.fieldOr "textRange" .null).givenOr (.obj [])

/-- What a finding says about its first line: in its range, or by itself, or nothing. -/
def firstLineIn (v : Value) : Value :=
  (((rangeIn v).fieldOr "startLine" .null).givenOr (v.fieldOr "line" .null)).givenOr (.nat 0)

/-- What a finding says about its last line: in its range, or the same as about its first line. -/
def lastLineIn (v : Value) (first : Int) : Value :=
  ((rangeIn v).fieldOr "endLine" .null).givenOr (.int first)

/-- What a finding says about the effort of a repair, under one name or the other. -/
def effortIn (v : Value) : Value := (v.fieldOr "effort" .null).givenOr (v.fieldOr "debt" .null)

/-- What makes the lines of a finding legible: they are numbers that are not negative. -/
structure LegibleLines (v : Value) : Prop where
  range : (rangeIn v).IsObject
  numbers : ∃ first last : Nat,
    (firstLineIn v).StandsFor first ∧ (lastLineIn v first).StandsFor last

/-- What makes a finding legible if its category and its severity are known. -/
structure LegibleIssue (v : Value) : Prop where
  lines : LegibleLines v
  component : (v.fieldOr "component" (.text [])).isAtomic = true
  effort : (effortIn v).isGiven = true →
    ∀ p ∈ Effort.parts (effortIn v).shown, p.amount.length ≤ Numeral.maxDigits
  tags : ∃ vs, (v.fieldOr "tags" (.list [])).elements = .ok vs ∧ ∀ t ∈ vs, t.isAtomic = true

/-- Findings that can be read. The severity matters only if the category is known, and the rest only
if both are. -/
structure LegibleFinding (v : Value) : Prop where
  object : v.IsObject
  category : (v.fieldOr "type" (.text [])).IsText
  severity : ∀ c, Category.read (v.fieldOr "type" (.text [])) = .ok c →
    (v.fieldOr "severity" (.text [])).IsText
  issue : ∀ c s, Category.read (v.fieldOr "type" (.text [])) = .ok c →
    Severity.read (v.fieldOr "severity" (.text [])) = .ok s → LegibleIssue v

/-- Collections of findings that can all be read. -/
def LegibleFindings (findings : Value) : Prop :=
  ∃ vs, findings.elements = .ok vs ∧ ∀ v ∈ vs, LegibleFinding v

/-! ## Reading findings -/

/-- How the lines of a finding are read. -/
theorem linesOf_of_isObject {v : Value} (hv : v.IsObject) :
    linesOf v = (do
      let first ← ((((← (rangeIn v).getD "startLine" .null).givenOr (v.fieldOr "line" .null)).givenOr
        (.nat 0))).asInt
      let last ← ((← (rangeIn v).getD "endLine" .null).givenOr (.int first)).asInt
      return (first, last)) := by
  simp only [linesOf, Value.getD_of_isObject hv, ok_bind, rangeIn]

/-- The lines are read just if they are numbers. Whether they are negative is seen later. -/
theorem reads_linesOf {v : Value} (hv : v.IsObject) :
    Reads ((rangeIn v).IsObject ∧ ∃ first last : Int,
      (firstLineIn v).StandsFor first ∧ (lastLineIn v first).StandsFor last) (linesOf v) := by
  rw [linesOf_of_isObject hv]
  refine (Value.reads_getD ..).bind And.left fun start hstart => ?_
  obtain ⟨hobject, rfl⟩ := Value.isObject_of_getD hstart
  refine (Value.reads_asInt _).bind (fun ⟨_, first, _, hfirst, _⟩ => ⟨first, hfirst⟩)
    fun first hfirst => ?_
  rw [Value.getD_of_isObject hobject, ok_bind]
  refine (Value.reads_asInt _).bind (fun ⟨_, first', last, hfirst', hlast⟩ => ?_) fun last hlast => ?_
  · obtain rfl := (Value.standsFor_of_asInt hfirst).unique hfirst'
    exact ⟨last, hlast⟩
  · exact ⟨hobject, first, last, Value.standsFor_of_asInt hfirst, Value.standsFor_of_asInt hlast⟩

theorem linesOf_of_standsFor {v : Value} (hv : v.IsObject) (hrange : (rangeIn v).IsObject)
    {first last : Int} (hfirst : (firstLineIn v).StandsFor first)
    (hlast : (lastLineIn v first).StandsFor last) : linesOf v = .ok (first, last) := by
  have hstart := Value.asInt_of_standsFor hfirst
  have hstop := Value.asInt_of_standsFor hlast
  rw [firstLineIn] at hstart
  rw [lastLineIn] at hstop
  simp only [linesOf_of_isObject hv, Value.getD_of_isObject hrange, ok_bind, hstart, hstop]
  rfl

/-- The issue is made if the effort and the tags can be read and no line is negative. -/
theorem reads_issueWith {v : Value} (hv : v.IsObject) (key component filePath : Value)
    (category : Category) (severity : Severity) (lines : Int × Int) :
    Reads (((effortIn v).isGiven = true →
          ∀ p ∈ Effort.parts (effortIn v).shown, p.amount.length ≤ Numeral.maxDigits) ∧
        (∃ vs, (v.fieldOr "tags" (.list [])).elements = .ok vs ∧ ∀ t ∈ vs, t.isAtomic = true) ∧
        0 ≤ lines.1 ∧ 0 ≤ lines.2)
      (issueWith v key component filePath category severity lines) := by
  have heffort : effortOf v = Effort.read (effortIn v) := by
    simp only [effortOf, Value.getD_of_isObject hv, ok_bind, effortIn]
  simp only [issueWith, Value.getD_of_isObject hv, ok_bind, heffort]
  refine (Effort.reads_read _).bind And.left fun effort hread => ?_
  refine (Value.reads_members _).bind (fun h => h.2.1) fun tags htags => ?_
  have hnonneg := Effort.nonneg_of_read hread
  have hparts := (Effort.reads_read _).of_ok hread
  have hmembers := (Value.reads_members _).of_ok htags
  unfold Issue.make
  rw [if_neg (Int.not_lt.2 hnonneg)]
  dsimp only
  split
  · rename_i hnegative
    rw [Bool.or_eq_true, decide_eq_true_iff, decide_eq_true_iff] at hnegative
    exact ⟨fun h => by omega, rfl⟩
  · rename_i hnegative
    rw [Bool.or_eq_true, decide_eq_true_iff, decide_eq_true_iff] at hnegative
    exact ⟨hparts, hmembers, by omega, by omega⟩

/-- The path of a component is found if the component can be looked up. -/
theorem reads_pathOf (components : List (Value × Value)) (component : Value) :
    Reads (component.isAtomic = true) (pathOf components component) := by
  unfold pathOf
  split
  · assumption
  · exact ⟨by assumption, rfl⟩

/-- How the category and the severity of a finding are read: they are known, they can be read but
one of them is unknown, or one of them is no text. -/
theorem kindOf_cases {v : Value} (hv : v.IsObject) :
    (∃ c s, kindOf v = .ok (some (c, s)) ∧ Category.read (v.fieldOr "type" (.text [])) = .ok c ∧
      Severity.read (v.fieldOr "severity" (.text [])) = .ok s) ∨
    (kindOf v = .ok none ∧ LegibleFinding v) ∨
    ∃ e, kindOf v = .error e ∧ ¬LegibleFinding v ∧ e.isOfForm = true := by
  simp only [kindOf, Value.getD_of_isObject hv, ok_bind]
  by_cases hcategory : (v.fieldOr "type" (.text [])).IsText
  · obtain ⟨t, ht⟩ := hcategory
    rw [ht]
    rcases Category.readsNames.text t with ⟨c, hc⟩ | ⟨what, name, hunknown⟩
    · rw [hc]
      by_cases hseverity : (v.fieldOr "severity" (.text [])).IsText
      · obtain ⟨u, hu⟩ := hseverity
        rw [hu]
        rcases Severity.readsNames.text u with ⟨s, hs⟩ | ⟨what, name, hunknown⟩
        · exact .inl ⟨c, s, by rw [hs]; rfl, rfl, hs⟩
        · refine .inr (.inl ⟨by rw [hunknown]; rfl, hv, ⟨t, ht⟩, fun _ _ => ⟨u, hu⟩, ?_⟩)
          intro _ s _ hs
          rw [hu, hunknown] at hs
          cases hs
      · obtain ⟨kind, operation, hfault⟩ := Severity.readsNames.other _ hseverity
        refine .inr (.inr ⟨_, by rw [hfault]; rfl, fun h => ?_, rfl⟩)
        exact hseverity (h.severity c (ht ▸ hc))
    · have hnone (c : Category) : Category.read (v.fieldOr "type" (.text [])) ≠ .ok c := by
        rw [ht, hunknown]
        intro h
        cases h
      exact .inr (.inl ⟨by rw [hunknown]; rfl, hv, ⟨t, ht⟩, fun c h => absurd h (hnone c),
        fun c _ h => absurd h (hnone c)⟩)
  · obtain ⟨kind, operation, hfault⟩ := Category.readsNames.other _ hcategory
    exact .inr (.inr ⟨_, by rw [hfault]; rfl, fun h => hcategory h.category, rfl⟩)

/-- A finding of a known category and severity can be read just if its issue can. -/
theorem legibleFinding_iff {v : Value} (hv : v.IsObject) {c : Category} {s : Severity}
    (hc : Category.read (v.fieldOr "type" (.text [])) = .ok c)
    (hs : Severity.read (v.fieldOr "severity" (.text [])) = .ok s) :
    LegibleFinding v ↔ LegibleIssue v :=
  ⟨fun h => h.issue c s hc hs, fun h => ⟨hv, Category.readsNames.isText hc,
    fun _ _ => Severity.readsNames.isText hs, fun _ _ _ _ => h⟩⟩

/-- What is left to be read of an issue when its lines and its component are. -/
theorem legibleIssue_iff {v : Value} (hv : v.IsObject) {lines : Int × Int} (hlines : linesOf v = .ok lines)
    (hcomponent : (v.fieldOr "component" (.text [])).isAtomic = true) :
    LegibleIssue v ↔
      ((effortIn v).isGiven = true →
          ∀ p ∈ Effort.parts (effortIn v).shown, p.amount.length ≤ Numeral.maxDigits) ∧
        (∃ vs, (v.fieldOr "tags" (.list [])).elements = .ok vs ∧ ∀ t ∈ vs, t.isAtomic = true) ∧
        0 ≤ lines.1 ∧ 0 ≤ lines.2 := by
  obtain ⟨hrange, first, last, hfirst, hlast⟩ := (reads_linesOf hv).of_ok hlines
  obtain rfl : (first, last) = lines :=
    Except.ok.inj ((linesOf_of_standsFor hv hrange hfirst hlast).symm.trans hlines)
  constructor
  · intro h
    obtain ⟨m, n, hm, hn⟩ := h.lines.numbers
    obtain rfl := hfirst.unique hm
    obtain rfl := hlast.unique hn
    exact ⟨h.effort, h.tags, Int.natCast_nonneg m, Int.natCast_nonneg n⟩
  · rintro ⟨heffort, htags, hnonneg, hnonneg'⟩
    obtain ⟨m, rfl⟩ := Int.eq_ofNat_of_zero_le hnonneg
    obtain ⟨n, rfl⟩ := Int.eq_ofNat_of_zero_le hnonneg'
    exact ⟨⟨hrange, m, n, hfirst, hlast⟩, hcomponent, heffort, htags⟩

/-- A finding makes an issue or is left out just if it is legible. -/
theorem settles_issueOf (components : List (Value × Value)) (v : Value) :
    (issueOf components v : Act (World σ) (Option Issue)).Settles (LegibleFinding v) := by
  unfold issueOf
  refine .ofExcept_bind (Value.reads_getD ..) LegibleFinding.object fun key hkey => ?_
  obtain ⟨hv, -⟩ := Value.isObject_of_getD hkey
  rcases kindOf_cases hv with ⟨c, s, hkind, hc, hs⟩ | ⟨hkind, hlegible⟩ | ⟨e, hkind, hnot, hform⟩
  · rw [hkind, Act.ofExcept_ok_bind]
    refine .congr ?_ (legibleFinding_iff hv hc hs).symm
    refine .ofExcept_bind (reads_linesOf hv) (fun h => ⟨h.lines.range, ?_⟩) fun lines hlines => ?_
    · obtain ⟨first, last, hfirst, hlast⟩ := h.lines.numbers
      exact ⟨first, last, hfirst, hlast⟩
    rw [Value.getD_of_isObject hv, Act.ofExcept_ok_bind]
    refine .ofExcept_bind (reads_pathOf ..) LegibleIssue.component fun filePath hpath => ?_
    have hissue := (Act.Settles.ofExcept (σ := σ)
      (reads_issueWith hv key (v.fieldOr "component" (.text [])) filePath c s lines)).map (f := some)
    have hlegible := hissue.congr (legibleIssue_iff hv hlines ((reads_pathOf ..).of_ok hpath)).symm
    split
    · exact .say _ _ hlegible
    · exact hlegible
  · rw [hkind, Act.ofExcept_ok_bind]
    exact .say _ _ (.pure hlegible none)
  · rw [hkind]
    exact fun w => ⟨rfl, hnot, hform⟩

/-- The findings of a page make their issues, or are left out, just if all are legible. -/
theorem settles_issuesOf (components : List (Value × Value)) (vs : List Value) :
    (issuesOf components vs : Act (World σ) (List Issue)).Settles (∀ v ∈ vs, LegibleFinding v) := by
  induction vs with
  | nil => exact .pure (fun v hv => absurd hv List.not_mem_nil) []
  | cons v rest ih =>
      rw [issuesOf]
      refine .bind (settles_issueOf components v) (fun h => h v (List.mem_cons_self ..))
        fun issue? w w' hissue => ?_
      have hv : LegibleFinding v := (settles_issueOf components v w).2.of_ok (congrArg Prod.fst hissue)
      refine .congr (ih.map (f := (issue?.toList ++ ·))) ?_
      rw [List.forall_mem_cons, and_iff_right hv]

/-- The issues of a page are found just if its findings are legible. -/
theorem settles_gather (limit : Nat) (found : List Issue) (p : Page) :
    (gather limit found p : Act (World σ) (List Issue × Bool)).Settles (LegibleFindings p.issues) := by
  unfold gather
  refine .ofExcept_bind (Value.reads_elements _) (fun ⟨vs, hvs, _⟩ => ⟨vs, hvs⟩) fun vs hvs => ?_
  have hall : LegibleFindings p.issues ↔ ∀ v ∈ vs, LegibleFinding v := by
    refine ⟨fun ⟨ws, hws, h⟩ => ?_, fun h => ⟨vs, hvs, h⟩⟩
    obtain rfl := Except.ok.inj (hvs.symm.trans hws)
    exact h
  refine .congr ?_ hall.symm
  exact .bind (settles_issuesOf p.components vs) id fun issues w w' hissues =>
    .pure ((settles_issuesOf p.components vs w).2.of_ok (congrArg Prod.fst hissues)) _

/-- What has elements has a size. -/
theorem exists_size {p : Page} (h : LegibleFindings p.issues) : ∃ n, p.size = .ok n := by
  obtain ⟨vs, hvs, -⟩ := h
  unfold Page.size sizeOf
  cases hissues : p.issues with
  | list l => exact ⟨_, rfl⟩
  | text t => exact ⟨_, rfl⟩
  | obj fields => exact ⟨_, rfl⟩
  | _ =>
      rw [hissues] at hvs
      cases hvs

/-! ## Pages -/

/-- Components that can be read: one that is a file with a path has a key to look it up. -/
structure LegibleComponent (v : Value) : Prop where
  object : v.IsObject
  key : (v.fieldOr "qualifier" .null).same (.str "FIL") = true →
    (v.fieldOr "path" .null).isGiven = true → ∃ key, v.field? "key" = some key ∧ key.isAtomic = true

/-- The values that are read as a number: truth values, numbers that are not infinite, and texts.
They need not stand for one. -/
inductive IsFigure : Value → Prop
  | bool (b : Bool) : IsFigure (.bool b)
  | whole (n : Int) : IsFigure (.num (.int n))
  | undefined {x : Float} (undefined : x.isNaN = true) : IsFigure (.num (.real x))
  | finite {x : Float} (finite : x.isInf = false) : IsFigure (.num (.real x))
  | text (t : Text) : IsFigure (.text t)

/-- Counts that can be read. What is counted matters only if there is a number. -/
structure LegibleCount (e : Value) : Prop where
  object : e.IsObject
  count : ∀ c, e.field? "count" = some c → IsFigure c
  name : ∀ c n v, e.field? "count" = some c → c.StandsFor n → e.field? "val" = some v → v.IsText

/-- Whether a facet is one of those that are read. -/
def IsReadFacet (f : Value) : Prop :=
  (f.fieldOr "property" .null).same (.str "types") = true ∨
    (f.fieldOr "property" .null).same (.str "severities") = true

/-- Facets that can be read. -/
structure LegibleFacet (f : Value) : Prop where
  object : f.IsObject
  values : ∃ es, (f.fieldOr "values" (.list [])).elements = .ok es ∧
    ∀ e ∈ es, IsReadFacet f → LegibleCount e

/-- What a document says about the number of findings. -/
def totalIn (d : Value) : Value :=
  (d.fieldOr "paging" (.obj [])).fieldOr "total" (d.fieldOr "total" (.nat 0))

/-- Documents that can be read as a page, apart from the findings on it. -/
structure LegiblePage (withFacets : Bool) (d : Value) : Prop where
  paging : (d.fieldOr "paging" (.obj [])).IsObject
  total : ∃ n, (totalIn d).StandsFor n
  components : ∃ vs, (d.fieldOr "components" (.list [])).elements = .ok vs ∧
    ∀ v ∈ vs, LegibleComponent v
  facets : withFacets = true → (d.fieldOr "facets" .null).isGiven = true →
    ∃ vs, (d.fieldOr "facets" .null).elements = .ok vs ∧ ∀ f ∈ vs, LegibleFacet f

/-- Null in place of the paging cannot be read. -/
example : ¬LegiblePage true (.record [("paging", .null), ("issues", .list [])]) := by
  rintro ⟨⟨fields, hfields⟩, -⟩
  cases hfields

/-! ## Reading pages -/

theorem reads_noteComponent (known : List (Value × Value)) (v : Value) :
    Reads (LegibleComponent v) (Client.noteComponent known v) := by
  unfold Client.noteComponent
  refine (Value.reads_getD ..).bind LegibleComponent.object fun qualifier hqualifier => ?_
  obtain ⟨hv, rfl⟩ := Value.isObject_of_getD hqualifier
  rw [Value.getD_of_isObject hv, ok_bind]
  split
  · rename_i hfile
    rw [Bool.and_eq_true] at hfile
    refine (Value.reads_require ..).bind (fun h => ?_) fun key hkey => ?_
    · obtain ⟨key, hkey, -⟩ := h.key hfile.1 hfile.2
      exact ⟨key, hkey⟩
    · have hfield := Value.field?_of_require hkey
      split
      · rename_i hatomic
        exact ⟨hv, fun _ _ => ⟨key, hfield, hatomic⟩⟩
      · rename_i hatomic
        refine ⟨fun h => ?_, rfl⟩
        obtain ⟨key', hkey', hatomic'⟩ := h.key hfile.1 hfile.2
        obtain rfl := Option.some.inj (hfield.symm.trans hkey')
        exact hatomic hatomic'
  · rename_i hother
    exact ⟨hv, fun hfile hgiven => absurd (by rw [hfile, hgiven]; rfl) hother⟩

theorem reads_filesOf {d : Value} (hd : d.IsObject) :
    Reads (∃ vs, (d.fieldOr "components" (.list [])).elements = .ok vs ∧
      ∀ v ∈ vs, LegibleComponent v) (Client.filesOf d) := by
  unfold Client.filesOf
  rw [Value.getD_of_isObject hd, ok_bind]
  exact Value.reads_elements_bind _ fun vs => Reads.foldlM (fun v _ known => reads_noteComponent known v) []

/-- Notes one count, if it is one and what it counts is known. -/
def noteNamed (read : Value → Except Fault α) (put : α → Int → Facets) (entry : Value) :
    Except Fault Facets := do
  let n ← (← entry.require "count").asInt
  return put (← read (← entry.require "val")) n

/-- What is noted, or the same as before if a fault is passed over. -/
def orPassed (f : Facets) : Except Fault Facets → Except Fault Facets
  | .error e => if isPassedOver e then .ok f else .error e
  | r => r

theorem isFigure_of_standsFor {c : Value} {n : Int} (h : c.StandsFor n) : IsFigure c := by
  cases h with
  | bool b => exact .bool b
  | whole n => exact .whole n
  | real _ hfinite => exact .finite hfinite
  | text h => exact .text _

/-- A value that is read as a number, but is none, is passed over. -/
theorem isPassedOver_iff {c : Value} {e : Fault} (h : c.asInt = .error e) :
    isPassedOver e = true ↔ IsFigure c := by
  cases Value.hasNoInt_of_asInt h with
  | undefined hundefined => exact iff_of_true rfl (.undefined hundefined)
  | infinite hdefined hinfinite =>
      refine iff_of_false (by decide) fun hfigure => ?_
      cases hfigure with
      | undefined hundefined => rw [hdefined] at hundefined; cases hundefined
      | finite hfinite => rw [hfinite] at hinfinite; cases hinfinite
  | noNumeral t => exact iff_of_true rfl (.text t)
  | tooLong t => exact iff_of_true rfl (.text t)
  | _ => exact iff_of_false (by intro h; cases h) nofun

/-- What is counted is read just if it is a text; an unknown one is passed over. -/
theorem reads_counted {read : Value → Except Fault α} (hread : ReadsNames read) (put : α → Facets)
    (f : Facets) {entry : Value} (hobject : entry.IsObject) :
    Reads (∀ v, entry.field? "val" = some v → v.IsText)
      (orPassed f (do return put (← read (← entry.require "val")))) := by
  rw [Value.require_of_isObject hobject]
  cases hname : entry.field? "val" with
  | none => exact fun v hv => (by cases hv)
  | some v =>
      by_cases htext : v.IsText
      · have hlegible : ∀ w, some v = some w → w.IsText := fun w hw => Option.some.inj hw ▸ htext
        obtain ⟨t, rfl⟩ := htext
        rcases hread.text t with ⟨a, ha⟩ | ⟨what, name, hunknown⟩
        · simp only [ok_bind, ha]
          exact hlegible
        · simp only [ok_bind, hunknown]
          exact hlegible
      · obtain ⟨kind, operation, hfault⟩ := hread.other v htext
        simp only [ok_bind, hfault]
        exact ⟨fun h => htext (h v rfl), rfl⟩

theorem reads_noteNamed {read : Value → Except Fault α} (hread : ReadsNames read)
    (put : α → Int → Facets) (f : Facets) (entry : Value) :
    Reads (LegibleCount entry) (orPassed f (noteNamed read put entry)) := by
  unfold noteNamed
  by_cases hobject : entry.IsObject
  · rw [Value.require_of_isObject hobject "count"]
    cases hcount : entry.field? "count" with
    | none =>
        refine ⟨hobject, fun c hc => ?_, fun c n v hc => ?_⟩ <;>
          · rw [hcount] at hc
            cases hc
    | some c =>
        have hsame {c' : Value} (hc' : entry.field? "count" = some c') : c = c' :=
          Option.some.inj (hcount.symm.trans hc')
        rw [ok_bind]
        cases hn : c.asInt with
        | error e =>
            have hnone := Value.not_standsFor_of_asInt hn
            show Reads _ (if isPassedOver e then .ok f else .error e)
            split
            · rename_i hpassed
              refine ⟨hobject, fun c' hc' => hsame hc' ▸ (isPassedOver_iff hn).1 hpassed, ?_⟩
              exact fun c' n v hc' hstands => absurd (hsame hc' ▸ hstands) (hnone n)
            · rename_i hfault
              have hform := (Value.reads_asInt c)
              rw [hn] at hform
              exact ⟨fun h => hfault ((isPassedOver_iff hn).2 (h.count c hcount)), hform.2⟩
        | ok n =>
            have hstands := Value.standsFor_of_asInt hn
            refine (reads_counted hread (put · n) f hobject).congr ⟨fun h => ?_, fun h v => ?_⟩
            · exact ⟨hobject, fun c' hc' => hsame hc' ▸ isFigure_of_standsFor hstands,
                fun c' n v _ _ => h v⟩
            · exact h.name c n v hcount hstands
  · obtain ⟨message, hfault⟩ := Value.require_of_not_isObject hobject "count"
    rw [hfault]
    exact ⟨fun h => hobject h.object, rfl⟩

theorem reads_noteCountIfKnown (property : Value) (f : Facets) (entry : Value) :
    Reads (property.same (.str "types") = true ∨ property.same (.str "severities") = true →
      LegibleCount entry) (noteCountIfKnown property f entry) := by
  have hpassed : noteCountIfKnown property f entry = orPassed f (noteCount property f entry) := by
    unfold noteCountIfKnown orPassed
    cases noteCount property f entry <;> rfl
  rw [hpassed]
  unfold noteCount
  by_cases htypes : property.same (.str "types") = true
  · rw [if_pos htypes]
    exact (reads_noteNamed Category.readsNames
      (fun c n => { f with byCategory := f.byCategory.put c n }) f entry).congr
        ⟨fun h _ => h, fun h => h (.inl htypes)⟩
  · rw [if_neg htypes]
    by_cases hseverities : property.same (.str "severities") = true
    · rw [if_pos hseverities]
      exact (reads_noteNamed Severity.readsNames
        (fun s n => { f with bySeverity := f.bySeverity.put s n }) f entry).congr
          ⟨fun h _ => h, fun h => h (.inr hseverities)⟩
    · rw [if_neg hseverities]
      exact fun h => absurd h (not_or.2 ⟨htypes, hseverities⟩)

theorem reads_noteFacet (f : Facets) (facet : Value) :
    Reads (LegibleFacet facet) (noteFacet f facet) := by
  unfold noteFacet
  refine (Value.reads_getD ..).bind LegibleFacet.object fun property hproperty => ?_
  obtain ⟨hobject, rfl⟩ := Value.isObject_of_getD hproperty
  rw [Value.getD_of_isObject hobject, ok_bind]
  refine (Value.reads_elements_bind _ fun es => Reads.foldlM
    (fun e _ g => reads_noteCountIfKnown _ g e) f).congr ⟨fun h => ⟨hobject, h⟩, fun h => h.values⟩

theorem reads_countsOf {d : Value} (hd : d.IsObject) (withFacets : Bool) :
    Reads (withFacets = true → (d.fieldOr "facets" .null).isGiven = true →
      ∃ vs, (d.fieldOr "facets" .null).elements = .ok vs ∧ ∀ f ∈ vs, LegibleFacet f)
      (Client.countsOf withFacets d) := by
  unfold Client.countsOf facetsOf
  split
  · rename_i hwanted
    rw [Value.getD_of_isObject hd, ok_bind]
    split
    · rename_i hgiven
      refine (Value.reads_elements_bind _ fun vs => ?_).congr ⟨fun h _ _ => h, fun h => h hwanted hgiven⟩
      exact (Reads.foldlM (fun facet _ f => reads_noteFacet f facet) {}).map (f := some)
    · rename_i hnot
      exact fun _ h => absurd h hnot
  · rename_i hnot
    exact fun h => absurd h hnot

/-- A document is read as a page just if it is legible. -/
theorem reads_pageOf (number : Int) (withFacets : Bool) {d : Value} (hd : d.IsObject) :
    Reads (LegiblePage withFacets d) (Client.pageOf number withFacets d) := by
  unfold Client.pageOf Client.totalOf
  rw [Value.getD_of_isObject hd, ok_bind]
  refine (Value.reads_getD ..).bind LegiblePage.paging fun total htotal => ?_
  obtain ⟨hpaging, rfl⟩ := Value.isObject_of_getD htotal
  refine (reads_filesOf hd).bind LegiblePage.components fun components hcomponents => ?_
  refine (Value.reads_asInt _).bind LegiblePage.total fun n hn => ?_
  rw [Value.getD_of_isObject hd, ok_bind]
  refine (reads_countsOf hd withFacets).bind LegiblePage.facets fun facets hfacets => ?_
  exact ⟨hpaging, ⟨n, Value.standsFor_of_asInt hn⟩, (reads_filesOf hd).of_ok hcomponents,
    (reads_countsOf hd withFacets).of_ok hfacets⟩

/-- What a page says about the number of findings, and the findings on it, are those of the document. -/
theorem of_pageOf {number : Int} {withFacets : Bool} {d : Value} {p : Page} (hd : d.IsObject)
    (h : Client.pageOf number withFacets d = .ok p) :
    (totalIn d).StandsFor p.total ∧ p.issues = d.fieldOr "issues" (.list []) := by
  have hlegible := (reads_pageOf number withFacets hd).of_ok h
  obtain ⟨n, hn⟩ := hlegible.total
  obtain ⟨components, hcomponents⟩ := (reads_filesOf hd).exists_ok hlegible.components
  obtain ⟨facets, hfacets⟩ := (reads_countsOf hd withFacets).exists_ok hlegible.facets
  have htotal : Client.totalOf d = .ok (totalIn d) := by
    rw [Client.totalOf, Value.getD_of_isObject hd, ok_bind, Value.getD_of_isObject hlegible.paging]
    rfl
  have hpage : Client.pageOf number withFacets d =
      .ok ⟨number, n, d.fieldOr "issues" (.list []), components, facets⟩ := by
    simp only [Client.pageOf, htotal, ok_bind, hcomponents, Value.asInt_of_standsFor hn,
      Value.getD_of_isObject hd, hfacets]
    rfl
  obtain rfl := Except.ok.inj (hpage.symm.trans h)
  exact ⟨hn, rfl⟩

end Scanner

end Mend
