import Mend.Plan.Build
import Mend.Plan.File
import Mend.Proofs.Fix.Agreement
import Mend.Proofs.Fix.Backup
import Mend.Proofs.Fix.Journal
import Mend.Proofs.Json.Written
import Mend.Proofs.Plan.Documents

/-!
# Plans that are saved and used again

A plan for well-typed issues can be saved, whatever characters the issues consist of, if its numbers
have no more digits than are read; the plan that is loaded from the file agrees with it, and a run
over the loaded plan does what a run over the plan does.

## Main statements

* `Plan.fileText_eq` — the contents of a plan file, or why there is none.
* `Plan.survives_saving` — saving and loading a new plan.
-/

namespace Mend

/-! ## Numbers that can be written -/

namespace Value

theorem fits_list {vs : List Value} : (list vs).fits = true ↔ ∀ v ∈ vs, v.fits = true := by
  have hitems (vs : List Value) : itemsFit vs = true ↔ ∀ v ∈ vs, v.fits = true := by
    induction vs with
    | nil => simp [itemsFit]
    | cons v vs ih => simp [itemsFit, ih]
  exact hitems vs

theorem fits_obj {fs : List (Text × Value)} : (obj fs).fits = true ↔ ∀ f ∈ fs, f.2.fits = true := by
  have hfields (fs : List (Text × Value)) : fieldsFit fs = true ↔ ∀ f ∈ fs, f.2.fits = true := by
    induction fs with
    | nil => simp [fieldsFit]
    | cons f fs ih => simp [fieldsFit, ih]
  exact hfields fs

theorem fits_record {fields : List (String × Value)} :
    (record fields).fits = true ↔ ∀ f ∈ fields, f.2.fits = true := by
  rw [record, fits_obj, List.forall_mem_map]

theorem fits_of_isPlain {depth : Nat} {v : Value} (h : v.IsPlain depth) : v.fits = true := by
  induction h with
  | null => rfl
  | bool => rfl
  | int fits => exact fits
  | text => rfl
  | list _ ih => exact fits_list.2 ih
  | obj _ _ _ ih => exact fits_obj.2 ih

end Value

theorem Issue.fits_of_document {i : Issue} (h : i.document.fits = true) : i.Fits := by
  rw [document, Value.fits_record] at h
  simp only [List.forall_mem_cons] at h
  obtain ⟨-, -, -, -, -, -, hstart, hend, heffort, -⟩ := h
  exact ⟨hstart, hend, heffort⟩

theorem Facets.fits_of_toValue {f : Facets} (h : f.toValue.fits = true) : f.Fits := by
  rw [toValue, Value.fits_record] at h
  simp only [List.forall_mem_cons, Value.fits_obj, List.forall_mem_map] at h
  exact ⟨h.1, h.2.1⟩

namespace Plan

theorem fits_of_document {p : Plan} (h : p.document.fits = true) : p.Fits := by
  rw [document, Value.fits_record] at h
  simp only [List.forall_mem_cons, Value.fits_obj, Value.fits_list, List.forall_mem_map] at h
  obtain ⟨htotal, hgroups, hunlocatable, hfacets, heffort, -⟩ := h
  refine ⟨fun i hi => ?_, htotal, Facets.fits_of_toValue hfacets, heffort⟩
  rcases List.mem_append.1 hi with hi | hi
  · obtain ⟨g, hg, hi⟩ := List.mem_flatMap.1 hi
    exact Issue.fits_of_document (hgroups g hg i hi)
  · exact Issue.fits_of_document (hunlocatable i hi)

variable {σ : Type} {p : Plan}

/-- A plan with a number of too many digits has no file. -/
theorem fileText_of_not_fits (h : p.WellTyped) (hfits : ¬ p.Fits) :
    p.fileText = .error .numberTooLong := by
  obtain ⟨q, hagrees, hvalue, -⟩ := exists_document h
  have hnot : ¬ q.document.fits = true := fun hq => hfits (hagrees.symm.fits (fits_of_document hq))
  rw [fileText, hvalue, ok_bind, Json.document, if_neg hnot]

/-- Any other plan has, and from its bytes a plan is read that agrees with it. -/
theorem exists_fileText (h : p.WellTyped) (hfits : p.Fits) :
    ∃ t q, p.fileText = .ok t ∧
      (∀ depth, ofBytes depth (t.flatMap Utf8.encodeCode) = .ok q) ∧ p.Agrees q := by
  obtain ⟨q, hagrees, hvalue, hread⟩ := exists_document h
  have hplain (depth : Json.Depth) : q.document.IsPlain depth := by
    have hlevels : depth.1 - 5 + 5 = depth.1 := by
      have := depth.2
      omega
    rw [← hlevels]
    exact isPlain_document (hagrees.wellTyped h) (hagrees.fits hfits) (depth.1 - 5)
  have hwritten := Json.isWritten_prettyAt (hplain .least) 0
  refine ⟨Json.pretty q.document, q, ?_, fun depth => ?_, hagrees⟩
  · rw [fileText, hvalue, ok_bind, Json.document, if_pos (Value.fits_of_isPlain (hplain .least))]
  · rw [ofBytes, Json.pretty, Json.decode_encoded hwritten]
    dsimp only
    rw [ofText, Json.unixLines_of_isWritten hwritten]
    have hpretty := Json.read_pretty (hplain depth)
    rw [Json.pretty] at hpretty
    rw [hpretty]
    exact hread

theorem run_load_eq (depth : Json.Depth) (path : Path) (w : World σ) :
    (load depth path).run w =
      (match w.reading path >>= ofBytes depth with
        | .ok p => .ok p
        | .error e =>
          if isUnreadable e then .error (.config (.planUnreadable path.toText e.message))
          else .error e, w.looked) := by
  have hread : (do Act.ofExcept (ofBytes depth (← World.readFile path)) : Act (World σ) Plan).run w =
      (w.reading path >>= ofBytes depth, w.looked) := by
    rw [Act.run_bind, World.run_readFile]
    cases w.reading path <;> rfl
  rw [load, Act.run_bind, Act.run_attempt, hread]
  cases w.reading path >>= ofBytes depth with
  | ok p => rfl
  | error e =>
      dsimp only
      split <;> rfl

theorem run_load {depth : Json.Depth} {path : Path} {w : World σ} {bytes : Bytes} {q : Plan}
    (hfile : w.reading path = .ok bytes) (h : ofBytes depth bytes = .ok q) :
    (load depth path).run w = (.ok q, w.looked) := by
  rw [run_load_eq, hfile, ok_bind, h]

theorem run_save {t : Text} (h : p.fileText = .ok t) (path : Path) (w : World σ) :
    (p.save path).run w = (World.writeFile path (t.flatMap Utf8.encodeCode)).run w := by
  rw [save, h, Act.ofExcept_ok_bind]

theorem run_save_error {e : Fault} (h : p.fileText = .error e) (path : Path) (w : World σ) :
    (p.save path).run w = (.error e, w) := by
  rw [save, h]
  rfl

/-- Making a plan fails only if its effort cannot be announced. -/
theorem run_build (issues : List Issue) (facets : Option Facets) (usedRemote truncated : Bool)
    (w : World σ) :
    let p := ofIssues issues facets usedRemote truncated
    (build issues facets usedRemote truncated).run w =
      if Numeral.fits p.effort then (.ok p, { w with log := p.notices.reverse ++ w.log })
      else (.error .numberTooLong, { w with log := p.warnings.reverse ++ w.log }) := by
  intro p
  have htell (lines : List Log.Line) (w : World σ) :
      (World.tell lines).run w = (.ok (), { w with log := lines.reverse ++ w.log }) := rfl
  rw [build, Act.run_bind_ok (htell _ w)]
  by_cases hfits : Numeral.fits p.effort = true
  · rw [if_pos hfits, if_pos hfits, Act.run_bind_ok (htell _ _), notices, List.reverse_append,
      List.append_assoc]
    rfl
  · rw [if_neg hfits, if_neg hfits]
    rfl

/-- The plan for well-typed issues survives being saved if all its numbers can be written: it is made,
its file is written unless the disk or the tree is in the way, the plan that is loaded from the file, if
that can be looked at, agrees with it, and a run over that plan does what a run over the plan does. If
some number cannot be written, making the plan or saving it fails for that reason, and no file changes. -/
theorem survives_saving {issues : List Issue} (htyped : ∀ i ∈ issues, i.WellTyped)
    {facets : Option Facets} (hnames : ∀ f ∈ facets, f.Distinct) (usedRemote truncated : Bool)
    (w : World σ) :
    let p := ofIssues issues facets usedRemote truncated
    let made := (build issues facets usedRemote truncated).run w
    (p.Fits → made.1 = .ok p ∧ ∃ bytes, ∀ (path : Path) (v : World σ),
      (p.save path).run v = (World.writeFile path bytes).run v ∧
      ∀ v', (p.save path).run v = (.ok (), v') → v'.sight v'.looks = none → ∀ depth,
        ∃ q, (load depth path).run v' = (.ok q, v'.looked) ∧ p.Agrees q ∧
          ∀ shop : Fix.Workshop σ, shop.drafter.IgnoresTagOrder →
            ∀ keys, Fix.run shop q keys = Fix.run shop p keys) ∧
    (¬ p.Fits → made.1 = .error .numberTooLong ∨ made.1 = .ok p ∧
      ∀ (path : Path) (v : World σ), (p.save path).run v = (.error .numberTooLong, v)) := by
  intro p made
  have htypedPlan : p.WellTyped := wellTyped_ofIssues htyped hnames usedRemote truncated
  have hmade : made = if Numeral.fits p.effort then
      (.ok p, { w with log := p.notices.reverse ++ w.log })
      else (.error .numberTooLong, { w with log := p.warnings.reverse ++ w.log }) :=
    run_build issues facets usedRemote truncated w
  constructor
  · intro hfits
    obtain ⟨t, q, htext, hbytes, hagrees⟩ := exists_fileText htypedPlan hfits
    rw [if_pos hfits.effort] at hmade
    refine ⟨by rw [hmade], t.flatMap Utf8.encodeCode, fun path v => ⟨run_save htext path v, ?_⟩⟩
    intro v' hsaved hclear depth
    rw [run_save htext] at hsaved
    have hread : v'.tree.read path = .ok (t.flatMap Utf8.encodeCode) := by
      cases World.wrote_of_run hsaved with
      | done h => exact Tree.read_of_write h
    have hreading : v'.reading path = .ok (t.flatMap Utf8.encodeCode) :=
      (World.seen_of_clear hclear).trans hread
    exact ⟨q, run_load hreading (hbytes depth), hagrees, fun shop hshop keys =>
      Fix.run_of_agrees hshop hagrees keys⟩
  · intro hfits
    by_cases heffort : Numeral.fits p.effort = true
    · rw [if_pos heffort] at hmade
      exact .inr ⟨by rw [hmade], fun path v =>
        run_save_error (fileText_of_not_fits htypedPlan hfits) path v⟩
    · rw [if_neg heffort] at hmade
      exact .inl (by rw [hmade])

/-- An issue with quotes, control characters and a character beyond the first plane. -/
def colourful : Issue where
  key := .text [0x1F600]
  rule := .text [0x22, 0x5C]
  category := .bug
  severity := .major
  message := .text [0x0A, 0x00, 0x7F, 0xE9]
  filePath := .text [0x41]
  lineStart := 1
  lineEnd := 2
  effort := 5
  tags := [.text [0x62], .text [0x61]]
  component := .null

/-- A model that says nothing. -/
def silent : Model.Service Unit := fun _ _ => pure []

/-- A workshop with such a model, in which everything compiles. -/
def quietShop : Fix.Workshop Unit :=
  { Fix.small true with drafter := ModelDrafter.draft silent none 1 }

theorem wellTyped_colourful : colourful.WellTyped where
  key := rfl
  rule := rfl
  message := rfl
  filePath := rfl
  component := .inl rfl
  tags := by decide
  distinct := by simp [colourful]

/-- The plan for such an issue is saved in an empty tree and loaded again. -/
theorem survives_saving_colourful :
    (∀ i ∈ [colourful], i.WellTyped) ∧
      let p := ofIssues [colourful] none true false
      p.Fits ∧ ∃ v' q, (p.save (Path.child {} [0x70])).run { extra := () } = (.ok (), v') ∧
        (load .least (Path.child {} [0x70])).run v' = (.ok q, v'.looked) ∧ p.Agrees q ∧
        Fix.run quietShop q none = Fix.run quietShop p none := by
  have htyped : ∀ i ∈ [colourful], i.WellTyped :=
    List.forall_mem_singleton.2 wellTyped_colourful
  have hfits : (ofIssues [colourful] none true false).Fits := by
    refine ⟨List.forall_mem_singleton.2 ⟨?_, ?_, ?_⟩, ?_, ⟨?_, ?_⟩, ?_⟩
    all_goals decide +kernel
  refine ⟨htyped, hfits, ?_⟩
  have hnames : ∀ f ∈ (none : Option Facets), f.Distinct := by simp
  obtain ⟨-, bytes, hfile⟩ := (survives_saving htyped hnames true false
    ({ extra := () } : World Unit)).1 hfits
  obtain ⟨hsave, hload⟩ := hfile (Path.child {} [0x70]) { extra := () }
  have hwrite : (World.writeFile (Path.child {} [0x70]) bytes).run ({ extra := () } : World Unit) =
      (.ok (), World.afterWrite { extra := () } ⟨.dir [([0x70], .file bytes)]⟩) :=
    World.run_writeFile_of_done rfl rfl
  obtain ⟨q, hq, hagrees, hrun⟩ := hload _ (hsave.trans hwrite) rfl .least
  exact ⟨_, q, hsave.trans hwrite, hq, hagrees,
    hrun quietShop (ModelDrafter.ignoresTagOrder silent none 1) none⟩

theorem wellTyped_of_effort {i : Issue} (h : i.WellTyped) (n : Nat) :
    Issue.WellTyped { i with effort := n } :=
  ⟨h.key, h.rule, h.message, h.filePath, h.component, h.tags, h.distinct⟩

/-- An issue whose repair takes so many hours that the number is just short enough to be read. In
minutes it is too long to be written. -/
def vast : Issue := { colourful with effort := 60 * 10 ^ (Numeral.maxDigits - 1) }

/-- There is no plan for such an issue. -/
theorem build_vast :
    vast.WellTyped ∧
      ((build [vast] none true false).run ({ extra := () } : World Unit)).1 =
        .error .numberTooLong := by
  refine ⟨wellTyped_of_effort wellTyped_colourful _, ?_⟩
  have heffort : (ofIssues [vast] none true false).effort =
      (60 * 10 ^ (Numeral.maxDigits - 1) : Nat) := Int.add_zero _
  have hdigits : 10 ^ Numeral.maxDigits = 10 ^ (Numeral.maxDigits - 1) * 10 :=
    (pow_sub_one_mul (by decide) 10).symm
  have hfits : ¬ Numeral.fits (ofIssues [vast] none true false).effort = true := by
    rw [heffort, Numeral.fits, decide_eq_true_iff, Int.natAbs_natCast, Nat.pow_eq, hdigits]
    have hpos : 0 < 10 ^ (Numeral.maxDigits - 1) := Nat.pow_pos (by decide)
    generalize 10 ^ (Numeral.maxDigits - 1) = n at hpos ⊢
    omega
  rw [run_build, if_neg hfits]

end Plan

end Mend
