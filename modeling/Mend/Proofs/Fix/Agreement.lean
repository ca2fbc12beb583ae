import Mend.Fix.Run
import Mend.Model.Drafter
import Mend.Proofs.Act
import Mend.Proofs.Plan.Agreement

/-!
# Runs over plans that agree

A run hands the issues of a plan to the drafter and otherwise looks at their keys and their number
only. If the drafter does not mind the order of tags, runs over plans that agree are the same.

## Main definitions

* `Drafter.IgnoresTagOrder` — drafters that treat requests alike which agree.

## Main statements

* `Fix.run_of_agrees` — runs over plans that agree.
* `ModelDrafter.ignoresTagOrder` — asking a model is such a drafter.
-/

namespace Mend

variable {σ : Type}

/-- Whether two requests differ at most in the order of the tags of an issue. -/
def Drafting.Request.Agrees (r s : Drafting.Request) : Prop :=
  ∃ issues, List.Forall₂ Issue.Agrees r.issues issues ∧ s = { r with issues }

/-- Whether a drafter treats requests alike that differ at most in the order of tags. -/
def Drafter.IgnoresTagOrder (d : Drafter σ) : Prop :=
  ∀ r s : Drafting.Request, r.Agrees s → d s = d r

namespace Fix

open Fixer

variable {w : Workshop σ} {is js : List Issue}

theorem attemptOnce_of_agrees (hw : w.drafter.IgnoresTagOrder)
    (h : List.Forall₂ Issue.Agrees is js) (path : Text) (number : Nat) (feedback : Feedback) :
    attemptOnce w path js number feedback = attemptOnce w path is number feedback := by
  have hdraft (source : Text) :
      draft w (feedback.request path source js) = draft w (feedback.request path source is) := by
    have hdrafter := hw (feedback.request path source is) (feedback.request path source js) ⟨js, h, rfl⟩
    rw [draft, draft, hdrafter]
  simp only [attemptOnce, hdraft]

theorem attemptsFrom_of_agrees (hw : w.drafter.IgnoresTagOrder)
    (h : List.Forall₂ Issue.Agrees is js) (path : Text) (left number : Nat) (feedback : Feedback) :
    attemptsFrom w path js left number feedback = attemptsFrom w path is left number feedback := by
  induction left generalizing number feedback with
  | zero => rfl
  | succ left ih => simp only [attemptsFrom, attemptOnce_of_agrees hw h, ih]

theorem fixFile_of_agrees (hw : w.drafter.IgnoresTagOrder) (h : List.Forall₂ Issue.Agrees is js)
    (path : Text) : fixFile w path js = fixFile w path is := by
  have hkept : fixKept w path js = fixKept w path is := by
    simp only [fixKept, attempted, attemptLoop, attemptsFrom_of_agrees hw h]
  have hconclude (committed : Bool) (error : Option Text) :
      conclude (σ := σ) path js committed error = conclude path is committed error := by
    simp only [conclude, resultOf, h.length_eq, Issue.keys_of_agrees h]
  simp only [fixFile, hkept, hconclude]

theorem fixFiles_of_agrees (hw : w.drafter.IgnoresTagOrder) {gs hs : List FileGroup}
    (h : List.Forall₂ FileGroup.Agrees gs hs) (total number : Nat) :
    fixFiles w total number hs = fixFiles w total number gs := by
  induction h generalizing number with
  | nil => rfl
  | @cons g k gs hs hgk hrest ih =>
      have hnext : fixNext w total number k = fixNext w total number g := by
        simp only [fixNext, announce, hgk.path, hgk.issues.length_eq,
          fixFile_of_agrees hw hgk.issues]
      simp only [fixFiles, hnext, ih, List.map_cons, hgk.path, FileGroup.paths_of_agrees hrest]

/-- A run after the issues have been picked. -/
def workOn (w : Workshop σ) (s : Selection) : Act (Fixer σ) Report := do
  tellKeys s
  say Log.info ["Fixing ", .decimal s.issueCount, " issues in ", .decimal s.groups.length, " files"]
  let (results, skipped) ← fixFiles w s.groups.length 1 s.groups
  let report := gathered s results skipped (← Act.get).usage
  let report ← if results.isEmpty then pure report else certify w report
  summarize report
  return report

theorem workOn_of_agrees (hw : w.drafter.IgnoresTagOrder) {s t : Selection} (h : s.Agrees t) :
    workOn w t = workOn w s := by
  have hgathered (results : List FileResult) (skipped : List Text) (usage : Usage) :
      gathered t results skipped usage = gathered s results skipped usage := by
    rw [gathered, gathered, h.unlocatable, h.unknown]
  have htell : tellKeys (σ := σ) t = tellKeys s := by
    rw [tellKeys, tellKeys, h.unlocatable, h.unknown]
  simp only [workOn, htell, h.issueCount, h.groups.length_eq, fixFiles_of_agrees hw h.groups,
    hgathered]

theorem run_of_find {plan : Plan} {keys : Option (List Value)} {s : Selection}
    (h : plan.find keys = .ok s) : run w plan keys = workOn w s := by
  simp only [run, select, workOn, h, Act.ofExcept_ok_bind, Act.bind_assoc, Act.pure_bind]

theorem run_of_find_error {plan : Plan} {keys : Option (List Value)} {e : Fault}
    (h : plan.find keys = .error e) : run w plan keys = Act.fail e := by
  rw [run, select, h]
  rfl

/-- Runs over plans that agree are the same if the drafter ignores the order of tags. -/
theorem run_of_agrees (hw : w.drafter.IgnoresTagOrder) {p q : Plan} (h : p.Agrees q)
    (keys : Option (List Value)) : run w q keys = run w p keys := by
  rcases h.find keys with ⟨s, t, hp, hq, hst⟩ | ⟨e, hp, hq⟩
  · rw [run_of_find hp, run_of_find hq, workOn_of_agrees hw hst]
  · rw [run_of_find_error hp, run_of_find_error hq]

end Fix

theorem Issue.Agrees.issueLine {i j : Issue} (h : i.Agrees j) (number : Nat) :
    Drafting.issueLine number j = Drafting.issueLine number i := by
  obtain ⟨tags, -, rfl⟩ := h
  rfl

theorem issueLines_of_agrees {is js : List Issue} (h : List.Forall₂ Issue.Agrees is js)
    (ns : List Nat) :
    ((js.zip ns).mapM fun (i, n) => Drafting.issueLine (n + 1) i) =
      (is.zip ns).mapM fun (i, n) => Drafting.issueLine (n + 1) i := by
  induction h generalizing ns with
  | nil => rfl
  | cons hij _ ih =>
      cases ns with
      | nil => rfl
      | cons n ns => simp only [List.zip_cons_cons, List.mapM_cons, hij.issueLine, ih]

/-- What a model is asked does not mention tags. -/
theorem ModelDrafter.ignoresTagOrder (service : Model.Service σ) (model : Option Text)
    (maxTurns : Int) : (draft service model maxTurns).IgnoresTagOrder := by
  rintro r s ⟨issues, hissues, rfl⟩
  have hlist : Drafting.issueList issues = Drafting.issueList r.issues := by
    rw [Drafting.issueList, Drafting.issueList, issueLines_of_agrees hissues, hissues.length_eq]
  simp only [draft, ask, Drafting.Request.prompt, hlist]
  rfl

end Mend
