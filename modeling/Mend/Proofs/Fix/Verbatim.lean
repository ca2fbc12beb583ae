import Mend.Proofs.Fix.Views
import Mend.Proofs.Model.Drafter

/-!
# Answers that repeat a file

A model that cannot improve a file may answer with the file as it is. Such an answer is no fix, and
nothing is compiled for it. That a draft is the old file is noticed up to line feeds at its end; but a
file that is taken out of an answer loses the line feeds at its beginning too. So the repetition of a
file that begins with a line feed is taken for a new version.
-/

namespace Mend.Fix

open Text Fixer ModelDrafter

variable {σ : Type}

/-- A file without the line feeds around it is the old file up to line feeds at the end just if the
old file begins with none. -/
theorem isUnchanged_trim {t : Text} (h : t.all isBlank = false) :
    isUnchanged (t.trim (· == newline) ++ [newline]) t = !(t.head? == some newline) := by
  have hidem : (t.trim (· == newline)).trimRight (· == newline) = t.trim (· == newline) :=
    trimRight_trimRight
  rw [isUnchanged, trimRight_append_singleton rfl, hidem]
  by_cases hhead : t.head? = some newline
  · have hall : t.all (· == newline) = false := by
      rw [Bool.eq_false_iff, ne_eq, List.all_eq_true] at h ⊢
      intro hall
      refine h fun c hc => ?_
      obtain rfl := beq_iff_eq.1 (hall c hc)
      rfl
    have hne := trim_ne_trimRight hhead (p := (· == newline)) rfl hall
    simp [hhead, hne]
  · have htrim : t.trim (· == newline) = t.trimRight (· == newline) := by
      refine trim_eq_trimRight fun d hd => ?_
      rw [beq_eq_false_iff_ne]
      rintro rfl
      exact hhead hd
    simp [hhead, htrim]

/-- What is made of an answer that repeats a file. -/
theorem candidateOf_verbatim {info t : Text} (usage : Usage) (hinfo : Answer.IsInfo info)
    (hfence : t.contains Answer.fence = false) :
    candidateOf (draftOf (Answer.fenced info (Answer.closed t)) usage) t =
      if t.all isBlank then .error (.invalidOutput "Rewriter returned no usable file")
      else if t.head? = some newline then .ok (t.trim (· == newline) ++ [newline])
      else .error (.invalidOutput "Rewriter returned the file unchanged") := by
  rw [candidateOf, draftOf, Answer.extractSource_closed hinfo hfence]
  by_cases hblank : t.all isBlank = true
  · simp [hblank]
  · rw [Bool.not_eq_true] at hblank
    simp only [hblank, Bool.false_eq_true, if_false, isUnchanged_trim hblank]
    by_cases hhead : t.head? = some newline <;> simp [hhead]

/-! ## The attempt -/

section

variable {w : Workshop σ} {path : Text} {issues : List Issue} {number : Nat} {feedback : Feedback}
  {f : Fixer σ}

/-- An attempt whose drafter answers depends on what is made of the draft, and on nothing else. -/
theorem run_attemptOnce {d : Drafting.Draft} {s : World σ}
    (hd : (w.drafter (feedback.request path f.backup.baselineText issues)).run
      (f.entered path .drafting (some number)).world = (.ok d, s)) :
    (attemptOnce w path issues number feedback).run f =
      match candidateOf d f.backup.baselineText with
      | .error ending =>
        (.ok ending, ((f.entered path .drafting (some number)).inWorld s).consumed d.usage)
      | .ok candidate =>
        (validate w candidate).run ((((f.entered path .drafting (some number)).inWorld s).consumed
          d.usage).entered path .validating (some number)) := by
  have htransition := run_transition f path .drafting (some number)
  cases hc : candidateOf d f.backup.baselineText <;>
    simp [attemptOnce, Act.run_bind, htransition, run_draft_ok hd, hc, run_transition]

end

/-- What is written and compiled is never called invalid output. -/
theorem validate_ne_invalidOutput (w : Workshop σ) (candidate : Text) (f : Fixer σ) (reason : Text) :
    ((validate w candidate).run f).1 ≠ .ok (.invalidOutput reason) := by
  intro h
  have hvalidated := validated_validate w candidate f
  rw [h] at hvalidated
  exact hvalidated.outcome_ne rfl

/-- An attempt in which a model repeats the file in a fenced block is invalid output, and nothing is
done behind the answer, if the file is blank or does not begin with a line feed. Otherwise the file
without the line feeds at its beginning is written and compiled as a new version. -/
theorem attemptOnce_verbatim (w : Workshop σ) (service : Model.Service σ) (model : Option Text)
    (maxTurns : Int) (hw : w.drafter = ModelDrafter.draft service model maxTurns) (path : Text)
    (issues : List Issue) (number : Nat) (feedback : Feedback) (f : Fixer σ) (info : Text)
    (messages : List Model.Message) {s : World σ}
    (hasked : (ask service model maxTurns (feedback.request path f.backup.baselineText issues)).run
      (f.entered path .drafting (some number)).world = (.ok messages, s))
    (hcomplete : IsComplete messages)
    (hspoken : spoken messages = Answer.fenced info (Answer.closed f.backup.baselineText))
    (hinfo : Answer.IsInfo info) (hfence : f.backup.baselineText.contains Answer.fence = false) :
    ∃ usage s', s'.quiet = s.quiet ∧
      let text := f.backup.baselineText
      let asked := ((f.entered path .drafting (some number)).inWorld s').consumed usage
      let out := (attemptOnce w path issues number feedback).run f
      (text.all isBlank = true ∨ text.head? ≠ some newline →
        ∃ reason, out = (.ok (.invalidOutput reason), asked) ∧ asked.backup = f.backup) ∧
      (text.all isBlank = false ∧ text.head? = some newline →
        out = (validate w (text.trim (· == newline) ++ [newline])).run
            (asked.entered path .validating (some number)) ∧
          ∀ reason, out.1 ≠ .ok (.invalidOutput reason)) := by
  obtain ⟨usage, s', hdraft, hquiet⟩ := exists_run_draft service model maxTurns _ hasked hcomplete
  rw [hspoken, ← hw] at hdraft
  have hout := run_attemptOnce hdraft
  rw [candidateOf_verbatim usage hinfo hfence] at hout
  refine ⟨usage, s', hquiet, ?_, ?_⟩
  · rintro (hblank | hhead)
    · rw [if_pos hblank] at hout
      exact ⟨_, hout, rfl⟩
    · by_cases hblank : f.backup.baselineText.all isBlank = true
      · rw [if_pos hblank] at hout
        exact ⟨_, hout, rfl⟩
      · rw [if_neg hblank, if_neg hhead] at hout
        exact ⟨_, hout, rfl⟩
  · rintro ⟨hblank, hhead⟩
    rw [hblank, if_neg Bool.false_ne_true, if_pos hhead] at hout
    refine ⟨hout, fun reason hreason => ?_⟩
    exact validate_ne_invalidOutput _ _ _ _ ((congrArg Prod.fst hout).symm.trans hreason)

/-- A model that always says the same. -/
def speaking (answer : Text) : Model.Service Unit := fun _ _ => pure [.answer [.text answer]]

/-- A workshop with such a model, in which everything compiles. -/
def repeating (answer : Text) : Workshop Unit :=
  { small true with drafter := ModelDrafter.draft (speaking answer) none 1 }

/-- A run in which a file `a` with certain contents is under repair. -/
def repairing (contents : Bytes) : Fixer Unit :=
  { Fixer.start { tree := ⟨.dir [([0x61], .file contents)]⟩, extra := () } with
    backup := { path := Path.child {} [0x61], baseline := contents, copy := none } }

/-- The repetition of a file that is one line is refused. If there is a blank line before it, the
repetition is no invalid output but a success. -/
theorem attemptOnce_verbatim_blankLine :
    (∃ reason, ((attemptOnce (repeating (Answer.fenced [] [0x78, 0x0A])) [0x61] [] 1 {}).run
        (repairing [0x78, 0x0A])).1 = .ok (.invalidOutput reason)) ∧
      let out := ((attemptOnce (repeating (Answer.fenced [] [0x0A, 0x78, 0x0A])) [0x61] [] 1 {}).run
        (repairing [0x0A, 0x78, 0x0A])).1
      (∀ reason, out ≠ .ok (.invalidOutput reason)) ∧ recorded out = some .success := by
  have hinfo : Answer.IsInfo [] := by simp [Answer.IsInfo]
  constructor
  · let answer := Answer.fenced [] [0x78, 0x0A]
    obtain ⟨usage, s', -, hrefused, -⟩ := attemptOnce_verbatim (repeating answer) (speaking answer)
      none 1 rfl [0x61] [] 1 {} (repairing [0x78, 0x0A]) [] [.answer [.text answer]] rfl trivial
      (by decide +kernel) hinfo (by decide +kernel)
    obtain ⟨reason, hout, -⟩ := hrefused (.inr (by decide +kernel))
    exact ⟨reason, congrArg Prod.fst hout⟩
  · let answer := Answer.fenced [] [0x0A, 0x78, 0x0A]
    obtain ⟨usage, s', -, -, hwritten⟩ := attemptOnce_verbatim (repeating answer) (speaking answer)
      none 1 rfl [0x61] [] 1 {} (repairing [0x0A, 0x78, 0x0A]) [] [.answer [.text answer]] rfl trivial
      (by decide +kernel) hinfo (by decide +kernel)
    exact ⟨(hwritten (by decide +kernel)).2, by decide +kernel⟩

end Mend.Fix
