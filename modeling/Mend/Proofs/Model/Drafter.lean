import Mend.Model.Drafter
import Mend.Proofs.Drafting.Answer
import Mend.Proofs.Fix.Backup

/-!
# What a session says

The words of all answers in a session, taken together, are what the drafter looks for a file in. A
session that is not broken off and gives readable accounts always comes to a draft.

## Main definitions

* `ModelDrafter.spoken` — the words of a session.
* `ModelDrafter.IsComplete` — sessions that come to a draft.
-/

namespace Mend.ModelDrafter

open Model

variable {σ : Type}

/-- The words in the answers of a session. -/
def spoken : List Message → Text
  | [] => []
  | .answer blocks :: rest => words blocks ++ spoken rest
  | .account _ :: rest => spoken rest
  | .toolCall _ :: rest => spoken rest
  | .broken _ :: rest => spoken rest

/-- Whether a session is not broken off, and its accounts can be read. -/
def IsComplete : List Message → Prop
  | [] => True
  | .answer _ :: rest => IsComplete rest
  | .account a :: rest => (∃ usage, usageOf a = .ok usage) ∧ IsComplete rest
  | .toolCall _ :: rest => IsComplete rest
  | .broken _ :: _ => False

/-- A complete session is gone through to its end. Only the log is written on the way. -/
theorem exists_run_collect (path : Text) {messages : List Message} (h : IsComplete messages)
    (raw : Text) (usage : Fix.Usage) (w : World σ) :
    ∃ usage' w', (collect path raw usage messages).run w = (.ok (raw ++ spoken messages, usage'), w') ∧
      w'.quiet = w.quiet := by
  induction messages generalizing raw usage w with
  | nil => exact ⟨usage, w, by simp [collect, spoken], rfl⟩
  | cons m rest ih =>
      cases m with
      | answer blocks =>
          obtain ⟨usage', w', hrun, hquiet⟩ := ih h (raw ++ words blocks) usage w
          exact ⟨usage', w', by simp [collect, spoken, hrun], hquiet⟩
      | account a =>
          obtain ⟨⟨usage', husage⟩, hrest⟩ := h
          have htell : (World.tell (notices path a)).run w =
              (.ok (), { w with log := (notices path a).reverse ++ w.log }) := rfl
          obtain ⟨usage'', w', hrun, hquiet⟩ := ih hrest raw usage'
            { w with log := (notices path a).reverse ++ w.log }
          refine ⟨usage'', w', ?_, hquiet⟩
          simp [collect, spoken, Act.run_bind, husage, htell, hrun]
      | toolCall arguments =>
          obtain ⟨usage', w', hrun, hquiet⟩ := ih h raw usage w
          exact ⟨usage', w', by simp [collect, spoken, hrun], hquiet⟩
      | broken message => exact h.elim

/-- The draft of a complete session is what its words hold. -/
theorem exists_run_draft (service : Service σ) (model : Option Text) (maxTurns : Int)
    (r : Drafting.Request) {messages : List Message} {w s : World σ}
    (hasked : (ask service model maxTurns r).run w = (.ok messages, s))
    (hcomplete : IsComplete messages) :
    ∃ usage s', (draft service model maxTurns r).run w = (.ok (draftOf (spoken messages) usage), s') ∧
      s'.quiet = s.quiet := by
  obtain ⟨usage, s', hrun, hquiet⟩ := exists_run_collect r.path hcomplete [] {} s
  refine ⟨usage, s', ?_, hquiet⟩
  rw [draft, Act.run_bind_ok hasked, Act.run_bind_ok hrun]
  rfl

end Mend.ModelDrafter
