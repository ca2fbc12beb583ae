import Mend.Act

/-!
# Reasoning about actions

Two actions on different states are the same in effect if a map between the states carries the one
to the other. Every way of putting actions together respects that.

## Main definitions

* `Act.Mirrors π a b` — the action `b` does on mapped states what `a` does.
-/

namespace Mend

section

variable {S α β : Type}

theorem exists_of_isOk {r : Except Fault α} (h : r.isOk = true) : ∃ a, r = .ok a := by
  cases r with
  | ok a => exact ⟨a, rfl⟩
  | error e => cases h

/-- A run that ends well gives a result, and leaves a state. -/
theorem exists_ending_of_isOk {ending : Except Fault α × S} (h : ending.1.isOk = true) :
    ∃ a s, ending = (.ok a, s) := by
  obtain ⟨a, ha⟩ := exists_of_isOk h
  exact ⟨a, ending.2, Prod.ext ha rfl⟩

/-- A run gives a result if there is something to be read off it. -/
theorem exists_ending_of_map_eq_some {ending : Except Fault α × S} {f : α → β} {b : β}
    (h : ending.1.toOption.map f = some b) : ∃ a s, ending = (.ok a, s) ∧ f a = b := by
  rcases ending with ⟨e | a, s⟩
  · cases h
  · exact ⟨a, s, rfl, Option.some.inj h⟩

end

namespace Act

variable {S T α β : Type}

/-- It does not matter how actions one after another are put together. -/
theorem bind_assoc {γ : Type} (a : Act S α) (f : α → Act S β) (g : β → Act S γ) :
    a >>= f >>= g = a >>= fun x => f x >>= g := by
  funext s
  show (a >>= f >>= g).run s = (a >>= fun x => f x >>= g).run s
  rcases h : a.run s with ⟨e | x, s'⟩
  · rw [run_bind_error (run_bind_error h), run_bind_error h]
  · rw [run_bind, run_bind_ok h, run_bind_ok h, run_bind]

theorem bind_pure (a : Act S α) : (a >>= pure) = a := by
  funext s
  show (a >>= pure).run s = a.run s
  rcases h : a.run s with ⟨e | x, s'⟩
  · rw [run_bind_error h]
  · rw [run_bind_ok h, run_pure]

theorem pure_bind (x : α) (f : α → Act S β) : (pure x >>= f) = f x := rfl

theorem ofExcept_ok_bind (x : α) (f : α → Act S β) : (ofExcept (.ok x) >>= f) = f x := rfl

theorem ofExcept_bind_eq (r : Except Fault α) (f : α → Except Fault β) :
    (ofExcept (r >>= f) : Act S β) = ofExcept r >>= fun x => ofExcept (f x) := by
  cases r <;> rfl

/-- Working on the result of an action leaves the state as the action does. -/
theorem state_bind_pure (a : Act S α) (f : α → β) (s : S) :
    ((a >>= fun x => pure (f x)).run s).2 = (a.run s).2 := by
  rcases h : a.run s with ⟨e | x, s'⟩
  · rw [run_bind_error h]
  · rw [run_bind_ok h, run_pure]

/-- An action that is watched ends only if it is interrupted. -/
theorem run_caught_of_ne {a : Act S α} {s s' : S} {r : Except Fault α}
    (h : a.run s = (r, s')) (hr : r ≠ .error .interrupted) : a.caught.run s = (.ok r, s') := by
  rw [run_caught, h]
  split
  · rename_i heq
    simp only [Prod.mk.injEq] at heq
    exact absurd heq.1 hr
  · rename_i heq
    simp only [Prod.mk.injEq] at heq
    rw [heq.1, heq.2]

/-- The second action does on mapped states what the first one does on states. -/
structure Mirrors (π : S → T) (a : Act S α) (b : Act T α) : Prop where
  run : ∀ s, b.run (π s) = ((a.run s).1, π (a.run s).2)

namespace Mirrors

variable {π : S → T} {a : Act S α} {b : Act T α}

theorem pure (x : α) : Mirrors π (pure x : Act S α) (pure x : Act T α) :=
  ⟨fun _ => rfl⟩

theorem fail (e : Fault) : Mirrors π (fail e : Act S α) (fail e : Act T α) :=
  ⟨fun _ => rfl⟩

theorem ofExcept (r : Except Fault α) : Mirrors π (ofExcept r : Act S α) (ofExcept r : Act T α) :=
  ⟨fun _ => rfl⟩

theorem modify {f : S → S} {g : T → T} (h : ∀ s, g (π s) = π (f s)) :
    Mirrors π (modify f) (modify g) := by
  constructor
  intro s
  simp [h]

theorem bind {f : α → Act S β} {g : α → Act T β} (ha : Mirrors π a b)
    (hf : ∀ x, Mirrors π (f x) (g x)) : Mirrors π (a >>= f) (b >>= g) := by
  constructor
  intro s
  rw [run_bind, run_bind, ha.run s]
  rcases a.run s with ⟨e | x, s'⟩
  · rfl
  · exact (hf x).run s'

/-- What follows on a look at the state may depend on it. -/
theorem get_bind {f : S → Act S β} {g : T → Act T β} (hf : ∀ s, Mirrors π (f s) (g (π s))) :
    Mirrors π (get >>= f) (get >>= g) :=
  ⟨fun s => (hf s).run s⟩

theorem attempt (ha : Mirrors π a b) : Mirrors π a.attempt b.attempt := by
  constructor
  intro s
  simp [ha.run s]

theorem caught (ha : Mirrors π a b) : Mirrors π a.caught b.caught := by
  constructor
  intro s
  rw [run_caught, run_caught, ha.run s]
  rcases a.run s with ⟨r, s'⟩
  by_cases hr : r = .error .interrupted
  · subst hr
    rfl
  · split
    · rename_i heq
      exact absurd (congrArg Prod.fst heq) hr
    · rename_i heq
      cases heq
      rfl

theorem ite {p : Prop} [Decidable p] {a' : Act S α} {b' : Act T α} (ha : Mirrors π a b)
    (ha' : Mirrors π a' b') : Mirrors π (if p then a else a') (if p then b else b') := by
  by_cases hp : p
  · simpa [hp] using ha
  · simpa [hp] using ha'

/-- What is done on a condition, before something else. -/
theorem iteBind {p : Prop} [Decidable p] {a : Act S PUnit} {b : Act T PUnit}
    {f : PUnit → Act S β} {g : PUnit → Act T β} (ha : Mirrors π a b)
    (hf : ∀ x, Mirrors π (f x) (g x)) :
    Mirrors π (if p then a >>= f else f ⟨⟩) (if p then b >>= g else g ⟨⟩) :=
  .ite (.bind ha hf) (hf ⟨⟩)

end Mirrors

end Act

end Mend
