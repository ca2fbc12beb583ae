import Mend.Fault

/-!
# Actions

An action changes a state and may fail. The state survives a failure: what was written before a
fault stays written.

## Main definitions

* `Act S α` — actions on a state `S` with results in `α`.
* `Act.fail`, `Act.attempt`, `Act.caught` — raising a fault, and seeing how an action ends.
-/

namespace Mend

/-- An action on a state: it ends with a result or a fault, and with a new state either way. -/
def Act (S α : Type) : Type := S → Except Fault α × S

namespace Act

variable {S α β : Type}

/-- How an action ends, and the state it leaves. -/
def run (a : Act S α) (s : S) : Except Fault α × S := a s

/-- The action that does nothing. -/
protected def pure (a : α) : Act S α := fun s => (.ok a, s)

/-- One action after another; a fault ends both. -/
protected def bind (a : Act S α) (f : α → Act S β) : Act S β := fun s =>
  match a s with
  | (.ok x, s') => f x s'
  | (.error e, s') => (.error e, s')

instance : Monad (Act S) where
  pure := Act.pure
  bind := Act.bind

/-- Ends with a fault. -/
def fail (e : Fault) : Act S α := fun s => (.error e, s)

/-- Ends as a value or a fault says. -/
def ofExcept (r : Except Fault α) : Act S α := fun s => (r, s)

/-- The state. -/
def get : Act S S := fun s => (.ok s, s)

/-- Changes the state. -/
def modify (f : S → S) : Act S Unit := fun s => (.ok (), f s)

/-- Does an action and tells how it ended, without failing itself. -/
def attempt (a : Act S α) : Act S (Except Fault α) := fun s =>
  match a s with
  | (r, s') => (.ok r, s')

/-- Does an action and tells how it ended. Only an interruption ends this action as well. -/
def caught (a : Act S α) : Act S (Except Fault α) := fun s =>
  match a s with
  | (.error .interrupted, s') => (.error .interrupted, s')
  | (r, s') => (.ok r, s')

/-- Does an action for each member of a list, in order, and collects the results. -/
def each (f : α → Act S β) : List α → Act S (List β)
  | [] => pure []
  | a :: rest => do
    let b ← f a
    let bs ← each f rest
    return b :: bs

@[simp] theorem run_pure (a : α) (s : S) : (pure a : Act S α).run s = (.ok a, s) := rfl

@[simp] theorem run_fail (e : Fault) (s : S) : (fail e : Act S α).run s = (.error e, s) := rfl

@[simp] theorem run_ofExcept (r : Except Fault α) (s : S) : (ofExcept r).run s = (r, s) := rfl

@[simp] theorem run_get (s : S) : (get : Act S S).run s = (.ok s, s) := rfl

@[simp] theorem run_modify (f : S → S) (s : S) : (modify f).run s = (.ok (), f s) := rfl

@[simp] theorem run_attempt (a : Act S α) (s : S) :
    a.attempt.run s = (.ok (a.run s).1, (a.run s).2) := rfl

theorem run_caught (a : Act S α) (s : S) :
    a.caught.run s =
      match a.run s with
      | (.error .interrupted, s') => (.error .interrupted, s')
      | (r, s') => (.ok r, s') := rfl

theorem run_bind (a : Act S α) (f : α → Act S β) (s : S) :
    (a >>= f).run s =
      match a.run s with
      | (.ok x, s') => (f x).run s'
      | (.error e, s') => (.error e, s') := rfl

theorem run_bind_ok {a : Act S α} {f : α → Act S β} {s s' : S} {x : α}
    (h : a.run s = (.ok x, s')) : (a >>= f).run s = (f x).run s' := by
  rw [run_bind, h]

theorem run_bind_error {a : Act S α} {f : α → Act S β} {s s' : S} {e : Fault}
    (h : a.run s = (.error e, s')) : (a >>= f).run s = (.error e, s') := by
  rw [run_bind, h]

end Act

end Mend
