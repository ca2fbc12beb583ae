/-!
# Limits

A limit says how much of something to keep from its beginning. A negative limit counts from the end:
it says how much to leave out there.
-/

namespace Mend

/-- How many of `count` things a limit keeps. -/
def kept (limit : Int) (count : Nat) : Nat :=
  if limit < 0 then count - limit.natAbs else min limit.toNat count

/-- What a limit keeps of a list. -/
def firstOf {α : Type} (limit : Int) (l : List α) : List α := l.take (kept limit l.length)

@[simp] theorem kept_natCast (limit count : Nat) : kept limit count = min limit count := by
  unfold kept
  rw [if_neg (by omega)]
  simp

@[simp] theorem firstOf_natCast {α : Type} (limit : Nat) (l : List α) :
    firstOf (limit : Int) l = l.take limit := by
  rw [firstOf, kept_natCast, ← List.take_eq_take_min]

end Mend
