/-!
# Sums over lists

The sum of the values that a function has on the members of a list, in natural numbers and in
integers.

## Main definitions

* `countOver`, `sumOver` — sums of natural numbers and of integers.
-/

namespace Mend

variable {α : Type}

/-- The sum of the natural numbers that `f` gives for the members of a list. -/
def countOver (f : α → Nat) : List α → Nat
  | [] => 0
  | a :: as => f a + countOver f as

/-- The sum of the integers that `f` gives for the members of a list. -/
def sumOver (f : α → Int) : List α → Int
  | [] => 0
  | a :: as => f a + sumOver f as

@[simp] theorem countOver_nil (f : α → Nat) : countOver f [] = 0 := rfl

@[simp] theorem countOver_cons (f : α → Nat) (a : α) (as : List α) :
    countOver f (a :: as) = f a + countOver f as := rfl

@[simp] theorem countOver_append (f : α → Nat) (as bs : List α) :
    countOver f (as ++ bs) = countOver f as + countOver f bs := by
  induction as with
  | nil => simp
  | cons a as ih => simp [ih, Nat.add_assoc]

@[simp] theorem sumOver_nil (f : α → Int) : sumOver f [] = 0 := rfl

@[simp] theorem sumOver_cons (f : α → Int) (a : α) (as : List α) :
    sumOver f (a :: as) = f a + sumOver f as := rfl

@[simp] theorem sumOver_append (f : α → Int) (as bs : List α) :
    sumOver f (as ++ bs) = sumOver f as + sumOver f bs := by
  induction as with
  | nil => simp
  | cons a as ih => simp [ih, Int.add_assoc]

end Mend
