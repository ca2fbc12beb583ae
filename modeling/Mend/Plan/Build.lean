import Mend.Plan.Basic
import Mend.World

/-!
# Making plans

A new plan is announced in the log, with its size. A total effort that takes more digits than a
numeral may have cannot be announced, and there is no plan.
-/

namespace Mend.Plan

variable {σ : Type}

/-- Makes the plan for a list of issues and tells the log about it. -/
def build (issues : List Issue) (facets : Option Facets) (usedRemote truncated : Bool) :
    Act (World σ) Plan := do
  let p := ofIssues issues facets usedRemote truncated
  World.tell p.warnings
  if Numeral.fits p.effort then
    World.tell [p.sizeLine]
    return p
  else Act.fail .numberTooLong

end Mend.Plan
