import Mend.Scanner.Fetch
import Mend.Proofs.Fix.Mirror

/-!
# What a scan hears

The responses of a server, in the order in which they come. A server that writes its responses down
makes a scan do the same as without, so what is written down is what happened in the scan without it.

## Main definitions

* `Heard`, `Server.journaled` — a server that writes its responses down.
* `heardIn` — the responses that a scan hears.

## Main statements

* `run_fetchAll_eq` — writing the responses down changes nothing.
-/

namespace Mend

open Act

variable {σ τ : Type}

namespace Scanner

/-- What a server keeps for itself, and the responses that have come from it. -/
structure Heard (σ : Type) where
  own : σ
  responses : List Response := []

/-- The server that writes its responses down. -/
def Server.journaled (server : Server σ) : Server (Heard σ) where
  refusal? := server.refusal?
  answer a q h :=
    let (response, own) := server.answer a q h.own
    (response, ⟨own, h.responses ++ [response]⟩)

end Scanner

/-- The world in which no response is written down yet. -/
def World.hearing (w : World σ) : World (Scanner.Heard σ) := w.mapExtra fun own => ⟨own, []⟩

/-- The responses that are written down. -/
def World.heard (w : World (Scanner.Heard σ)) : List Scanner.Response := w.extra.responses

namespace Scanner

/-- The responses that a scan hears. -/
def heardIn (server : Server σ) (s : ScannerSettings) (selectors : Selectors) (w : World σ) :
    List Response :=
  ((fetchAll server.journaled s selectors).run w.hearing).2.heard

/-! ## Servers that do the same -/

section Mirrors

variable {g : σ → τ} {server : Server σ} {server' : Server τ}

/-- The second server answers like the first one and keeps the image of what that keeps. -/
structure Server.Mirrors (g : σ → τ) (server : Server σ) (server' : Server τ) : Prop where
  refusal : ∀ a, server'.refusal? a = server.refusal? a
  answer : ∀ a q own,
    server'.answer a q (g own) = ((server.answer a q own).1, g (server.answer a q own).2)

theorem mirrors_say (level : Log.Level) (parts : List Text) :
    Mirrors (World.mapExtra g) (World.say level parts) (World.say level parts) :=
  ⟨fun _ => rfl⟩

theorem mirrors_ask (h : Server.Mirrors g server server') (a : Access) (q : Question) :
    Mirrors (World.mapExtra g) (server.ask a q) (server'.ask a q) := by
  constructor
  intro w
  simp only [Server.ask, Act.run, World.mapExtra, h.answer a q w.extra]

theorem mirrors_get (h : Server.Mirrors g server server') (c : Client) (resource : Text)
    (fields : Option (List (Text × Value))) :
    Mirrors (World.mapExtra g) (c.get server resource fields) (c.get server' resource fields) := by
  refine .bind (mirrors_ask h ..) fun response => ?_
  cases response with
  | reply reply => exact .pure _
  | _ => exact .fail _

theorem mirrors_unlessDown {α : Type} {a : Act (World σ) α} {b : Act (World τ) α}
    (h : Act.Mirrors (World.mapExtra g) a b) :
    Act.Mirrors (World.mapExtra g) (unlessDown a) (unlessDown b) := by
  refine .bind h.attempt fun r => ?_
  split
  · exact .pure _
  · exact .pure _
  · exact .fail _

theorem mirrors_connection (h : Server.Mirrors g server server') (c : Client) :
    Mirrors (World.mapExtra g) (c.connection server) (c.connection server') := by
  have hstatus : Mirrors (World.mapExtra g) (c.systemStatus server) (c.systemStatus server') :=
    .bind (mirrors_get h ..) fun a => .ite (.fail _) (.ofExcept _)
  have haccepted : Mirrors (World.mapExtra g) (c.isAccepted server) (c.isAccepted server') :=
    .bind (mirrors_get h ..) fun a => .ite (.pure _) (.bind (.ofExcept _) fun d => .pure _)
  refine .bind (mirrors_unlessDown hstatus) fun r => ?_
  cases r with
  | error reason => exact .pure _
  | ok d =>
      refine .ite (.bind (mirrors_unlessDown haccepted) fun r => ?_) (.pure _)
      split <;> exact .pure _

theorem mirrors_preflight (h : Server.Mirrors g server server') (c : Client) :
    Mirrors (World.mapExtra g) (c.preflight server) (c.preflight server') := by
  have hproject (key : Text) : Mirrors (World.mapExtra g) (c.project server key)
      (c.project server' key) := by
    refine .bind (mirrors_get h ..) fun a => .ite ?_ ?_
    · exact .bind (.ofExcept _) fun d => .bind (.ofExcept _) fun name => .pure _
    · exact .ite (.pure _) (.ite (.pure _) (.ite (.pure _) (.pure _)))
  refine .bind (mirrors_connection h c) fun r => ?_
  cases r with
  | down version reason => exact .fail _
  | refused version => exact .fail _
  | up version =>
      refine .bind (mirrors_say ..) fun _ => .bind (hproject _) fun standing => ?_
      cases standing with
      | found name => exact .bind (mirrors_say ..) fun _ => .pure _
      | _ => exact .fail _

theorem mirrors_counted (h : Server.Mirrors g server server') (c : Client) (q : Query) (page : Int)
    (withFacets : Bool) :
    Mirrors (World.mapExtra g) (c.counted server q page withFacets)
      (c.counted server' q page withFacets) := by
  refine .bind (.modify fun _ => rfl) fun _ => .bind (mirrors_get h ..) fun a => ?_
  refine .ite (.fail _) (.ite (.fail _) (.ite (.fail _) ?_))
  split
  · exact .fail _
  · exact .ofExcept _

variable {search : Search σ} {search' : Search τ}

theorem mirrors_issuesOf (components : List (Value × Value)) (vs : List Value) :
    Mirrors (World.mapExtra g) (issuesOf components vs) (issuesOf components vs) := by
  induction vs with
  | nil => exact .pure _
  | cons v rest ih =>
      refine .bind (.bind (.ofExcept _) fun key => .bind (.ofExcept _) fun kind? => ?_) fun issue? =>
        .bind ih fun issues => .pure _
      cases kind? with
      | none => exact .bind (mirrors_say ..) fun _ => .pure _
      | some kind =>
          refine .bind (.ofExcept _) fun lines => .bind (.ofExcept _) fun component => ?_
          refine .bind (.ofExcept _) fun filePath => .iteBind (mirrors_say ..) fun _ => ?_
          exact .bind (.ofExcept _) fun issue => .pure _

theorem mirrors_gather (limit : Nat) (found : List Issue) (p : Page) :
    Mirrors (World.mapExtra g) (gather limit found p) (gather limit found p) :=
  .bind (.ofExcept _) fun _ => .bind (mirrors_issuesOf ..) fun _ => .pure _

theorem mirrors_eachPage
    (h : ∀ q page withFacets, Mirrors (World.mapExtra g) (search q page withFacets)
      (search' q page withFacets)) (q : Query) (pageLimit limit left number : Nat)
    (known : Option Page) (found : List Issue) :
    Mirrors (World.mapExtra g) (eachPage search q pageLimit (gather limit) left number known found)
      (eachPage search' q pageLimit (gather limit) left number known found) := by
  induction left generalizing number known found with
  | zero => exact .bind (mirrors_say ..) fun _ => .pure _
  | succ left ih =>
      have hpage : Mirrors (World.mapExtra g) (pageUnlessKnown search q number known)
          (pageUnlessKnown search' q number known) := by
        cases known with
        | none => exact h ..
        | some p => exact .pure _
      refine .bind hpage fun page => .bind (mirrors_gather ..) fun found' => .ite (.pure _) ?_
      exact .bind (.ofExcept _) fun size => .ite (.pure _) (ih _ none _)

theorem mirrors_narrowed
    (h : ∀ q page withFacets, Mirrors (World.mapExtra g) (search q page withFacets)
      (search' q page withFacets)) (q : Query) (pageLimit limit : Nat) (facets : Option Facets)
    (severities : List Severity) (found : List Issue) :
    Mirrors (World.mapExtra g) (narrowed search q pageLimit limit facets severities found)
      (narrowed search' q pageLimit limit facets severities found) := by
  induction severities generalizing found with
  | nil => exact .pure _
  | cons s rest ih =>
      refine .ite (.pure _) (.ite (ih found) (.bind (.bind (mirrors_eachPage h ..) fun _ => .pure _)
        fun batch => .bind (mirrors_say ..) fun _ => ih _))

theorem mirrors_fetch
    (h : ∀ q page withFacets, Mirrors (World.mapExtra g) (search q page withFacets)
      (search' q page withFacets)) (s : ScannerSettings) (selectors : Selectors) :
    Mirrors (World.mapExtra g) (fetch search s selectors) (fetch search' s selectors) := by
  refine .bind (h ..) fun first => .bind (.ofExcept _) fun cap => .bind (mirrors_say ..) fun _ =>
    .bind (.ite ?_ ?_) fun issues => ?_
  · exact .bind (mirrors_eachPage h ..) fun _ => .pure _
  · exact .bind (mirrors_say ..) fun _ => mirrors_narrowed h ..
  · exact .iteBind (mirrors_say ..) fun _ => .pure _

/-- A scan of a server that does the same gives the same. -/
theorem mirrors_fetchAll (h : Server.Mirrors g server server') (s : ScannerSettings)
    (selectors : Selectors) :
    Mirrors (World.mapExtra g) (fetchAll server s selectors) (fetchAll server' s selectors) := by
  rw [fetchAll, fetchAll, Client.make, Client.make, h.refusal]
  exact .bind (.ofExcept _) fun c => .bind (mirrors_preflight h c) fun _ =>
    mirrors_fetch (mirrors_counted h c) s selectors

end Mirrors

/-- Writing the responses down changes nothing. -/
theorem run_fetchAll_eq (server : Server σ) (s : ScannerSettings) (selectors : Selectors)
    (w : World σ) :
    (fetchAll server s selectors).run w =
      (((fetchAll server.journaled s selectors).run w.hearing).1,
        ((fetchAll server.journaled s selectors).run w.hearing).2.mapExtra Heard.own) := by
  have hsame : Server.Mirrors Heard.own server.journaled server := ⟨fun _ => rfl, fun _ _ _ => rfl⟩
  exact (mirrors_fetchAll hsame s selectors).run w.hearing

end Scanner

end Mend
