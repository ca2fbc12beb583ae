import Mend.Proofs.Fix.Views

/-!
# Requests to stop

Somebody may ask a run to stop before it begins, or while a collaborator is at work. Nobody on the way
takes such a request back. The file in whose turn it comes is worked on to its end, and no file is
started behind it.

## Main definitions

* `Fix.Workshop.NeverWithdraws` — collaborators that take no request to stop back.
* `Fix.Workshop.watched` — the workshop in which it is noted whether a request was there after a call.
* `Fix.Visit.IsAsked` — whether a request to stop comes while a file is worked on.
-/

namespace Mend.Fix

variable {σ : Type}

open Fixer

/-- No collaborator takes a request to stop back. -/
structure Workshop.NeverWithdraws (w : Workshop σ) : Prop where
  drafter : ∀ r s, s.cancelled = true → ((w.drafter r).run s).2.cancelled = true
  compile : ∀ p s, s.cancelled = true → ((w.validator.compile p).run s).2.cancelled = true

/-- What collaborators keep for themselves, and whether a request to stop was there when one of them
was done. -/
structure Watched (σ : Type) where
  own : σ
  asked : Bool := false

/-- A call after which it is noted whether a request to stop is there. -/
def watched {α : Type} (a : Act (World σ) α) : Act (World (Watched σ)) α := fun s =>
  match a.run (s.mapExtra Watched.own) with
  | (r, s') => (r, s'.mapExtra fun own => ⟨own, s.extra.asked || s'.cancelled⟩)

/-- The workshop in which it is noted whether a request to stop was there after a call. -/
def Workshop.watched (w : Workshop σ) : Workshop (Watched σ) where
  projectDir := w.projectDir
  drafter r := Fix.watched (w.drafter r)
  validator := ⟨fun p => Fix.watched (w.validator.compile p),
    fun p => Fix.watched (w.validator.test p)⟩
  settings := w.settings

/-- Whether a request to stop comes while a file is worked on: it is there after a call. -/
def Visit.IsAsked (w : Workshop σ) (v : Visit σ) : Prop :=
  ((fixFile w.watched v.group.path v.group.issues).run
    (v.before.mapExtra fun own => ⟨own, false⟩)).2.world.extra.asked = true

instance (w : Workshop σ) (v : Visit σ) : Decidable (v.IsAsked w) :=
  inferInstanceAs (Decidable (_ = true))

theorem mirrors_watched {α : Type} (a : Act (World σ) α) :
    Act.Mirrors (World.mapExtra Watched.own) (watched a) a := ⟨fun _ => rfl⟩

/-- A workshop does the same when it is watched. -/
theorem mirrors_own_watched (w : Workshop σ) : w.watched.Mirrors Watched.own w where
  projectDir := rfl
  settings := rfl
  drafter _ := mirrors_watched _
  compile _ := mirrors_watched _
  test _ := mirrors_watched _

/-- What becomes of a request to stop on the way from one world to another: it stays, and it is noted
just if it comes on the way. -/
structure Told (s s' : World (Watched σ)) : Prop where
  stays : s.cancelled = true → s'.cancelled = true
  noted : s.extra.asked = true → s'.extra.asked = true
  cancelled_of_asked : s'.extra.asked = true → s.extra.asked = true ∨ s'.cancelled = true
  asked_of_cancelled : s'.cancelled = true → s.cancelled = true ∨ s'.extra.asked = true

theorem Told.trans {s s' s'' : World (Watched σ)} (h : Told s s') (h' : Told s' s'') : Told s s'' where
  stays hs := h'.stays (h.stays hs)
  noted hs := h'.noted (h.noted hs)
  cancelled_of_asked hs := by
    rcases h'.cancelled_of_asked hs with hs | hs
    · exact (h.cancelled_of_asked hs).imp_right h'.stays
    · exact .inr hs
  asked_of_cancelled hs := by
    rcases h'.asked_of_cancelled hs with hs | hs
    · exact (h.asked_of_cancelled hs).imp_right h'.noted
    · exact .inr hs

theorem told_watched {α : Type} {a : Act (World σ) α}
    (ha : ∀ s, s.cancelled = true → (a.run s).2.cancelled = true) (s : World (Watched σ)) :
    Told s ((watched a).run s).2 := by
  have hasked : ((watched a).run s).2.extra.asked =
      (s.extra.asked || ((watched a).run s).2.cancelled) := rfl
  refine ⟨ha (s.mapExtra Watched.own), fun hs => ?_, fun hs => ?_, fun hs => ?_⟩
  · rw [hasked, hs, Bool.true_or]
  · rwa [hasked, Bool.or_eq_true] at hs
  · exact .inr (by rw [hasked, hs, Bool.or_true])

theorem respects_told {w : Workshop σ} (hstop : w.NeverWithdraws) (p : Path) :
    w.watched.Respects p Told where
  trans := Told.trans
  touched h := by
    refine ⟨fun hs => ?_, fun hs => ?_, fun hs => ?_, fun hs => ?_⟩
    · rwa [h.cancelled]
    · rwa [h.extra]
    · exact .inl (h.extra ▸ hs)
    · exact .inl (h.cancelled ▸ hs)
  drafter r := told_watched (hstop.drafter r)
  compile := told_watched (hstop.compile _)

/-- A request to stop that comes while a file is worked on is there at the end. -/
theorem Visit.isAsked_iff {w : Workshop σ} (hstop : w.NeverWithdraws) {v : Visit σ}
    (hv : v.before.world.cancelled = false) :
    v.IsAsked w ↔ (v.run w).2.world.cancelled = true := by
  have hfixed := fixed_fixFile w.watched v.group.path v.group.issues
    (v.before.mapExtra fun own => ⟨own, false⟩)
  have htold := (respects_told hstop _).fixed hfixed rfl
  have hown := ((mirrors_own_watched w).fixFile v.group.path v.group.issues).run
    (v.before.mapExtra fun own => ⟨own, false⟩)
  have hcancelled : (v.run w).2.world.cancelled =
      ((fixFile w.watched v.group.path v.group.issues).run
        (v.before.mapExtra fun own => ⟨own, false⟩)).2.world.cancelled :=
    congrArg (·.2.world.cancelled) hown
  rw [IsAsked, hcancelled]
  constructor
  · intro hasked
    refine (htold.cancelled_of_asked hasked).resolve_left ?_
    simp [Fixer.mapExtra, Held.mapExtra, World.mapExtra]
  · intro hc
    refine (htold.asked_of_cancelled hc).resolve_left ?_
    simpa [Fixer.mapExtra, Held.mapExtra, World.mapExtra] using hv

/-! ## The last file -/

section

variable {w : Workshop σ} {total number : Nat} {groups : List FileGroup} {f : Fixer σ}
  {earlier later : List (Visit σ)} {v : Visit σ}

theorem visitsFrom_of_cancelled (hc : f.world.cancelled = true) :
    visitsFrom w total number groups f = [] := by
  cases groups with
  | nil => rfl
  | cons g rest => exact visitsFrom_stopped hc

/-- The first file is started if no request to stop is there, and the others behind it. -/
theorem visitsFrom_cons (w : Workshop σ) (total number : Nat) (groups : List FileGroup)
    (g : FileGroup) {f : Fixer σ} (hc : f.world.cancelled = false) :
    ∃ vs, visitsFrom w total number (g :: groups) f = ⟨g, f.announced total number g⟩ :: vs ∧
      (vs = [] ∨ vs = visitsFrom w total (number + 1) groups
        (Visit.run w ⟨g, f.announced total number g⟩).2) := by
  rcases hv : Visit.run w ⟨g, f.announced total number g⟩ with ⟨e | result, f'⟩
  · exact ⟨[], visitsFrom_broken hc hv, .inl rfl⟩
  · exact ⟨_, visitsFrom_next hc hv, .inr rfl⟩

/-- No file is started when a request to stop is there, and none is started behind one that leaves such
a request. -/
theorem visitsFrom_eq_append (h : visitsFrom w total number groups f = earlier ++ v :: later) :
    v.before.world.cancelled = false ∧ ((v.run w).2.world.cancelled = true → later = []) := by
  induction groups generalizing number f earlier with
  | nil => simp [visitsFrom] at h
  | cons g rest ih =>
      cases hc : f.world.cancelled with
      | true => simp [visitsFrom_stopped hc] at h
      | false =>
          obtain ⟨vs, hvs, hrest⟩ := visitsFrom_cons w total number rest g hc
          rw [hvs] at h
          cases earlier with
          | nil =>
              obtain ⟨rfl, rfl⟩ := List.cons.inj h
              refine ⟨hc, fun hleft => ?_⟩
              rcases hrest with hrest | hrest
              · exact hrest
              · exact hrest.trans (visitsFrom_of_cancelled hleft)
          | cons u earlier =>
              obtain ⟨-, htail⟩ := List.cons.inj h
              rcases hrest with rfl | rfl
              · simp at htail
              · exact ih htail

end

section

variable {w : Workshop σ} {plan : Plan} {keys : Option (List Value)} {f : Fixer σ}
  {earlier later : List (Visit σ)} {v : Visit σ}

theorem visits_eq_append (h : visits w plan keys f = earlier ++ v :: later) :
    v.before.world.cancelled = false ∧ ((v.run w).2.world.cancelled = true → later = []) := by
  rw [visits] at h
  split at h
  · exact visitsFrom_eq_append h
  · simp at h

/-- A file in whose turn a request to stop comes is the last one. -/
theorem later_eq_nil_of_isAsked (hstop : w.NeverWithdraws)
    (h : visits w plan keys f = earlier ++ v :: later) (hv : v.IsAsked w) : later = [] := by
  obtain ⟨hbefore, hlast⟩ := visits_eq_append h
  exact hlast ((Visit.isAsked_iff hstop hbefore).1 hv)

/-- A run that is asked to stop before it begins starts no file. -/
theorem visits_of_cancelled (hc : f.world.cancelled = true) : visits w plan keys f = [] := by
  have hquiet := quiet_run_select plan keys f
  rw [visits]
  split
  · rename_i s g hs
    rw [hs] at hquiet
    have hg : g.world.cancelled = f.world.cancelled := congrArg (·.cancelled) hquiet
    exact visitsFrom_of_cancelled (hg.trans hc)
  · rfl

end

end Mend.Fix
