import Mend.Plan.Basic
import Mend.Proofs.Json.Reading

/-!
# Legible plans

Which documents can be read as plans. Nothing in an issue must be there but its key, its category and
its severity; what else is there must be what it is taken for: names must be known, numbers must stand
for whole ones that are not negative, groups and facets must be objects, and collections collections.

## Main definitions

* `Fault.isOfContents` — the faults of documents that are no plans.
* `Issue.Legible`, `Facets.Legible`, `Plan.Legible` — documents that can be read as issues, as facets
  and as plans.

## Main statements

* `Issue.reads_ofValue`, `Facets.reads_ofValue`, `Plan.reads_ofValue` — a document is read just if it is
  legible.
-/

namespace Mend

/-- Whether a fault means that a document is not one of a plan: some value is not as it was expected,
a name is unknown, or a number is negative. -/
def Fault.isOfContents : Fault → Bool
  | .badDocument _ => false
  | .notOneOf .. | .negativeEffort _ => true
  | e => e.isOfForm

variable {α β : Type}

/-- A reading of a part of a plan comes to a result just if it is legible, and else ends with a fault of
contents. -/
abbrev ReadsPart (legible : Prop) (r : Except Fault α) : Prop := ReadsOr Fault.isOfContents legible r

/-- A reading of what is a document already. -/
theorem Reads.part {legible : Prop} {r : Except Fault α} (h : Reads legible r)
    (hdocument : ∀ f, r ≠ .error (.badDocument f)) : ReadsPart legible r := by
  cases r with
  | ok x => exact h
  | error e =>
      refine ⟨h.1, ?_⟩
      cases e with
      | badDocument f => exact absurd rfl (hdocument f)
      | notOneOf | negativeEffort => rfl
      | _ => exact h.2

namespace Value

theorem part_getD (v : Value) (name : Text) (other : Value) :
    ReadsPart v.IsObject (v.getD name other) :=
  (reads_getD v name other).part fun _ h => by cases v <;> cases h

theorem part_require (v : Value) (name : Text) :
    ReadsPart (∃ w, v.field? name = some w) (v.require name) := by
  refine (reads_require v name).part fun f h => ?_
  by_cases hv : v.IsObject
  · rw [require_of_isObject hv] at h
    split at h <;> cases h
  · obtain ⟨message, hfault⟩ := require_of_not_isObject hv name
    rw [hfault] at h
    cases h

theorem part_asInt (v : Value) : ReadsPart (∃ n, v.StandsFor n) v.asInt :=
  (reads_asInt v).part fun _ h => by cases hasNoInt_of_asInt h

theorem part_elements (v : Value) : ReadsPart (∃ vs, v.elements = .ok vs) v.elements :=
  (reads_elements v).part fun _ h => by cases v <;> cases h

theorem part_members (v : Value) :
    ReadsPart (∃ vs, v.elements = .ok vs ∧ ∀ w ∈ vs, w.isAtomic = true) v.members := by
  refine (reads_members v).part fun f h => ?_
  unfold members at h
  cases helements : v.elements with
  | error e =>
      rw [helements] at h
      obtain rfl := Except.error.inj h
      cases v <;> cases helements
  | ok vs =>
      rw [helements, ok_bind] at h
      split at h <;> cases h

/-- Only an object has fields to go through. -/
theorem part_fields (v : Value) (operation : Text) :
    ReadsPart (∃ fields, v = .obj fields) (v.fields operation) := by
  cases v with
  | obj fields => exact ⟨fields, rfl⟩
  | _ => exact ⟨fun ⟨_, h⟩ => (by cases h), rfl⟩

theorem eq_of_fields {v : Value} {operation : Text} {fields : List (Text × Value)}
    (h : v.fields operation = .ok fields) : v = .obj fields := by
  cases v with
  | obj fields' => rw [Except.ok.inj h]
  | _ => cases h

end Value

/-! ## Issues -/

/-- Documents that can be read as issues. -/
structure Issue.Legible (v : Value) : Prop where
  key : ∃ w, v.field? "key" = some w
  category : ∃ w c, v.field? "type" = some w ∧ Category.read w = .ok c
  severity : ∃ w s, v.field? "severity" = some w ∧ Severity.read w = .ok s
  lineStart : ∃ n : Nat, (v.fieldOr "line_start" (.nat 0)).StandsFor n
  lineEnd : ∃ n : Nat, (v.fieldOr "line_end" (.nat 0)).StandsFor n
  effort : ∃ n : Nat, (v.fieldOr "effort_minutes" (.nat Effort.defaultMinutes)).StandsFor n
  tags : ∃ ts, (v.fieldOr "tags" (.list [])).elements = .ok ts ∧ ∀ t ∈ ts, t.isAtomic = true

/-- Collections of documents that can all be read as issues. -/
def Issue.AllLegible (v : Value) : Prop := ∃ vs, v.elements = .ok vs ∧ ∀ w ∈ vs, Legible w

/-- A name is read just if it is one of the closed list. -/
theorem ReadsNames.reads {read : Value → Except Fault α} (h : ReadsNames read) (w : Value) :
    ReadsPart (∃ a, read w = .ok a) (read w) := by
  by_cases htext : w.IsText
  · obtain ⟨t, rfl⟩ := htext
    rcases h.text t with ⟨a, ha⟩ | ⟨what, name, hunknown⟩
    · rw [ha]
      exact ⟨a, rfl⟩
    · rw [hunknown]
      exact ⟨fun ⟨_, ha⟩ => (by cases ha), rfl⟩
  · obtain ⟨kind, operation, hfault⟩ := h.other w htext
    rw [hfault]
    exact ⟨fun ⟨_, ha⟩ => (by cases ha), rfl⟩

/-- A field that must be there and hold a name, and what is done with what it names. -/
theorem ReadsNames.reads_bind {read : Value → Except Fault α} {legible : Prop}
    {f : α → Except Fault β} (h : ReadsNames read) {v : Value} {name : Text}
    (hpart : legible → ∃ w a, v.field? name = some w ∧ read w = .ok a)
    (hf : ∀ w a, v.field? name = some w → read w = .ok a → ReadsPart legible (f a)) :
    ReadsPart legible (v.require name >>= fun w => read w >>= f) := by
  refine (Value.part_require v name).bind (fun hlegible => ?_) fun w hw => ?_
  · obtain ⟨w, -, hw, -⟩ := hpart hlegible
    exact ⟨w, hw⟩
  have hfield := Value.field?_of_require hw
  refine (h.reads w).bind (fun hlegible => ?_) fun a ha => hf w a hfield ha
  obtain ⟨w', a, hw', ha⟩ := hpart hlegible
  obtain rfl := Option.some.inj (hfield.symm.trans hw')
  exact ⟨a, ha⟩

/-- An issue is made of numbers that are not negative. -/
theorem Issue.reads_make (d : Draft) :
    ReadsPart (0 ≤ d.effort ∧ 0 ≤ d.lineStart ∧ 0 ≤ d.lineEnd) (make d) := by
  unfold make
  split
  · exact ⟨fun h => absurd h.1 (by omega), rfl⟩
  · split
    · rename_i hlines
      rw [Bool.or_eq_true, decide_eq_true_eq, decide_eq_true_eq] at hlines
      exact ⟨fun h => by omega, rfl⟩
    · rename_i heffort hlines
      rw [Bool.or_eq_true, decide_eq_true_eq, decide_eq_true_eq] at hlines
      show _ ∧ _ ∧ _
      omega

theorem Value.StandsFor.nat_iff {v : Value} {n : Int} (h : v.StandsFor n) :
    (∃ m : Nat, v.StandsFor m) ↔ 0 ≤ n := by
  constructor
  · rintro ⟨m, hm⟩
    rw [h.unique hm]
    exact Int.natCast_nonneg m
  · intro hn
    exact ⟨n.toNat, by rwa [Int.toNat_of_nonneg hn]⟩

/-- A document is read as an issue just if it is legible. -/
theorem Issue.reads_ofValue (v : Value) : ReadsPart (Legible v) (ofValue v) := by
  unfold ofValue
  refine (Value.part_require v "key").bind Legible.key fun key hkey => ?_
  have hkey := Value.field?_of_require hkey
  have hv : v.IsObject := by
    cases v with
    | obj fields => exact ⟨fields, rfl⟩
    | _ => cases hkey
  simp only [Value.getD_of_isObject hv, ok_bind]
  refine Category.readsNames.reads_bind Legible.category fun w c hw hc => ?_
  refine Severity.readsNames.reads_bind Legible.severity fun w' s hw' hs => ?_
  refine (Value.part_asInt _).bind (fun h => h.lineStart.imp' _ fun _ => id) fun first hfirst => ?_
  refine (Value.part_asInt _).bind (fun h => h.lineEnd.imp' _ fun _ => id) fun last hlast => ?_
  refine (Value.part_asInt _).bind (fun h => h.effort.imp' _ fun _ => id) fun effort heffort => ?_
  refine (Value.part_members _).bind Legible.tags fun tags htags => ?_
  have hfirst := (Value.standsFor_of_asInt hfirst).nat_iff
  have hlast := (Value.standsFor_of_asInt hlast).nat_iff
  have heffort := (Value.standsFor_of_asInt heffort).nat_iff
  refine (reads_make _).congr ⟨fun ⟨heffort', hfirst', hlast'⟩ => ?_, fun h => ?_⟩
  · exact ⟨⟨key, hkey⟩, ⟨w, c, hw, hc⟩, ⟨w', s, hw', hs⟩, hfirst.2 hfirst', hlast.2 hlast',
      heffort.2 heffort', (Value.reads_members _).of_ok htags⟩
  · exact ⟨heffort.1 h.effort, hfirst.1 h.lineStart, hlast.1 h.lineEnd⟩

/-- A collection of documents is read as issues just if all of them are legible. -/
theorem Plan.reads_issuesOf (v : Value) : ReadsPart (Issue.AllLegible v) (issuesOf v) := by
  unfold issuesOf
  refine (Value.part_elements v).bind (fun ⟨vs, hvs, _⟩ => ⟨vs, hvs⟩) fun vs hvs => ?_
  refine (ReadsOr.mapM fun w _ => Issue.reads_ofValue w).congr
    ⟨fun h => ⟨vs, hvs, h⟩, fun ⟨ws, hws, h⟩ => ?_⟩
  obtain rfl := Except.ok.inj (hvs.symm.trans hws)
  exact h

/-! ## Facets -/

/-- Objects whose fields are counts under names of a closed list. -/
def LegibleCounts (parse : Text → Except Fault α) (v : Value) : Prop :=
  ∃ fields, v = .obj fields ∧ ∀ f ∈ fields, (∃ a, parse f.1 = .ok a) ∧ ∃ n, f.2.StandsFor n

/-- Documents that can be read as facets. -/
structure Facets.Legible (v : Value) : Prop where
  object : v.IsObject
  byCategory : LegibleCounts Category.parse (v.fieldOr "types" (.obj []))
  bySeverity : LegibleCounts Severity.parse (v.fieldOr "severities" (.obj []))

namespace Facets

/-- Counts are read just if each one is a number, under a known name. -/
theorem reads_tallyOf [BEq α] {parse : Text → Except Fault α}
    (hparse : ∀ t, ReadsPart (∃ a, parse t = .ok a) (parse t)) (v : Value) :
    ReadsPart (LegibleCounts parse v) (tallyOf parse v) := by
  unfold tallyOf
  refine (Value.part_fields v "items").bind (fun ⟨fields, hv, _⟩ => ⟨fields, hv⟩)
    fun fields hfields => ?_
  obtain rfl := Value.eq_of_fields hfields
  refine (ReadsOr.foldlM (fun f _ tally => ?_) []).congr
    ⟨fun h => ⟨fields, rfl, h⟩, fun ⟨_, hv, h⟩ => Value.obj.inj hv ▸ h⟩
  obtain ⟨name, n⟩ := f
  refine (hparse name).bind And.left fun a ha => ?_
  exact ((Value.part_asInt n).map).congr ⟨fun hn => ⟨⟨a, ha⟩, hn⟩, And.right⟩

theorem reads_ofValue (v : Value) : ReadsPart (Legible v) (ofValue v) := by
  have hcategory (t : Text) := Category.readsNames.reads (.text t)
  have hseverity (t : Text) := Severity.readsNames.reads (.text t)
  unfold ofValue
  refine (Value.part_getD ..).bind Legible.object fun types htypes => ?_
  obtain ⟨hv, rfl⟩ := Value.isObject_of_getD htypes
  refine (reads_tallyOf hcategory _).bind Legible.byCategory fun byCategory hbyCategory => ?_
  rw [Value.getD_of_isObject hv, ok_bind]
  exact ((reads_tallyOf hseverity _).map).congr
    ⟨fun h => ⟨hv, (reads_tallyOf hcategory _).of_ok hbyCategory, h⟩, Legible.bySeverity⟩

end Facets

/-! ## Plans -/

namespace Plan

/-- Documents that can be read as plans. -/
structure Legible (v : Value) : Prop where
  object : v.IsObject
  groups : ∃ fields, v.fieldOr "issues_by_file" (.obj []) = .obj fields ∧
    ∀ f ∈ fields, Issue.AllLegible f.2
  unlocatable : Issue.AllLegible (v.fieldOr "unlocatable" (.list []))
  facets : Facets.Legible (v.fieldOr "facets" (.obj []))
  effort : ∃ n, (v.fieldOr "total_effort_minutes" (.nat 0)).StandsFor n

/-- A document is read as a plan just if it is legible. -/
theorem reads_ofValue (v : Value) : ReadsPart (Legible v) (ofValue v) := by
  unfold ofValue
  refine (Value.part_getD ..).bind Legible.object fun groups hgroups => ?_
  obtain ⟨hv, rfl⟩ := Value.isObject_of_getD hgroups
  simp only [Value.getD_of_isObject hv, ok_bind]
  refine (Value.part_fields _ "items").bind (fun h => ?_) fun fields hfields => ?_
  · obtain ⟨fields, hfields, -⟩ := h.groups
    exact ⟨fields, hfields⟩
  have hfields := Value.eq_of_fields hfields
  have hgroups : ReadsPart (∀ f ∈ fields, Issue.AllLegible f.2)
      (fields.mapM fun f => do return FileGroup.mk f.1 (← issuesOf f.2)) :=
    .mapM fun f _ => (reads_issuesOf f.2).map
  refine hgroups.bind (fun h => ?_) fun groups hread => ?_
  · obtain ⟨fields', hfields', h⟩ := h.groups
    exact Value.obj.inj (hfields.symm.trans hfields') ▸ h
  have hgroups := hgroups.of_ok hread
  refine (reads_issuesOf _).bind Legible.unlocatable fun unlocatable hunlocatable => ?_
  refine (Facets.reads_ofValue _).bind Legible.facets fun facets hfacets => ?_
  refine (Value.part_asInt _).bind Legible.effort fun effort heffort => ?_
  exact ⟨hv, ⟨fields, hfields, hgroups⟩, (reads_issuesOf _).of_ok hunlocatable,
    (Facets.reads_ofValue _).of_ok hfacets, effort, Value.standsFor_of_asInt heffort⟩

end Plan

end Mend
