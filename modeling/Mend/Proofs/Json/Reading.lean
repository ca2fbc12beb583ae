import Mend.Issue.Effort
import Mend.Issue.Severity
import Mend.Proofs.Json.Records
import Mend.Proofs.Plan.Selection
import Mend.Proofs.Text.Trim

/-!
# Reading documents of any form

Which documents can be read, part by part. A reading comes to a result just on the documents that are
legible to it; on all others it ends with a fault of form, that is a fault which says that some value
is not as it was expected.

## Main definitions

* `Fault.isOfForm` — the faults of values that are not as they were expected.
* `ReadsOr`, `Reads` — readings that come to a result just on what is legible.
* `Value.StandsFor` — the whole number that a value stands for.

## Main statements

* `reads_asInt`, `reads_members`, `Effort.reads` — what is legible as a number, as a set and as an
  effort.
-/

namespace Mend

variable {α β : Type}

/-- Whether a fault means that a value is of another kind than expected, is missing, or is none that
the kind allows. -/
def Fault.isOfForm : Fault → Bool
  | .missingField _ | .notNumeral _ | .numeralTooLong _ | .undefinedNumber | .infiniteNumber
  | .wrongKind _ | .lacks .. | .negativeLines .. | .badDocument _ => true
  | _ => false

/-- A reading of something comes to a result just if it is legible, and else ends with one of the
faults that are expected. -/
def ReadsOr (expected : Fault → Bool) (legible : Prop) : Except Fault α → Prop
  | .ok _ => legible
  | .error e => ¬legible ∧ expected e = true

namespace ReadsOr

variable {expected : Fault → Bool} {legible part : Prop} {r : Except Fault α}

theorem congr (h : ReadsOr expected part r) (heq : part ↔ legible) : ReadsOr expected legible r := by
  rwa [← propext heq]

/-- What is legible has a result. -/
theorem exists_ok (h : ReadsOr expected legible r) (hlegible : legible) : ∃ x, r = .ok x := by
  cases r with
  | ok x => exact ⟨x, rfl⟩
  | error e => exact absurd hlegible h.1

theorem of_ok {x : α} (h : ReadsOr expected legible r) (hr : r = .ok x) : legible := by
  subst hr
  exact h

/-- A reading in two steps, of which the first one reads a part. -/
theorem bind {f : α → Except Fault β} (hr : ReadsOr expected part r) (hpart : legible → part)
    (hf : ∀ x, r = .ok x → ReadsOr expected legible (f x)) : ReadsOr expected legible (r >>= f) := by
  cases r with
  | ok x => exact hf x rfl
  | error e => exact ⟨fun h => hr.1 (hpart h), hr.2⟩

theorem map {f : α → β} (hr : ReadsOr expected legible r) : ReadsOr expected legible (f <$> r) := by
  cases r with
  | ok x => exact hr
  | error e => exact hr

/-- One value after the other is read; how it is read may depend on what was read before, but not
whether it can be. -/
theorem foldlM {γ : Type} {LegibleItem : γ → Prop} {f : α → γ → Except Fault α} {vs : List γ}
    (hf : ∀ v ∈ vs, ∀ a, ReadsOr expected (LegibleItem v) (f a v)) (a : α) :
    ReadsOr expected (∀ v ∈ vs, LegibleItem v) (vs.foldlM f a) := by
  induction vs generalizing a with
  | nil => exact fun v hv => absurd hv List.not_mem_nil
  | cons v rest ih =>
      have hv := hf v (List.mem_cons_self ..) a
      rw [List.foldlM_cons]
      refine hv.bind (fun h => h v (List.mem_cons_self ..)) fun b hb => ?_
      refine (ih (fun w hw => hf w (List.mem_cons_of_mem v hw)) b).congr ?_
      rw [List.forall_mem_cons, and_iff_right (hv.of_ok hb)]

/-- One value after the other is read by itself. -/
theorem mapM {γ : Type} {LegibleItem : γ → Prop} {f : γ → Except Fault α} {vs : List γ}
    (hf : ∀ v ∈ vs, ReadsOr expected (LegibleItem v) (f v)) :
    ReadsOr expected (∀ v ∈ vs, LegibleItem v) (vs.mapM f) := by
  induction vs with
  | nil => exact fun v hv => absurd hv List.not_mem_nil
  | cons v rest ih =>
      have hv := hf v (List.mem_cons_self ..)
      rw [List.mapM_cons]
      refine hv.bind (fun h => h v (List.mem_cons_self ..)) fun a ha => ?_
      refine (map (ih fun w hw => hf w (List.mem_cons_of_mem v hw))).congr ?_
      rw [List.forall_mem_cons, and_iff_right (hv.of_ok ha)]

end ReadsOr

/-- A reading of something comes to a result just if it is legible, and else ends with a fault of
form. -/
def Reads (legible : Prop) : Except Fault α → Prop
  | .ok _ => legible
  | .error e => ¬legible ∧ e.isOfForm = true

namespace Reads

variable {legible part : Prop} {r : Except Fault α}

theorem iff_readsOr : Reads legible r ↔ ReadsOr Fault.isOfForm legible r := by
  cases r <;> rfl

theorem congr (h : Reads part r) (heq : part ↔ legible) : Reads legible r := by
  rwa [← propext heq]

/-- What is legible has a result. -/
theorem exists_ok (h : Reads legible r) (hlegible : legible) : ∃ x, r = .ok x :=
  (iff_readsOr.1 h).exists_ok hlegible

theorem of_ok {x : α} (h : Reads legible r) (hr : r = .ok x) : legible :=
  (iff_readsOr.1 h).of_ok hr

/-- A reading in two steps, of which the first one reads a part. -/
theorem bind {f : α → Except Fault β} (hr : Reads part r) (hpart : legible → part)
    (hf : ∀ x, r = .ok x → Reads legible (f x)) : Reads legible (r >>= f) :=
  iff_readsOr.2 ((iff_readsOr.1 hr).bind hpart fun x hx => iff_readsOr.1 (hf x hx))

theorem map {f : α → β} (hr : Reads legible r) : Reads legible (f <$> r) :=
  iff_readsOr.2 (iff_readsOr.1 hr).map

/-- One value after the other is read; how it is read may depend on what was read before, but not
whether it can be. -/
theorem foldlM {γ : Type} {LegibleItem : γ → Prop} {f : α → γ → Except Fault α} {vs : List γ}
    (hf : ∀ v ∈ vs, ∀ a, Reads (LegibleItem v) (f a v)) (a : α) :
    Reads (∀ v ∈ vs, LegibleItem v) (vs.foldlM f a) :=
  iff_readsOr.2 (.foldlM (fun v hv b => iff_readsOr.1 (hf v hv b)) a)

end Reads

namespace Value

/-! ## Fields -/

/-- Whether a value is an object. -/
def IsObject (v : Value) : Prop := ∃ fields, v = .obj fields

/-- What an object has under a name, or another value. -/
def fieldOr (v : Value) (name : Text) (other : Value) : Value := (v.field? name).getD other

theorem getD_of_isObject {v : Value} (h : v.IsObject) (name : Text) (other : Value) :
    v.getD name other = .ok (v.fieldOr name other) := by
  obtain ⟨fields, rfl⟩ := h
  rfl

/-- Only an object has fields. -/
theorem reads_getD (v : Value) (name : Text) (other : Value) :
    Reads v.IsObject (v.getD name other) := by
  cases v with
  | obj fields => exact ⟨fields, rfl⟩
  | _ => exact ⟨fun ⟨_, h⟩ => (by cases h), rfl⟩

theorem isObject_of_getD {v w : Value} {name : Text} {other : Value}
    (h : v.getD name other = .ok w) : v.IsObject ∧ w = v.fieldOr name other := by
  have hobject := (reads_getD v name other).of_ok h
  rw [getD_of_isObject hobject] at h
  exact ⟨hobject, (Except.ok.inj h).symm⟩

/-- A field that must be there. -/
theorem require_of_isObject {v : Value} (h : v.IsObject) (name : Text) :
    v.require name = match v.field? name with
      | some w => .ok w
      | none => .error (.missingField name) := by
  obtain ⟨fields, rfl⟩ := h
  rw [field?]
  cases hlookup : fields.lookup name <;> simp only [require, hlookup]

theorem require_of_not_isObject {v : Value} (h : ¬v.IsObject) (name : Text) :
    ∃ message, v.require name = .error (.wrongKind message) := by
  cases v with
  | obj fields => exact absurd ⟨fields, rfl⟩ h
  | _ => exact ⟨_, rfl⟩

theorem reads_require (v : Value) (name : Text) :
    Reads (∃ w, v.field? name = some w) (v.require name) := by
  by_cases hv : v.IsObject
  · rw [require_of_isObject hv]
    cases hfield : v.field? name with
    | none => exact ⟨fun ⟨_, h⟩ => (by cases h), rfl⟩
    | some w => exact ⟨w, rfl⟩
  · obtain ⟨message, hfault⟩ := require_of_not_isObject hv name
    rw [hfault]
    refine ⟨?_, rfl⟩
    rintro ⟨w, hw⟩
    cases v with
    | obj fields => exact hv ⟨fields, rfl⟩
    | _ => cases hw

theorem field?_of_require {v w : Value} {name : Text} (h : v.require name = .ok w) :
    v.field? name = some w := by
  by_cases hv : v.IsObject
  · rw [require_of_isObject hv] at h
    split at h
    · rename_i hfield
      obtain rfl := Except.ok.inj h
      exact hfield
    · cases h
  · obtain ⟨message, hfault⟩ := require_of_not_isObject hv name
    rw [hfault] at h
    cases h

/-! ## Numbers -/

/-- The whole number that a value stands for. Truth values count as one and zero, a fraction is cut
off, and a text has to be a numeral. -/
inductive StandsFor : Value → Int → Prop
  | bool (b : Bool) : StandsFor (.bool b) (if b then 1 else 0)
  | whole (n : Int) : StandsFor (.num (.int n)) n
  | real {x : Float} (defined : x.isNaN = false) (finite : x.isInf = false) :
      StandsFor (.num (.real x)) (Real.truncated x)
  | text {t : Text} {n : Int} (h : Numeral.read t = .ok n) : StandsFor (.text t) n

theorem asInt_of_standsFor {v : Value} {n : Int} (h : v.StandsFor n) : v.asInt = .ok n := by
  cases h with
  | bool b => rfl
  | whole n => rfl
  | real hdefined hfinite =>
      rw [asInt, hdefined, hfinite]
      rfl
  | text h =>
      simp only [asInt, intOfText, h]

theorem standsFor_of_asInt {v : Value} {n : Int} (h : v.asInt = .ok n) : v.StandsFor n := by
  cases v with
  | bool b =>
      obtain rfl := Except.ok.inj h
      exact .bool b
  | num m =>
      cases m with
      | int m =>
          obtain rfl := Except.ok.inj h
          exact .whole m
      | real x =>
          rw [asInt] at h
          cases hdefined : x.isNaN with
          | true => rw [hdefined] at h; cases h
          | false =>
              cases hfinite : x.isInf with
              | true => rw [hdefined, hfinite] at h; cases h
              | false =>
                  rw [hdefined, hfinite] at h
                  obtain rfl := Except.ok.inj h
                  exact .real hdefined hfinite
  | text t =>
      rw [asInt, intOfText] at h
      split at h
      · rename_i m hm
        obtain rfl := Except.ok.inj h
        exact .text hm
      all_goals cases h
  | _ => cases h

theorem StandsFor.unique {v : Value} {m n : Int} (hm : v.StandsFor m) (hn : v.StandsFor n) :
    m = n :=
  Except.ok.inj ((asInt_of_standsFor hm).symm.trans (asInt_of_standsFor hn))

/-- Why a value stands for no whole number, as a fault. -/
inductive HasNoInt : Value → Fault → Prop
  | undefined {x : Float} (undefined : x.isNaN = true) : HasNoInt (.num (.real x)) .undefinedNumber
  | infinite {x : Float} (defined : x.isNaN = false) (infinite : x.isInf = true) :
      HasNoInt (.num (.real x)) .infiniteNumber
  | noNumeral (t : Text) : HasNoInt (.text t) (.notNumeral t)
  | tooLong (t : Text) (digits : Nat) : HasNoInt (.text t) (.numeralTooLong digits)
  | null (message : Text) : HasNoInt .null (.wrongKind message)
  | list (items : List Value) (message : Text) : HasNoInt (.list items) (.wrongKind message)
  | obj (fields : List (Text × Value)) (message : Text) : HasNoInt (.obj fields) (.wrongKind message)

theorem hasNoInt_of_asInt {v : Value} {e : Fault} (h : v.asInt = .error e) : v.HasNoInt e := by
  cases v with
  | bool b => cases h
  | num m =>
      cases m with
      | int m => cases h
      | real x =>
          rw [asInt] at h
          split at h
          · rename_i hundefined
            obtain rfl := Except.error.inj h
            exact .undefined hundefined
          · rename_i hdefined
            split at h
            · rename_i hinfinite
              obtain rfl := Except.error.inj h
              exact .infinite (Bool.eq_false_iff.2 hdefined) hinfinite
            · cases h
  | text t =>
      rw [asInt, intOfText] at h
      split at h
      · cases h
      · obtain rfl := Except.error.inj h
        exact .noNumeral t
      · obtain rfl := Except.error.inj h
        exact .tooLong t _
  | null =>
      obtain rfl := Except.error.inj h
      exact .null _
  | list items =>
      obtain rfl := Except.error.inj h
      exact .list items _
  | obj fields =>
      obtain rfl := Except.error.inj h
      exact .obj fields _

theorem not_standsFor_of_asInt {v : Value} {e : Fault} (h : v.asInt = .error e) (n : Int) :
    ¬v.StandsFor n := fun hn => by
  rw [asInt_of_standsFor hn] at h
  cases h

/-- A number is read from the values that stand for one. -/
theorem reads_asInt (v : Value) : Reads (∃ n, v.StandsFor n) v.asInt := by
  cases h : v.asInt with
  | ok n => exact ⟨n, standsFor_of_asInt h⟩
  | error e =>
      refine ⟨fun ⟨n, hn⟩ => not_standsFor_of_asInt h n hn, ?_⟩
      cases hasNoInt_of_asInt h <;> rfl

/-! ## Collections -/

/-- Lists, texts and objects have elements. -/
theorem reads_elements (v : Value) : Reads (∃ vs, v.elements = .ok vs) v.elements := by
  cases v with
  | list items => exact ⟨items, rfl⟩
  | text t => exact ⟨_, rfl⟩
  | obj fields => exact ⟨_, rfl⟩
  | _ => exact ⟨fun ⟨_, h⟩ => (by cases h), rfl⟩

/-- The elements of a collection are read, and then each of them. -/
theorem reads_elements_bind {LegibleElement : Value → Prop} {f : List Value → Except Fault α}
    (v : Value) (hf : ∀ vs, Reads (∀ w ∈ vs, LegibleElement w) (f vs)) :
    Reads (∃ vs, v.elements = .ok vs ∧ ∀ w ∈ vs, LegibleElement w) (v.elements >>= f) := by
  refine (reads_elements v).bind (fun ⟨vs, hvs, _⟩ => ⟨vs, hvs⟩) fun vs hvs => ?_
  refine (hf vs).congr ⟨fun h => ⟨vs, hvs, h⟩, fun ⟨ws, hws, h⟩ => ?_⟩
  obtain rfl := Except.ok.inj (hvs.symm.trans hws)
  exact h

/-- The members of a set are neither lists nor objects. -/
theorem reads_members (v : Value) :
    Reads (∃ vs, v.elements = .ok vs ∧ ∀ w ∈ vs, w.isAtomic = true) v.members := by
  refine reads_elements_bind v fun vs => ?_
  cases hfind : vs.find? fun w => !w.isAtomic with
  | none =>
      have hall : ∀ w ∈ vs, w.isAtomic = true := by simpa using hfind
      exact hall
  | some w =>
      refine ⟨fun h => ?_, rfl⟩
      have hnot := List.find?_some hfind
      rw [h w (List.mem_of_find?_eq_some hfind)] at hnot
      cases hnot

end Value

/-! ## Names -/

/-- A reading of the names of a closed list: a text is one of them or is refused, and nothing else
can be a name. -/
structure ReadsNames (read : Value → Except Fault α) : Prop where
  text : ∀ t, (∃ a, read (.text t) = .ok a) ∨
    ∃ what name, read (.text t) = .error (.notOneOf what name)
  other : ∀ v, ¬v.IsText → ∃ kind operation, read v = .error (.lacks kind operation)

theorem ReadsNames.isText {read : Value → Except Fault α} (h : ReadsNames read) {v : Value} {a : α}
    (ha : read v = .ok a) : v.IsText := by
  by_contra hnot
  obtain ⟨kind, operation, hfault⟩ := h.other v hnot
  rw [hfault] at ha
  cases ha

/-- Names are texts, and what is no text has none of the operations of one. -/
theorem readsNames_of_parse {parse : Text → Except Fault α}
    (h : ∀ t, (∃ a, parse t = .ok a) ∨ ∃ what name, parse t = .error (.notOneOf what name)) :
    ReadsNames fun v => v.asText "strip" >>= parse where
  text := h
  other v hnot := by
    cases v with
    | text t => exact absurd ⟨t, rfl⟩ hnot
    | _ => exact ⟨_, _, rfl⟩

theorem Category.readsNames : ReadsNames Category.read := by
  refine readsNames_of_parse fun t => ?_
  unfold Category.parse
  dsimp only
  split
  · exact .inl ⟨_, rfl⟩
  · exact .inr ⟨_, _, rfl⟩

theorem Severity.readsNames : ReadsNames Severity.read := by
  refine readsNames_of_parse fun t => ?_
  unfold Severity.parse
  dsimp only
  split
  · exact .inl ⟨_, rfl⟩
  · exact .inr ⟨_, _, rfl⟩

/-! ## Efforts -/

namespace Text

theorem isBlank_of_zeroDigit :
    ∀ z ∈ zeroDigits, ∀ k : Nat, k < 10 → isBlank (z + k) = false := by decide

/-- No digit of any script is white space. -/
theorem isBlank_of_isDigit {c : Nat} (h : isDigit c = true) : isBlank c = false := by
  unfold isDigit digit? at h
  split at h
  · rename_i hascii
    exact isBlank_of_isAsciiDigit hascii
  · split at h
    · cases h
    · rw [Option.isSome_map, List.find?_isSome] at h
      obtain ⟨z, hz, hrange⟩ := h
      simp only [Bool.and_eq_true, decide_eq_true_eq] at hrange
      have hlow : (z : Nat) ≤ c := hrange.1
      have hhigh : c ≤ z + 9 := hrange.2
      obtain ⟨k, rfl⟩ := Nat.exists_eq_add_of_le hlow
      exact isBlank_of_zeroDigit z hz k (by omega)

end Text

namespace Numeral

open Text

/-- A run of digits of any script is an unsigned numeral. -/
theorem digits?_of_isDigit {t : Text} (hne : t ≠ []) (h : ∀ c ∈ t, isDigit c = true) :
    ∃ ds, digits? t = some ds ∧ ds.length = t.length := by
  induction t with
  | nil => exact absurd rfl hne
  | cons c t ih =>
      obtain ⟨d, hd⟩ := Option.isSome_iff_exists.1 (h c (List.mem_cons_self ..))
      cases t with
      | nil => exact ⟨[d], by unfold digits?; simp only [hd], rfl⟩
      | cons u t =>
          have hu : (u == 0x5F) = false := by
            rw [beq_eq_false_iff_ne]
            rintro rfl
            exact absurd (h 0x5F (by simp)) (by decide)
          obtain ⟨ds, hds, hlength⟩ :=
            ih (List.cons_ne_nil u t) fun e he => h e (List.mem_cons_of_mem c he)
          refine ⟨d :: ds, ?_, by simp [hlength]⟩
          unfold digits?
          simp only [hd, hu, Bool.false_eq_true, if_false, hds, Option.map_some]

theorem isPadding_of_isDigit {c : Code} (h : isDigit c = true) : isPadding c = false := by
  rw [isPadding, isBlank_of_isDigit h, Bool.false_and]

/-- A run of digits is read as an unsigned numeral. -/
theorem read_digits {t : Text} (hne : t ≠ []) (h : ∀ c ∈ t, isDigit c = true) :
    read t = (unsigned t).map Int.ofNat := by
  have htrim : t.trim isPadding = t :=
    trim_eq_self (fun d hd => isPadding_of_isDigit (h d (List.mem_of_mem_head? hd)))
      fun d hd => isPadding_of_isDigit (h d (List.mem_of_mem_getLast? hd))
  rw [read, htrim]
  split
  · exact absurd (h 0x2D (List.mem_cons_self ..)) (by decide)
  · exact absurd (h 0x2B (List.mem_cons_self ..)) (by decide)
  · rfl

/-- A run of digits is a numeral unless it is too long. -/
theorem reads_digits {t : Text} (hne : t ≠ []) (h : ∀ c ∈ t, isDigit c = true) :
    Reads (t.length ≤ maxDigits) (Value.intOfText t) := by
  obtain ⟨ds, hds, hlength⟩ := digits?_of_isDigit hne h
  rw [Value.intOfText, read_digits hne h, unsigned, hds, ← hlength]
  dsimp only
  by_cases hlong : ds.length > maxDigits
  · rw [if_pos hlong]
    exact ⟨Nat.not_le.2 hlong, rfl⟩
  · rw [if_neg hlong]
    exact Nat.not_lt.1 hlong

theorem nonneg_of_digits {t : Text} (hne : t ≠ []) (h : ∀ c ∈ t, isDigit c = true) {n : Int}
    (hn : Value.intOfText t = .ok n) : 0 ≤ n := by
  have hread : read t = .ok n := by
    cases Value.standsFor_of_asInt (v := .text t) hn with
    | text h => exact h
  rw [read_digits hne h] at hread
  cases hunsigned : unsigned t with
  | error e => rw [hunsigned] at hread; cases hread
  | ok m =>
      rw [hunsigned] at hread
      exact Except.ok.inj hread ▸ Int.natCast_nonneg m

end Numeral

namespace Effort

/-- The amount of a part is a run of digits. -/
theorem isDigit_of_mem_parts {t : Text} {p : Part} (hp : p ∈ parts t) :
    p.amount ≠ [] ∧ ∀ c ∈ p.amount, Text.isDigit c = true := by
  fun_induction parts t with
  | case1 => cases hp
  | case2 c rest hc digits behind unit rest' hunit ih =>
      rcases List.mem_cons.1 hp with rfl | hp
      · refine ⟨List.cons_ne_nil c _, fun d hd => ?_⟩
        rcases List.mem_cons.1 hd with rfl | hd
        · exact hc
        · exact List.mem_takeWhile_imp hd
      · exact ih hp
  | case3 c rest hc behind hunit ih => exact ih hp
  | case4 c rest hc ih => exact ih hp

/-- No part of a legible effort has more digits than a numeral may have. -/
theorem reads_minutes (t : Text) :
    Reads (∀ p ∈ parts t, p.amount.length ≤ Numeral.maxDigits) (minutes t) := by
  have hsum : Reads (∀ p ∈ parts t, p.amount.length ≤ Numeral.maxDigits) (sum (parts t)) := by
    refine Reads.foldlM (fun p hp total => ?_) 0
    obtain ⟨hne, hdigits⟩ := isDigit_of_mem_parts hp
    exact ((Numeral.reads_digits hne hdigits).map (f := (· * (p.unit.minutes : Int)))).map
      (f := (total + ·))
  unfold minutes
  split
  · rename_i hnone
    rw [hnone]
    exact fun p hp => absurd hp List.not_mem_nil
  · exact hsum

/-- An effort can be read if it is not given, or if no part of it is too long. -/
theorem reads_read (v : Value) :
    Reads (v.isGiven = true → ∀ p ∈ parts v.shown, p.amount.length ≤ Numeral.maxDigits)
      (read v) := by
  unfold read
  split
  · rename_i hgiven
    exact (reads_minutes v.shown).congr ⟨fun h _ => h, fun h => h hgiven⟩
  · rename_i hgiven
    exact fun h => absurd h hgiven

theorem nonneg_of_sum {ps : List Part}
    (hps : ∀ p ∈ ps, p.amount ≠ [] ∧ ∀ c ∈ p.amount, Text.isDigit c = true) {total n : Int}
    (htotal : 0 ≤ total)
    (h : ps.foldlM (fun (total : Int) p => do return total + (← p.minutes)) total = .ok n) :
    0 ≤ n := by
  induction ps generalizing total with
  | nil => exact Except.ok.inj h ▸ htotal
  | cons p rest ih =>
      obtain ⟨hne, hdigits⟩ := hps p (List.mem_cons_self ..)
      rw [List.foldlM_cons, Part.minutes] at h
      cases hamount : Value.intOfText p.amount with
      | error e => rw [hamount] at h; cases h
      | ok m =>
          rw [hamount] at h
          have hm : 0 ≤ m := Numeral.nonneg_of_digits hne hdigits hamount
          refine ih (fun q hq => hps q (List.mem_cons_of_mem p hq)) ?_ h
          exact Int.add_nonneg htotal (Int.mul_nonneg hm (Int.natCast_nonneg _))

/-- No effort is negative. -/
theorem nonneg_of_read {v : Value} {n : Int} (h : read v = .ok n) : 0 ≤ n := by
  unfold read minutes at h
  split at h
  · split at h
    · exact Except.ok.inj h ▸ Int.natCast_nonneg _
    · exact nonneg_of_sum (fun p hp => isDigit_of_mem_parts hp) (Int.le_refl 0) h
  · exact Except.ok.inj h ▸ Int.natCast_nonneg _

end Effort

end Mend
