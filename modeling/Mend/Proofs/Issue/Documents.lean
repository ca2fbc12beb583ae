import Mend.Proofs.Json.Records
import Mend.Proofs.Json.Sets

/-!
# Issues read back from their documents

The tags of an issue are a set: the document lists them in ascending order, so the issue that is read
from it has the same tags in an order of its own and agrees with the old one in everything else.

## Main definitions

* `Issue.Agrees` — issues that differ at most in the order of their tags.

## Main statements

* `Issue.exists_document` — the document of an issue, and what is read from it.
-/

namespace Mend

namespace Value

theorem perm_insertSorted (v : Value) (vs : List Value) : (insertSorted v vs).Perm (v :: vs) := by
  induction vs with
  | nil => exact .refl _
  | cons w rest ih =>
      rw [insertSorted]
      split
      · exact .refl _
      · exact (ih.cons w).trans (.swap v w rest)

theorem perm_foldl_insertSorted (vs sorted : List Value) :
    (vs.foldl (fun sorted v => insertSorted v sorted) sorted).Perm (vs ++ sorted) := by
  induction vs generalizing sorted with
  | nil => exact .refl _
  | cons v rest ih =>
      exact (ih _).trans ((List.Perm.append_left rest (perm_insertSorted v sorted)).trans
        List.perm_middle)

/-- Putting the members of a set in order loses none. -/
theorem perm_of_ascending {vs ws : List Value} (h : ascending vs = .ok ws) : ws.Perm vs := by
  have hsorted : sorted? vs = some ws := by
    unfold ascending at h
    split at h
    · rename_i us hus
      rw [hus, Except.ok.inj h]
    · cases h
  unfold sorted? at hsorted
  split at hsorted
  · exact Option.some.inj hsorted ▸ .refl _
  · exact Option.some.inj hsorted ▸ .refl _
  · split at hsorted
    · rw [← Option.some.inj hsorted]
      simpa using perm_foldl_insertSorted vs []
    · cases hsorted

theorem isText_of_isPlainText {v : Value} (h : Issue.isPlainText v = true) : v.IsText := by
  cases v with
  | text t => exact ⟨t, rfl⟩
  | _ => cases h

theorem isPlain_of_isPlainText {v : Value} (h : Issue.isPlainText v = true) (depth : Nat) :
    v.IsPlain depth := by
  obtain ⟨t, rfl⟩ := isText_of_isPlainText h
  exact .text (List.all_eq_true.1 h)

/-- Distinct texts are the members of the set of them. -/
theorem members_of_pairwise_ne {vs : List Value} (htext : ∀ v ∈ vs, v.IsText)
    (hdistinct : vs.Pairwise (· ≠ ·)) : (Value.list vs).members = .ok vs := by
  obtain ⟨ts, rfl⟩ := exists_texts htext
  rw [members_texts, eraseDups_of_nodup]
  exact (List.pairwise_map.1 hdistinct).imp fun {s t} hne heq => hne (congrArg Value.text heq)

end Value

theorem Category.isScalar_name (c : Category) : ∀ d ∈ c.name, Text.isScalar d = true := by
  cases c <;> decide

theorem Severity.isScalar_name (s : Severity) : ∀ d ∈ s.name, Text.isScalar d = true := by
  cases s <;> decide

theorem Category.parse_name (c : Category) : Category.parse c.name = .ok c := by
  cases c <;> rfl

theorem Severity.parse_name (s : Severity) : Severity.parse s.name = .ok s := by
  cases s <;> rfl

theorem Category.name_injective : Function.Injective Category.name := by
  intro a b h
  have hparse := a.parse_name
  rw [h, b.parse_name] at hparse
  exact (Except.ok.inj hparse).symm

theorem Severity.name_injective : Function.Injective Severity.name := by
  intro a b h
  have hparse := a.parse_name
  rw [h, b.parse_name] at hparse
  exact (Except.ok.inj hparse).symm

namespace Issue

/-- Whether two issues differ at most in the order of their tags. -/
def Agrees (i j : Issue) : Prop := ∃ tags, tags.Perm i.tags ∧ j = { i with tags }

/-- The document of an issue with its tags in the order in which they stand. -/
def document (i : Issue) : Value :=
  .record [
    ("key", i.key),
    ("rule", i.rule),
    ("type", .text i.category.name),
    ("severity", .text i.severity.name),
    ("message", i.message),
    ("file_path", i.filePath),
    ("line_start", .nat i.lineStart),
    ("line_end", .nat i.lineEnd),
    ("effort_minutes", .nat i.effort),
    ("tags", .list i.tags),
    ("component", i.component)]

theorem toValue_of_ascending {i : Issue} {tags : List Value} (h : Value.ascending i.tags = .ok tags) :
    i.toValue = .ok (document { i with tags }) := by
  rw [toValue, h]
  rfl

theorem make_of_nat (i : Issue) :
    make { i with lineStart := i.lineStart, lineEnd := i.lineEnd, effort := i.effort } = .ok i := by
  simp only [make]
  rw [if_neg (by omega), if_neg (by simp)]
  rfl

theorem ofValue_document {i : Issue} (h : i.WellTyped) : ofValue i.document = .ok i := by
  have htags := Value.members_of_pairwise_ne (fun t ht => Value.isText_of_isPlainText (h.tags t ht))
    h.distinct
  have hcategory : Category.read (.text i.category.name) = .ok i.category := Category.parse_name _
  have hseverity : Severity.read (.text i.severity.name) = .ok i.severity := Severity.parse_name _
  have hkey : i.document.require "key" = .ok i.key := Value.require_record rfl
  have htype : i.document.require "type" = .ok (.text i.category.name) := Value.require_record rfl
  have hrank : i.document.require "severity" = .ok (.text i.severity.name) := Value.require_record rfl
  have hrule : i.document.getD "rule" (.text []) = .ok i.rule := Value.getD_record rfl _
  have hmessage : i.document.getD "message" (.text []) = .ok i.message := Value.getD_record rfl _
  have hfilePath : i.document.getD "file_path" (.text []) = .ok i.filePath :=
    Value.getD_record rfl _
  have hlineStart : i.document.getD "line_start" (.nat 0) = .ok (.nat i.lineStart) :=
    Value.getD_record rfl _
  have hlineEnd : i.document.getD "line_end" (.nat 0) = .ok (.nat i.lineEnd) :=
    Value.getD_record rfl _
  have heffort : i.document.getD "effort_minutes" (.nat Effort.defaultMinutes) = .ok (.nat i.effort) :=
    Value.getD_record rfl _
  have hmembers : i.document.getD "tags" (.list []) = .ok (.list i.tags) := Value.getD_record rfl _
  have hcomponent : i.document.getD "component" .null = .ok i.component := Value.getD_record rfl _
  rw [← make_of_nat i, ofValue, hkey, htype, hrank]
  simp only [hrule, hmessage, hfilePath, hlineStart, hlineEnd, heffort, hmembers, hcomponent,
    hcategory, hseverity, htags, ok_bind]
  rfl

/-- The issues whose numbers can be written. -/
structure Fits (i : Issue) : Prop where
  lineStart : Numeral.fits i.lineStart = true
  lineEnd : Numeral.fits i.lineEnd = true
  effort : Numeral.fits i.effort = true

theorem isPlain_document {i : Issue} (h : i.WellTyped) (hfits : i.Fits) (depth : Nat) :
    i.document.IsPlain (depth + 2) := by
  have hcomponent : i.component.IsPlain (depth + 1) := by
    rcases h.component with hnull | htext
    · rw [hnull]
      exact .null
    · exact Value.isPlain_of_isPlainText htext _
  refine Value.isPlain_record (by simp) ?_
  simp only [List.forall_mem_cons, List.not_mem_nil, false_implies, implies_true, and_true]
  exact ⟨Value.isPlain_of_isPlainText h.key _, Value.isPlain_of_isPlainText h.rule _,
    .text (Category.isScalar_name i.category), .text (Severity.isScalar_name i.severity),
    Value.isPlain_of_isPlainText h.message _, Value.isPlain_of_isPlainText h.filePath _,
    .int hfits.lineStart, .int hfits.lineEnd, .int hfits.effort,
    .list fun t ht => Value.isPlain_of_isPlainText (h.tags t ht) _, hcomponent⟩

namespace Agrees

variable {i j : Issue}

theorem symm (h : i.Agrees j) : j.Agrees i := by
  obtain ⟨tags, hperm, rfl⟩ := h
  exact ⟨i.tags, hperm.symm, rfl⟩

theorem wellTyped (h : i.Agrees j) (hi : i.WellTyped) : j.WellTyped := by
  obtain ⟨tags, hperm, rfl⟩ := h
  exact { hi with
    tags := fun t ht => hi.tags t (hperm.mem_iff.1 ht)
    distinct := (hperm.pairwise_iff fun h => h.symm).2 hi.distinct }

theorem fits (h : i.Agrees j) (hi : i.Fits) : j.Fits := by
  obtain ⟨tags, -, rfl⟩ := h
  exact ⟨hi.lineStart, hi.lineEnd, hi.effort⟩

end Agrees

/-- An issue has a document, from which an issue that agrees with it is read. -/
theorem exists_document {i : Issue} (h : i.WellTyped) :
    ∃ j, i.Agrees j ∧ i.toValue = .ok j.document ∧ ofValue j.document = .ok j := by
  obtain ⟨tags, htags, -⟩ := Value.exists_ascending fun t ht =>
    Value.isText_of_isPlainText (h.tags t ht)
  have hagrees : i.Agrees { i with tags } := ⟨tags, Value.perm_of_ascending htags, rfl⟩
  exact ⟨_, hagrees, toValue_of_ascending htags, ofValue_document (hagrees.wellTyped h)⟩

end Issue

end Mend
