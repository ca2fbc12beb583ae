import Mend.Json.Access
import Mend.Proofs.Json.Documents
import Mend.Proofs.Text.Utf8
import Mathlib.Data.List.Nodup

/-!
# Records

An object whose fields are named by string literals. Looking up a field compares literals, and the
object is plain if its names are distinct and its values plain.
-/

namespace Mend

theorem ok_bind {ε α β : Type} (a : α) (f : α → Except ε β) : (Except.ok a >>= f) = f a := rfl

/-- If two steps give a result, the first one gives something for the second one. -/
theorem exists_of_bind_eq_ok {ε α β : Type} {x : Except ε α} {f : α → Except ε β} {b : β}
    (h : (x >>= f) = .ok b) : ∃ a, x = .ok a ∧ f a = .ok b := by
  cases x with
  | error e => cases h
  | ok a => exact ⟨a, rfl, h⟩

/-- Names of fields consist of characters. -/
theorem Text.isScalar_of_mem_ofString {s : String} : ∀ c ∈ Text.ofString s, isScalar c = true := by
  intro c hc
  obtain ⟨d, -, rfl⟩ := List.mem_map.1 hc
  have hvalid : d.toNat < 0xD800 ∨ (0xDFFF < d.toNat ∧ d.toNat < 0x110000) := d.valid
  rw [Utf8.isScalar_iff]
  omega

/-- Numerals consist of characters. -/
theorem Text.isScalar_of_mem_decimal (n : Nat) : ∀ c ∈ decimal n, isScalar c = true := by
  intro c hc
  have hdigit := isAsciiDigit_iff.1 (isAsciiDigit_of_mem_decimal n c hc)
  rw [Utf8.isScalar_iff]
  omega

theorem Text.ofString_injective : Function.Injective Text.ofString := by
  intro s t h
  have hchar : Function.Injective Char.toNat := fun _ _ => Char.toNat_inj.1
  exact String.toList_inj.1 (List.map_injective_iff.2 hchar h)

namespace Value

/-- Looking up a field of a record. -/
theorem lookup_record (fields : List (String × Value)) (name : String) :
    (fields.map fun (k, v) => (Text.ofString k, v)).lookup (Text.ofString name) =
      fields.lookup name := by
  induction fields with
  | nil => rfl
  | cons f fields ih =>
      have hsame : (Text.ofString name == Text.ofString f.1) = (name == f.1) := by
        rw [Bool.eq_iff_iff, beq_iff_eq, beq_iff_eq, Text.ofString_injective.eq_iff]
      rw [List.map_cons, List.lookup_cons, List.lookup_cons, hsame, ih]

theorem field?_record (fields : List (String × Value)) (name : String) :
    (record fields).field? name = fields.lookup name := lookup_record fields name

/-- A field that is there takes its value. -/
theorem getD_of_field? {v : Value} {name : Text} {w : Value} (h : v.field? name = some w)
    (other : Value) : v.getD name other = .ok w := by
  cases v with
  | obj fields =>
      have hlookup : fields.lookup name = some w := h
      simp only [getD, get?, Value.fields, ok_bind, hlookup]
      rfl
  | _ => cases h

/-- A field that is missing takes the other value. -/
theorem getD_obj_of_none {fields : List (Text × Value)} {name : Text}
    (h : (obj fields).field? name = none) (other : Value) :
    (obj fields).getD name other = .ok other := by
  have hlookup : fields.lookup name = none := h
  simp only [getD, get?, Value.fields, ok_bind, hlookup]
  rfl

theorem getD_record {fields : List (String × Value)} {name : String} {v : Value}
    (h : fields.lookup name = some v) (other : Value) :
    (record fields).getD name other = .ok v :=
  getD_of_field? ((field?_record fields name).trans h) other

theorem require_record {fields : List (String × Value)} {name : String} {v : Value}
    (h : fields.lookup name = some v) : (record fields).require name = .ok v := by
  have hlookup := lookup_record fields name
  rw [h] at hlookup
  simp only [record, require, hlookup]

/-- A record with distinct names is plain if its values are. -/
theorem isPlain_record {fields : List (String × Value)} {depth : Nat}
    (hdistinct : (fields.map (·.1)).Nodup) (hplain : ∀ f ∈ fields, f.2.IsPlain depth) :
    (record fields).IsPlain (depth + 1) := by
  refine .obj ?_ ?_ ?_
  · have hnames : (fields.map fun (k, v) => (Text.ofString k, v)).map (·.1) =
        (fields.map (·.1)).map Text.ofString := by simp
    rw [hnames]
    exact List.Nodup.map Text.ofString_injective hdistinct
  · intro f hf
    obtain ⟨⟨k, v⟩, -, rfl⟩ := List.mem_map.1 hf
    exact Text.isScalar_of_mem_ofString
  · intro f hf
    obtain ⟨g, hg, rfl⟩ := List.mem_map.1 hf
    exact hplain g hg

end Value

end Mend
