import Mend.Proofs.Json.Documents
import Mend.Proofs.Text.Utf8
import Mend.Json.Encoding

/-!
# The characters of written documents

A written document consists of the characters of ASCII that can be seen, blanks and line feeds, so
its encoding and the ends of its lines are never in doubt.

## Main statements

* `Json.isWritten_prettyAt` — the characters of plain documents.
* `Json.read_pretty` — plain documents are read back.
* `Json.textOfBytes?_encoded` — so are their bytes.
-/

namespace Mend.Json

/-- The characters of written documents: those of ASCII that can be seen, the blank and the line
feed. -/
def IsWritten (c : Nat) : Prop := c = 0x0A ∨ (0x20 ≤ c ∧ c < 0x7F)

instance (c : Nat) : Decidable (IsWritten c) := inferInstanceAs (Decidable (_ ∨ _))

theorem isWritten_newLine (k : Nat) : ∀ c ∈ newLine k, IsWritten c := by
  intro c hc
  rcases List.mem_cons.1 hc with rfl | hc
  · exact .inl rfl
  · rw [List.eq_of_mem_replicate hc]
    decide

theorem isWritten_hexDigit {n : Nat} (h : n < 16) : IsWritten (Text.hexDigit n) := by
  revert h
  revert n
  decide

theorem isWritten_numbered (c : Nat) : ∀ d ∈ numbered c, IsWritten d := by
  have hdigit (n : Nat) : IsWritten (Text.hexDigit (n % 16)) :=
    isWritten_hexDigit (Nat.mod_lt n (by decide))
  simp only [numbered, Text.hex, List.cons_append, List.nil_append, List.forall_mem_cons,
    List.not_mem_nil, false_implies, implies_true, and_true]
  exact ⟨by decide, by decide, hdigit _, hdigit _, hdigit _, hdigit _⟩

theorem isWritten_escape (c : Nat) : ∀ d ∈ escape c, IsWritten d := by
  fun_cases escape c
  case case1 h =>
    obtain rfl | rfl : c = 0x22 ∨ c = 0x5C := by simpa using h
    · decide
    · decide
  case case7 hshown =>
    have hshown : 0x20 ≤ c ∧ c < 0x7F := by simpa using hshown
    simpa using .inr hshown
  case case8 => exact isWritten_numbered c
  case case9 =>
    intro d hd
    rcases List.mem_append.1 hd with hd | hd
    · exact isWritten_numbered _ d hd
    · exact isWritten_numbered _ d hd
  all_goals decide

theorem isWritten_quoted (t : Text) : ∀ d ∈ quoted t, IsWritten d := by
  simp only [quoted, List.forall_mem_append, List.forall_mem_singleton]
  refine ⟨⟨by decide, fun d hd => ?_⟩, by decide⟩
  obtain ⟨c, -, hc⟩ := List.mem_flatMap.1 hd
  exact isWritten_escape c d hc

theorem isWritten_ofInt (n : Int) : ∀ d ∈ Text.ofInt n, IsWritten d := by
  have hdecimal (n : Nat) : ∀ d ∈ Text.decimal n, IsWritten d := by
    intro d hd
    have hdigit := Text.isAsciiDigit_iff.1 (Text.isAsciiDigit_of_mem_decimal n d hd)
    exact .inr ⟨by omega, by omega⟩
  cases n with
  | ofNat n => exact hdecimal n
  | negSucc n => exact List.forall_mem_cons.2 ⟨by decide, hdecimal (n + 1)⟩

theorem isWritten_prettyItems {k : Nat} {vs : List Value}
    (h : ∀ v ∈ vs, ∀ c ∈ prettyAt k v, IsWritten c) : ∀ c ∈ prettyItems k vs, IsWritten c := by
  induction vs with
  | nil => simp [prettyItems]
  | cons v vs ih =>
      simp only [prettyItems, List.forall_mem_append, List.forall_mem_singleton]
      exact ⟨⟨⟨by decide, isWritten_newLine k⟩, h v (by simp)⟩,
        ih fun w hw => h w (List.mem_cons_of_mem v hw)⟩

theorem isWritten_prettyField {k : Nat} {f : Text × Value}
    (h : ∀ c ∈ prettyAt k f.2, IsWritten c) : ∀ c ∈ prettyField k f, IsWritten c := by
  simp only [prettyField, List.forall_mem_append, List.forall_mem_cons]
  exact ⟨isWritten_quoted f.1, by decide, by decide, h⟩

theorem isWritten_prettyFields {k : Nat} {fs : List (Text × Value)}
    (h : ∀ f ∈ fs, ∀ c ∈ prettyAt k f.2, IsWritten c) : ∀ c ∈ prettyFields k fs, IsWritten c := by
  induction fs with
  | nil => simp [prettyFields]
  | cons f fs ih =>
      rw [prettyFields_cons]
      simp only [List.forall_mem_append, List.forall_mem_cons]
      exact ⟨by decide, isWritten_newLine k, isWritten_prettyField (h f (by simp)),
        ih fun g hg => h g (List.mem_cons_of_mem f hg)⟩

theorem isWritten_prettyAt {d : Nat} {v : Value} (h : v.IsPlain d) (k : Nat) :
    ∀ c ∈ prettyAt k v, IsWritten c := by
  induction h generalizing k with
  | null =>
      rw [prettyAt]
      decide
  | bool b => cases b <;> (rw [prettyAt]; decide)
  | @int _ n _ => exact isWritten_ofInt n
  | @text _ t _ => exact isWritten_quoted t
  | @list d vs items ih =>
      cases vs with
      | nil =>
          rw [prettyAt]
          decide
      | cons v vs =>
          simp only [prettyAt, List.forall_mem_append, List.forall_mem_singleton]
          exact ⟨⟨⟨⟨⟨by decide, isWritten_newLine (k + 1)⟩, ih v (by simp) (k + 1)⟩,
            isWritten_prettyItems fun w hw => ih w (List.mem_cons_of_mem v hw) (k + 1)⟩,
            isWritten_newLine k⟩, by decide⟩
  | @obj d fs distinct names values ih =>
      cases fs with
      | nil =>
          rw [prettyAt]
          decide
      | cons f fs =>
          rw [prettyAt_obj]
          simp only [List.forall_mem_append, List.forall_mem_cons]
          exact ⟨by decide, isWritten_newLine (k + 1), isWritten_prettyField (ih f (by simp) (k + 1)),
            isWritten_prettyFields fun g hg => ih g (List.mem_cons_of_mem f hg) (k + 1),
            isWritten_newLine k, by decide, by simp⟩

/-- A plain document is read back from what is written. -/
theorem read_pretty {v : Value} {depth : Depth} (h : v.IsPlain depth) :
    read depth (pretty v) = .ok v := by
  obtain ⟨c, t, ht, hspace, -⟩ := exists_prettyAt_eq_cons h 0
  have hmark : ((pretty v).head? == some 0xFEFF) = false := by
    have hc : c ≠ 0xFEFF := by
      rintro rfl
      exact absurd (isWritten_prettyAt h 0 0xFEFF (by simp [ht])) (by decide)
    simpa [pretty, ht] using hc
  have hskip : skip (pretty v) = pretty v := by
    rw [pretty, ht]
    exact skip_cons hspace t
  have hvalue := readsBack_of_isPlain h (Nat.le_refl _) 0 (Nat.lt_succ_self _)
    (2 * ((pretty v).length + 1)) [] (by rw [pretty]; omega) endsNumeral_nil
  rw [List.append_nil] at hvalue
  rw [read, if_neg (by simp [hmark]), hskip]
  simp only [pretty] at hvalue ⊢
  rw [hvalue]
  rfl

/-! ## Encoded documents -/

theorem unixLines_of_isWritten {t : Text} (h : ∀ c ∈ t, IsWritten c) : t.unixLines = t := by
  have hreturn {c : Nat} (hc : IsWritten c) : c ≠ 0x0D := by
    rintro rfl
    exact absurd hc (by decide)
  fun_induction Text.unixLines t with
  | case1 => rfl
  | case2 c => simp [hreturn (h c (by simp))]
  | case3 => simp_all [IsWritten]
  | case4 => simp_all [IsWritten]
  | case5 c d rest _ ih => rw [ih fun x hx => h x (List.mem_cons_of_mem c hx)]

theorem IsWritten.isScalar {c : Nat} (h : IsWritten c) : Text.isScalar c = true := by
  unfold IsWritten at h
  rw [Utf8.isScalar_iff]
  omega

/-- The bytes of a written document are read as its text. -/
theorem decode_encoded {t : Text} (h : ∀ c ∈ t, IsWritten c) :
    Utf8.decode (t.flatMap Utf8.encodeCode) = .ok t :=
  Utf8.decode_of_pieces (Utf8.pieces_encoded fun c hc => (h c hc).isScalar)

/-- Bytes that are neither zero nor beyond ASCII are UTF-8 without a mark. -/
theorem detect_of_ascii {bytes : Bytes} (h : ∀ b ∈ bytes, b ≠ 0 ∧ b.toNat < 0x80) :
    Encoding.detect bytes = (.utf8, bytes) := by
  have hzeros : Encoding.ofZeros bytes = .utf8 := by
    unfold Encoding.ofZeros
    split
    · simp [(h _ (List.mem_cons_self ..)).1, (h _ (List.mem_cons_of_mem _ (List.mem_cons_self ..))).1]
    · simp [(h _ (List.mem_cons_self ..)).1, (h _ (List.mem_cons_of_mem _ (List.mem_cons_self ..))).1]
    · rfl
  unfold Encoding.detect
  split
  case h_6 => rw [hzeros]
  -- A byte order mark begins with a zero or beyond ASCII.
  all_goals exact absurd (h _ (List.mem_cons_self ..)) (by decide)

theorem joinPieces_good (t : Text) : joinPieces (t.map .good) = some t := by
  induction t with
  | nil => rfl
  | cons c t ih => rw [List.map_cons, joinPieces, ih]; rfl

/-- The bytes of a written document are taken for its text, whichever encoding they might be in. -/
theorem textOfBytes?_encoded {t : Text} (h : ∀ c ∈ t, IsWritten c) :
    textOfBytes? (t.flatMap Utf8.encodeCode) = some t := by
  have hbounds {c : Nat} (hc : IsWritten c) : 0 < c ∧ c < 0x80 := by
    unfold IsWritten at hc
    omega
  have hascii : ∀ b ∈ t.flatMap Utf8.encodeCode, b ≠ 0 ∧ b.toNat < 0x80 := by
    intro b hb
    obtain ⟨c, hc, hbc⟩ := List.mem_flatMap.1 hb
    obtain ⟨hpos, hlt⟩ := hbounds (h c hc)
    have hone : Utf8.encodeCode c = [c.toUInt8] := if_pos hlt
    rw [hone, List.mem_singleton] at hbc
    have htoNat : b.toNat = c := by
      rw [hbc]
      exact Utf8.toNat_toUInt8 (Nat.lt_trans hlt (by decide))
    refine ⟨?_, htoNat ▸ hlt⟩
    rintro rfl
    exact absurd htoNat (Nat.ne_of_lt hpos)
  rw [textOfBytes?, detect_of_ascii hascii]
  dsimp only
  rw [Utf8.pieces_encoded fun c hc => (h c hc).isScalar]
  exact joinPieces_good t

end Mend.Json
