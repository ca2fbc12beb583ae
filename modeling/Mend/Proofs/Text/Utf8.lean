import Mend.Text.Utf8

/-!
# Text that can be written

A text can be written if each code point of it has an encoding or stands for a byte that was kept.
Text that was read is of that kind. A text of characters is read back from what is written.

## Main definitions

* `Utf8.IsWritable` — texts that can be written.
* `Utf8.Piece.Sound` — pieces as they come out of a byte sequence.

## Main statements

* `Utf8.pieces_encoded` — characters are read back.
-/

namespace Mend.Utf8

/-- Whether each code point of a text is a character or stands for a kept byte. -/
def IsWritable (t : Text) : Prop := ∀ c ∈ t, (Text.isScalar c || isKept c) = true

theorem exists_encodeKeeping_iff {t : Text} : (∃ bytes, encodeKeeping t = .ok bytes) ↔ IsWritable t := by
  rw [encodeKeeping, IsWritable]
  cases hfind : t.findIdx? fun c => !(Text.isScalar c || isKept c) with
  | none =>
      rw [List.findIdx?_eq_none_iff] at hfind
      have hall : ∀ c ∈ t, (Text.isScalar c || isKept c) = true := by
        intro c hc
        simpa only [Bool.not_eq_false'] using hfind c hc
      simpa using hall
  | some i =>
      have hsome : (t.findIdx? fun c => !(Text.isScalar c || isKept c)).isSome = true := by
        rw [hfind]
        rfl
      rw [List.findIdx?_isSome, List.any_eq_true] at hsome
      obtain ⟨c, hc, hbad⟩ := hsome
      simp only [reduceCtorEq, exists_false, false_iff]
      intro hall
      rw [hall c hc] at hbad
      cases hbad

/-- A character is a scalar value, and the bytes that encode none are no ASCII. -/
def Piece.Sound : Piece → Prop
  | .good c => Text.isScalar c = true
  | .bad run _ => ∀ b ∈ run, 0x80 ≤ b.toNat

theorem isCont_iff {b : UInt8} : isCont b = true ↔ 0x80 ≤ b.toNat ∧ b.toNat ≤ 0xBF := by
  simp [isCont, UInt8.le_iff_toNat_le]

theorem isScalar_iff {c : Nat} :
    Text.isScalar c = true ↔ c < 0xD800 ∨ (0xE000 ≤ c ∧ c < 0x110000) := by
  simp [Text.isScalar]

/-- The bytes that may come second: the sequence is neither longer than it has to be, nor half a
surrogate pair, nor beyond the last code point. -/
theorem isSecond_iff {a b : UInt8} :
    isSecond a b = true ↔ (0x80 ≤ b.toNat ∧ b.toNat ≤ 0xBF) ∧ (a.toNat = 0xE0 → 0xA0 ≤ b.toNat) ∧
      (a.toNat = 0xED → b.toNat < 0xA0) ∧ (a.toNat = 0xF0 → 0x90 ≤ b.toNat) ∧
      (a.toNat = 0xF4 → b.toNat < 0x90) := by
  rw [isSecond, Bool.and_eq_true, isCont_iff]
  refine and_congr_right fun _ => ?_
  simp only [beq_iff_eq, ← UInt8.toNat_inj, UInt8.reduceToNat]
  by_cases hE0 : a.toNat = 0xE0
  · simp [hE0, UInt8.le_iff_toNat_le]
  · by_cases hED : a.toNat = 0xED
    · simp [hED, UInt8.lt_iff_toNat_lt]
    · by_cases hF0 : a.toNat = 0xF0
      · simp [hF0, UInt8.le_iff_toNat_le]
      · by_cases hF4 : a.toNat = 0xF4
        · simp [hF4, UInt8.lt_iff_toNat_lt]
        · simp [hE0, hED, hF0, hF4]

/-- A code point of three bytes is no half of a surrogate pair. -/
theorem isScalar_three {a b c : UInt8} (hlow : 0xE0 ≤ a.toNat) (hhigh : a.toNat < 0xF0)
    (hb : isSecond a b = true) :
    Text.isScalar ((a.toNat % 16 * 64 + low b) * 64 + low c) = true := by
  have hbounds := isSecond_iff.1 hb
  rw [isScalar_iff]
  unfold low
  omega

/-- A code point of four bytes is neither too small nor too large. -/
theorem isScalar_four {a b c d : UInt8} (hlow : 0xF0 ≤ a.toNat) (hhigh : a.toNat < 0xF5)
    (hb : isSecond a b = true) :
    Text.isScalar (((a.toNat % 8 * 64 + low b) * 64 + low c) * 64 + low d) = true := by
  have hbounds := isSecond_iff.1 hb
  rw [isScalar_iff]
  unfold low
  omega

/-- The first piece of a byte sequence is sound. -/
theorem sound_firstPiece (a : UInt8) (rest : Bytes) : (firstPiece a rest).1.Sound := by
  fun_cases firstPiece a rest
  case case1 ha =>
    have hascii : a.toNat < 0x80 := UInt8.lt_iff_toNat_lt.1 ha
    show Text.isScalar a.toNat = true
    rw [isScalar_iff]
    omega
  case case3 h80 hC2 ha b rest hb =>
    show Text.isScalar (a.toNat % 32 * 64 + low b) = true
    rw [isScalar_iff]
    unfold low
    omega
  case case6 h80 hC2 hE0 ha b c rest hb hc =>
    have hlow : 0xE0 ≤ a.toNat := Nat.le_of_not_lt fun h => hE0 (UInt8.lt_iff_toNat_lt.2 h)
    exact isScalar_three hlow (UInt8.lt_iff_toNat_lt.1 ha) hb
  case case12 h80 hC2 hE0 hF0 ha b c d rest hb hc hd =>
    have hlow : 0xF0 ≤ a.toNat := Nat.le_of_not_lt fun h => hF0 (UInt8.lt_iff_toNat_lt.2 h)
    exact isScalar_four hlow (UInt8.lt_iff_toNat_lt.1 ha) hb
  -- In every other case no character was found, and the bytes are lead and continuation bytes.
  all_goals
    simp only [Piece.Sound, List.mem_cons, List.not_mem_nil, or_false, forall_eq_or_imp, forall_eq,
      UInt8.lt_iff_toNat_lt, UInt8.reduceToNat] at *
    grind [isSecond_iff, isCont_iff]

theorem sound_piecesFrom (extra : Nat) (bytes : Bytes) : ∀ p ∈ piecesFrom extra bytes, p.Sound := by
  induction bytes generalizing extra with
  | nil => simp [piecesFrom]
  | cons a rest ih =>
      cases extra with
      | succ extra => exact ih extra
      | zero =>
          intro p hp
          rcases List.mem_cons.1 hp with rfl | hp
          · exact sound_firstPiece a rest
          · exact ih _ p hp

theorem isKept_kept {b : UInt8} (hb : 0x80 ≤ b.toNat) : isKept (kept b) = true := by
  have hlt := b.toNat_lt
  have hlow : 0xDC80 ≤ 0xDC00 + b.toNat := by omega
  have hhigh : 0xDC00 + b.toNat ≤ 0xDCFF := by omega
  exact (Bool.and_eq_true ..).mpr ⟨decide_eq_true hlow, decide_eq_true hhigh⟩

/-- What was read with undecodable bytes kept can be written. -/
theorem isWritable_decodeKeeping (bytes : Bytes) : IsWritable (decodeKeeping bytes) := by
  intro c hc
  obtain ⟨p, hp, hcp⟩ := List.mem_flatMap.1 hc
  have hsound := sound_piecesFrom 0 bytes p hp
  cases p with
  | good d =>
      obtain rfl : c = d := by simpa using hcp
      exact (Bool.or_eq_true ..).mpr (.inl hsound)
  | bad run defect =>
      obtain ⟨b, hb, rfl⟩ := List.mem_map.1 hcp
      exact (Bool.or_eq_true ..).mpr (.inr (isKept_kept (hsound b hb)))

/-! ## Characters

The bytes of a character are read as the character, one lemma for each number of bytes. -/

theorem toNat_toUInt8 {n : Nat} (h : n < 256) : n.toUInt8.toNat = n := by
  simp only [Nat.toUInt8, UInt8.toNat_ofNat']
  omega

theorem not_lt_of_le {a b : UInt8} (h : b.toNat ≤ a.toNat) : ¬a < b :=
  fun hlt => absurd (UInt8.lt_iff_toNat_lt.1 hlt) (Nat.not_lt.2 h)

theorem firstPiece_one {a : UInt8} (ha : a.toNat < 0x80) (rest : Bytes) :
    firstPiece a rest = (.good a.toNat, 0) := by
  rw [firstPiece.eq_def, if_pos (UInt8.lt_iff_toNat_lt.2 ha)]

theorem firstPiece_two {a b : UInt8} (hlow : 0xC2 ≤ a.toNat) (hhigh : a.toNat < 0xE0)
    (hb : isCont b = true) (rest : Bytes) :
    firstPiece a (b :: rest) = (.good (a.toNat % 32 * 64 + low b), 1) := by
  have h80 : ¬a < 0x80 := not_lt_of_le (Nat.le_trans (by decide) hlow)
  have hC2 : ¬a < 0xC2 := not_lt_of_le (Nat.le_trans (by decide) hlow)
  rw [firstPiece.eq_def, if_neg h80, if_neg hC2, if_pos (UInt8.lt_iff_toNat_lt.2 hhigh)]
  exact if_pos hb

theorem firstPiece_three {a b c : UInt8} (hlow : 0xE0 ≤ a.toNat) (hhigh : a.toNat < 0xF0)
    (hb : isSecond a b = true) (hc : isCont c = true) (rest : Bytes) :
    firstPiece a (b :: c :: rest) = (.good ((a.toNat % 16 * 64 + low b) * 64 + low c), 2) := by
  have h80 : ¬a < 0x80 := not_lt_of_le (Nat.le_trans (by decide) hlow)
  have hC2 : ¬a < 0xC2 := not_lt_of_le (Nat.le_trans (by decide) hlow)
  have hE0 : ¬a < 0xE0 := not_lt_of_le (Nat.le_trans (by decide) hlow)
  rw [firstPiece.eq_def, if_neg h80, if_neg hC2, if_neg hE0,
    if_pos (UInt8.lt_iff_toNat_lt.2 hhigh)]
  simp only [hb, hc, if_true]

theorem firstPiece_four {a b c d : UInt8} (hlow : 0xF0 ≤ a.toNat) (hhigh : a.toNat < 0xF5)
    (hb : isSecond a b = true) (hc : isCont c = true) (hd : isCont d = true) (rest : Bytes) :
    firstPiece a (b :: c :: d :: rest) =
      (.good (((a.toNat % 8 * 64 + low b) * 64 + low c) * 64 + low d), 3) := by
  have h80 : ¬a < 0x80 := not_lt_of_le (Nat.le_trans (by decide) hlow)
  have hC2 : ¬a < 0xC2 := not_lt_of_le (Nat.le_trans (by decide) hlow)
  have hE0 : ¬a < 0xE0 := not_lt_of_le (Nat.le_trans (by decide) hlow)
  have hF0 : ¬a < 0xF0 := not_lt_of_le (Nat.le_trans (by decide) hlow)
  rw [firstPiece.eq_def, if_neg h80, if_neg hC2, if_neg hE0, if_neg hF0,
    if_pos (UInt8.lt_iff_toNat_lt.2 hhigh)]
  simp only [hb, hc, hd, if_true]

theorem isCont_tail (n : Nat) : isCont (0x80 + n % 64).toUInt8 = true := by
  rw [isCont_iff, toNat_toUInt8 (by omega)]
  omega

theorem low_tail (n : Nat) : low (0x80 + n % 64).toUInt8 = n % 64 := by
  rw [low, toNat_toUInt8 (by omega)]
  omega

/-- The first piece of the bytes of a character is the character, and takes all of its bytes. -/
theorem exists_encodeCode_eq_cons {c : Nat} (h : Text.isScalar c = true) :
    ∃ a tail, encodeCode c = a :: tail ∧
      ∀ rest, firstPiece a (tail ++ rest) = (.good c, tail.length) := by
  rw [isScalar_iff] at h
  unfold encodeCode
  by_cases h1 : c < 0x80
  · have ha : c.toUInt8.toNat = c := toNat_toUInt8 (by omega)
    refine ⟨_, _, if_pos h1, fun rest => ?_⟩
    rw [firstPiece_one (by omega), ha]
    rfl
  · rw [if_neg h1]
    by_cases h2 : c < 0x800
    · have ha : (0xC0 + c / 64).toUInt8.toNat = 0xC0 + c / 64 := toNat_toUInt8 (by omega)
      have hc : (0xC0 + c / 64) % 32 * 64 + c % 64 = c := by omega
      refine ⟨_, _, if_pos h2, fun rest => ?_⟩
      rw [List.singleton_append, firstPiece_two (by omega) (by omega) (isCont_tail c), ha,
        low_tail, hc]
      rfl
    · rw [if_neg h2]
      by_cases h3 : c < 0x10000
      · have ha : (0xE0 + c / 4096).toUInt8.toNat = 0xE0 + c / 4096 := toNat_toUInt8 (by omega)
        have hsecond : isSecond (0xE0 + c / 4096).toUInt8 (0x80 + c / 64 % 64).toUInt8 = true := by
          rw [isSecond_iff, ha, toNat_toUInt8 (by omega)]
          omega
        have hc : ((0xE0 + c / 4096) % 16 * 64 + c / 64 % 64) * 64 + c % 64 = c := by omega
        refine ⟨_, _, if_pos h3, fun rest => ?_⟩
        rw [List.cons_append, List.singleton_append,
          firstPiece_three (by omega) (by omega) hsecond (isCont_tail c), ha, low_tail, low_tail, hc]
        rfl
      · have ha : (0xF0 + c / 262144).toUInt8.toNat = 0xF0 + c / 262144 := toNat_toUInt8 (by omega)
        have hsecond :
            isSecond (0xF0 + c / 262144).toUInt8 (0x80 + c / 4096 % 64).toUInt8 = true := by
          rw [isSecond_iff, ha, toNat_toUInt8 (by omega)]
          omega
        have hc : (((0xF0 + c / 262144) % 8 * 64 + c / 4096 % 64) * 64 + c / 64 % 64) * 64 + c % 64
            = c := by omega
        refine ⟨_, _, if_neg h3, fun rest => ?_⟩
        rw [List.cons_append, List.cons_append, List.singleton_append,
          firstPiece_four (by omega) (by omega) hsecond (isCont_tail _) (isCont_tail c), ha,
          low_tail, low_tail, low_tail, hc]
        rfl

theorem piecesFrom_length_append (tail rest : Bytes) :
    piecesFrom tail.length (tail ++ rest) = pieces rest := by
  induction tail with
  | nil => rfl
  | cons a tail ih => exact ih

theorem pieces_encodeCode_append {c : Nat} (h : Text.isScalar c = true) (bytes : Bytes) :
    pieces (encodeCode c ++ bytes) = .good c :: pieces bytes := by
  obtain ⟨a, tail, hcode, hfirst⟩ := exists_encodeCode_eq_cons h
  rw [hcode, List.cons_append, pieces, piecesFrom, hfirst]
  exact congrArg _ (piecesFrom_length_append tail bytes)

/-- A text of characters is read from its bytes. -/
theorem pieces_encoded {t : Text} (h : ∀ c ∈ t, Text.isScalar c = true) :
    pieces (t.flatMap encodeCode) = t.map .good := by
  induction t with
  | nil => rfl
  | cons c t ih =>
      rw [List.flatMap_cons, pieces_encodeCode_append (h c (List.mem_cons_self ..)),
        ih fun d hd => h d (List.mem_cons_of_mem c hd)]
      rfl

theorem decode_of_pieces {bytes : Bytes} {t : Text} (h : pieces bytes = t.map .good) :
    decode bytes = .ok t := by
  have hgo (t : Text) (position : Nat) : decode.go position (t.map .good) = .ok t := by
    induction t generalizing position with
    | nil => rfl
    | cons c t ih =>
        rw [List.map_cons, decode.go, ih]
        rfl
  rw [decode, h, hgo]

end Mend.Utf8
