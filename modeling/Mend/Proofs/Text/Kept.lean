import Mend.Proofs.Text.Utf8
import Mathlib.Data.List.Basic

/-!
# Bytes that are kept

A byte sequence is cut into pieces without loss: the bytes of the pieces, one after the other, are the
sequence. A text that was read with undecodable bytes kept is written as the bytes that were read,
whatever these are. Each code point is written on its own, so the bytes of a part of a text do not
depend on what stands beside it.

## Main definitions

* `Utf8.keptBytes` — the bytes of a code point, where a kept byte stands for itself.
* `Utf8.Piece.bytes` — the bytes that a piece was cut from.

## Main statements

* `Utf8.flatMap_bytes_pieces` — nothing is lost when a byte sequence is cut.
* `Utf8.encodeKeeping_decodeKeeping` — what was read is written again.
-/

namespace Mend.Utf8

/-- The bytes of a code point, where a kept byte stands for itself. -/
def keptBytes (c : Code) : Bytes := if isKept c then [(c - 0xDC00).toUInt8] else encodeCode c

theorem encodeKeeping_eq {t : Text} (h : IsWritable t) :
    encodeKeeping t = .ok (t.flatMap keptBytes) := by
  have hnone : (t.findIdx? fun c => !(Text.isScalar c || isKept c)) = none := by
    rw [List.findIdx?_eq_none_iff]
    intro c hc
    rw [h c hc]
    rfl
  rw [encodeKeeping, hnone]
  rfl

theorem isWritable_append {t u : Text} : IsWritable (t ++ u) ↔ IsWritable t ∧ IsWritable u :=
  List.forall_mem_append

theorem isKept_iff {c : Nat} : isKept c = true ↔ 0xDC80 ≤ c ∧ c ≤ 0xDCFF := by
  simp [isKept]

/-- A character is no kept byte. -/
theorem keptBytes_of_isScalar {c : Code} (h : Text.isScalar c = true) :
    keptBytes c = encodeCode c := by
  refine if_neg fun hkept => ?_
  rw [isScalar_iff] at h
  rw [isKept_iff] at hkept
  omega

/-- A text of characters is written as its UTF-8. -/
theorem encode_of_isScalar {t : Text} (h : ∀ c ∈ t, Text.isScalar c = true) :
    encode t = .ok (t.flatMap keptBytes) := by
  have hnone : (t.findIdx? fun c => !Text.isScalar c) = none := by
    rw [List.findIdx?_eq_none_iff]
    intro c hc
    rw [h c hc]
    rfl
  rw [encode, hnone]
  exact congrArg Except.ok (List.flatMap_congr fun c hc => (keptBytes_of_isScalar (h c hc)).symm)

theorem keptBytes_kept {b : UInt8} (h : 0x80 ≤ b.toNat) : keptBytes (kept b) = [b] := by
  rw [keptBytes, if_pos (isKept_kept h)]
  have hvalue : kept b - 0xDC00 = b.toNat := Nat.add_sub_cancel_left ..
  rw [hvalue]
  exact congrArg (fun x => [x]) (UInt8.ofNat_toNat)

/-! ## Cutting without loss -/

/-- The bytes that a piece was cut from. -/
def Piece.bytes : Piece → Bytes
  | good c => encodeCode c
  | bad run _ => run

/-- A byte is the one with a given value. -/
theorem toUInt8_eq {n : Nat} {b : UInt8} (h : n = b.toNat) : n.toUInt8 = b := by
  rw [h]
  exact UInt8.ofNat_toNat

theorem encodeCode_one {a : UInt8} (h : a.toNat < 0x80) : encodeCode a.toNat = [a] := by
  rw [encodeCode, if_pos h, toUInt8_eq rfl]

theorem encodeCode_two {a b : UInt8} (hlow : 0xC2 ≤ a.toNat) (hhigh : a.toNat < 0xE0)
    (hb : isCont b = true) : encodeCode (a.toNat % 32 * 64 + low b) = [a, b] := by
  rw [isCont_iff] at hb
  unfold low
  generalize hcode : a.toNat % 32 * 64 + b.toNat % 64 = code
  have h80 : ¬code < 0x80 := by omega
  have h800 : code < 0x800 := by omega
  rw [encodeCode, if_neg h80, if_pos h800]
  simp only [List.cons.injEq, and_true]
  exact ⟨toUInt8_eq (by omega), toUInt8_eq (by omega)⟩

theorem encodeCode_three {a b c : UInt8} (hlow : 0xE0 ≤ a.toNat) (hhigh : a.toNat < 0xF0)
    (hb : isSecond a b = true) (hc : isCont c = true) :
    encodeCode ((a.toNat % 16 * 64 + low b) * 64 + low c) = [a, b, c] := by
  rw [isSecond_iff] at hb
  rw [isCont_iff] at hc
  unfold low
  generalize hcode : (a.toNat % 16 * 64 + b.toNat % 64) * 64 + c.toNat % 64 = code
  have h80 : ¬code < 0x80 := by omega
  have h800 : ¬code < 0x800 := by omega
  have h10000 : code < 0x10000 := by omega
  rw [encodeCode, if_neg h80, if_neg h800, if_pos h10000]
  simp only [List.cons.injEq, and_true]
  exact ⟨toUInt8_eq (by omega), toUInt8_eq (by omega), toUInt8_eq (by omega)⟩

theorem encodeCode_four {a b c d : UInt8} (hlow : 0xF0 ≤ a.toNat) (hhigh : a.toNat < 0xF5)
    (hb : isSecond a b = true) (hc : isCont c = true) (hd : isCont d = true) :
    encodeCode (((a.toNat % 8 * 64 + low b) * 64 + low c) * 64 + low d) = [a, b, c, d] := by
  rw [isSecond_iff] at hb
  rw [isCont_iff] at hc hd
  unfold low
  generalize hcode :
    ((a.toNat % 8 * 64 + b.toNat % 64) * 64 + c.toNat % 64) * 64 + d.toNat % 64 = code
  have h80 : ¬code < 0x80 := by omega
  have h800 : ¬code < 0x800 := by omega
  have h10000 : ¬code < 0x10000 := by omega
  rw [encodeCode, if_neg h80, if_neg h800, if_neg h10000]
  simp only [List.cons.injEq, and_true]
  exact ⟨toUInt8_eq (by omega), toUInt8_eq (by omega), toUInt8_eq (by omega),
    toUInt8_eq (by omega)⟩

/-- The first piece is cut from the first bytes of a sequence. -/
theorem bytes_firstPiece (a : UInt8) (rest : Bytes) :
    (firstPiece a rest).1.bytes = a :: rest.take (firstPiece a rest).2 := by
  fun_cases firstPiece a rest
  case case1 ha => exact encodeCode_one (UInt8.lt_iff_toNat_lt.1 ha)
  case case3 h80 hC2 ha b rest hb =>
    have hlow : 0xC2 ≤ a.toNat := Nat.le_of_not_lt fun h => hC2 (UInt8.lt_iff_toNat_lt.2 h)
    exact encodeCode_two hlow (UInt8.lt_iff_toNat_lt.1 ha) hb
  case case6 h80 hC2 hE0 ha b c rest hb hc =>
    have hlow : 0xE0 ≤ a.toNat := Nat.le_of_not_lt fun h => hE0 (UInt8.lt_iff_toNat_lt.2 h)
    exact encodeCode_three hlow (UInt8.lt_iff_toNat_lt.1 ha) hb hc
  case case12 h80 hC2 hE0 hF0 ha b c d rest hb hc hd =>
    have hlow : 0xF0 ≤ a.toNat := Nat.le_of_not_lt fun h => hF0 (UInt8.lt_iff_toNat_lt.2 h)
    exact encodeCode_four hlow (UInt8.lt_iff_toNat_lt.1 ha) hb hc hd
  -- In every other case the piece is the run of bytes itself.
  all_goals rfl

theorem flatMap_bytes_piecesFrom (extra : Nat) (bytes : Bytes) :
    (piecesFrom extra bytes).flatMap Piece.bytes = bytes.drop extra := by
  induction bytes generalizing extra with
  | nil => simp [piecesFrom]
  | cons a rest ih =>
      cases extra with
      | succ extra => exact ih extra
      | zero =>
          rw [piecesFrom, List.flatMap_cons, ih, bytes_firstPiece, List.cons_append,
            List.take_append_drop]
          rfl

/-- Nothing is lost when a byte sequence is cut into pieces. -/
theorem flatMap_bytes_pieces (bytes : Bytes) : (pieces bytes).flatMap Piece.bytes = bytes :=
  flatMap_bytes_piecesFrom 0 bytes

/-- What was read with undecodable bytes kept is written again. -/
theorem encodeKeeping_decodeKeeping (bytes : Bytes) :
    encodeKeeping (decodeKeeping bytes) = .ok bytes := by
  rw [encodeKeeping_eq (isWritable_decodeKeeping bytes), decodeKeeping, List.flatMap_assoc]
  refine congrArg Except.ok (Eq.trans ?_ (flatMap_bytes_pieces bytes))
  refine List.flatMap_congr fun p hp => ?_
  have hsound := sound_piecesFrom 0 bytes p hp
  cases p with
  | good c =>
      rw [List.flatMap_singleton]
      exact keptBytes_of_isScalar hsound
  | bad run defect =>
      have hrun : ∀ b ∈ run, keptBytes (kept b) = [b] := fun b hb => keptBytes_kept (hsound b hb)
      rw [List.flatMap_map, List.flatMap_congr hrun]
      exact List.flatMap_singleton' run

end Mend.Utf8
