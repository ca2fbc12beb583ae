import Mend.Text.Utf8

/-!
# Encodings of documents

A document comes in UTF-8, UTF-16 or UTF-32. Which one it is shows in its first bytes: a byte order
mark, or the zeros around the first characters, which are ASCII.

## Main definitions

* `Json.Encoding`, `Json.Encoding.detect` — the encodings, and telling them apart.
* `Json.textOfBytes?` — the text of the bytes of a document.
-/

namespace Mend.Json

/-- The order of the bytes in a unit of several bytes. -/
inductive ByteOrder where
  | bigFirst
  | littleFirst
deriving DecidableEq, Repr

/-- The encodings of documents. -/
inductive Encoding where
  | utf8
  | utf16 (order : ByteOrder)
  | utf32 (order : ByteOrder)
deriving DecidableEq, Repr

/-- The encoding that the zeros around the first characters of a document speak for. -/
def Encoding.ofZeros : Bytes → Encoding
  | a :: b :: c :: d :: _ =>
    if a == 0 then (if b != 0 then .utf16 .bigFirst else .utf32 .bigFirst)
    else if b == 0 then (if c != 0 || d != 0 then .utf16 .littleFirst else .utf32 .littleFirst)
    else .utf8
  | [a, b] => if a == 0 then .utf16 .bigFirst else if b == 0 then .utf16 .littleFirst else .utf8
  | _ => .utf8

/-- The encoding of a document, and its bytes without a byte order mark. -/
def Encoding.detect (bytes : Bytes) : Encoding × Bytes :=
  match bytes with
  | 0x00 :: 0x00 :: 0xFE :: 0xFF :: rest => (.utf32 .bigFirst, rest)
  | 0xFF :: 0xFE :: 0x00 :: 0x00 :: rest => (.utf32 .littleFirst, rest)
  | 0xFE :: 0xFF :: rest => (.utf16 .bigFirst, rest)
  | 0xFF :: 0xFE :: rest => (.utf16 .littleFirst, rest)
  | 0xEF :: 0xBB :: 0xBF :: rest => (.utf8, rest)
  | _ => (.ofZeros bytes, bytes)

/-- The number that two bytes stand for. -/
def ByteOrder.pair (order : ByteOrder) (a b : UInt8) : Nat :=
  match order with
  | .bigFirst => 256 * a.toNat + b.toNat
  | .littleFirst => 256 * b.toNat + a.toNat

/-- The units of two bytes, if the bytes come out even. -/
def units16? (order : ByteOrder) : Bytes → Option (List Nat)
  | [] => some []
  | a :: b :: rest => (units16? order rest).map (order.pair a b :: ·)
  | [_] => none

/-- The units of four bytes, if the bytes come out even. -/
def units32? (order : ByteOrder) : Bytes → Option (List Nat)
  | [] => some []
  | a :: b :: c :: d :: rest => do
    let unit :=
      match order with
      | .bigFirst => 65536 * order.pair a b + order.pair c d
      | .littleFirst => 65536 * order.pair c d + order.pair a b
    some (unit :: (← units32? order rest))
  | _ => none

/-- The code points of units of two bytes. Half a pair stands for itself. -/
def joinUnits : List Nat → Text
  | [] => []
  | [u] => [u]
  | u :: v :: rest =>
    if 0xD800 ≤ u && u < 0xDC00 && 0xDC00 ≤ v && v < 0xE000 then
      (0x10000 + (u - 0xD800) * 0x400 + (v - 0xDC00)) :: joinUnits rest
    else u :: joinUnits (v :: rest)

/-- The code points of the pieces of UTF-8. Half a pair, encoded on its own, stands for itself. -/
def joinPieces : List Utf8.Piece → Option Text
  | [] => some []
  | .good c :: rest => (joinPieces rest).map (c :: ·)
  | .bad [0xED] _ :: .bad [b] _ :: .bad [c] _ :: rest =>
    if 0xA0 ≤ b && Utf8.isCont b && Utf8.isCont c then
      (joinPieces rest).map ((0xD000 + 64 * Utf8.low b + Utf8.low c) :: ·)
    else none
  | .bad .. :: _ => none

/-- The text of the bytes of a document, if they are in its encoding throughout. -/
def textOfBytes? (bytes : Bytes) : Option Text :=
  match Encoding.detect bytes with
  | (.utf8, bs) => joinPieces (Utf8.pieces bs)
  | (.utf16 order, bs) => (units16? order bs).map joinUnits
  | (.utf32 order, bs) => (units32? order bs).filter fun t => t.all fun c => decide (c < 0x110000)

end Mend.Json
