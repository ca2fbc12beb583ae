import Mend.Text.Basic

/-!
# UTF-8

Reading bytes as text and writing text as bytes. A run of bytes that is no UTF-8 can be refused,
replaced by one U+FFFD, or kept: then every byte of it becomes the code point `0xDC00` plus its
value, and writing the text gives the same bytes back.

## Main definitions

* `Utf8.pieces` — the bytes cut into decoded characters and undecodable runs.
* `Utf8.decode`, `Utf8.decodeReplacing`, `Utf8.decodeKeeping` — the three ways of reading.
* `Utf8.encode`, `Utf8.encodeKeeping` — the two ways of writing.
-/

namespace Mend

/-- The contents of a file. -/
abbrev Bytes := List UInt8

namespace Utf8

/-- Why a run of bytes is no UTF-8. -/
inductive Defect where
  | start
  | continuation
  | ending
deriving DecidableEq, Repr

/-- A piece of a byte sequence: a character, or a run of bytes that encodes none. -/
inductive Piece where
  | good (c : Code)
  | bad (run : Bytes) (defect : Defect)
deriving DecidableEq, Repr

/-- The bytes `0x80` to `0xBF`, which continue a sequence. -/
def isCont (b : UInt8) : Bool := 0x80 ≤ b && b ≤ 0xBF

/-- The bytes that may come second after the lead byte `a`. -/
def isSecond (a b : UInt8) : Bool :=
  isCont b &&
    (if a == 0xE0 then 0xA0 ≤ b else if a == 0xED then b < 0xA0
     else if a == 0xF0 then 0x90 ≤ b else if a == 0xF4 then b < 0x90 else true)

/-- The payload of a continuation byte. -/
def low (b : UInt8) : Nat := b.toNat % 64

/-- The first piece of a non-empty byte sequence, and how many bytes after the first belong to it. -/
def firstPiece (a : UInt8) (rest : Bytes) : Piece × Nat :=
  if a < 0x80 then (.good a.toNat, 0)
  else if a < 0xC2 then (.bad [a] .start, 0)
  else if a < 0xE0 then
    match rest with
    | b :: _ =>
      if isCont b then (.good (a.toNat % 32 * 64 + low b), 1) else (.bad [a] .continuation, 0)
    | [] => (.bad [a] .ending, 0)
  else if a < 0xF0 then
    match rest with
    | b :: c :: _ =>
      if isSecond a b then
        if isCont c then (.good ((a.toNat % 16 * 64 + low b) * 64 + low c), 2)
        else (.bad [a, b] .continuation, 1)
      else (.bad [a] .continuation, 0)
    | [b] => if isSecond a b then (.bad [a, b] .ending, 1) else (.bad [a] .continuation, 0)
    | [] => (.bad [a] .ending, 0)
  else if a < 0xF5 then
    match rest with
    | b :: c :: d :: _ =>
      if isSecond a b then
        if isCont c then
          if isCont d then
            (.good (((a.toNat % 8 * 64 + low b) * 64 + low c) * 64 + low d), 3)
          else (.bad [a, b, c] .continuation, 2)
        else (.bad [a, b] .continuation, 1)
      else (.bad [a] .continuation, 0)
    | [b, c] =>
      if isSecond a b then
        if isCont c then (.bad [a, b, c] .ending, 2) else (.bad [a, b] .continuation, 1)
      else (.bad [a] .continuation, 0)
    | [b] => if isSecond a b then (.bad [a, b] .ending, 1) else (.bad [a] .continuation, 0)
    | [] => (.bad [a] .ending, 0)
  else (.bad [a] .start, 0)

/-- The pieces of a byte sequence, in order, behind so many bytes of a piece that has begun. -/
def piecesFrom : Nat → Bytes → List Piece
  | _, [] => []
  | extra + 1, _ :: rest => piecesFrom extra rest
  | 0, a :: rest =>
    let (piece, extra) := firstPiece a rest
    piece :: piecesFrom extra rest

/-- The pieces of a byte sequence, in order. -/
def pieces (bytes : Bytes) : List Piece := piecesFrom 0 bytes

/-- The first undecodable run, with the bytes that belong to it, its position and its defect. -/
structure Failure where
  run : Bytes
  position : Nat
  defect : Defect
deriving DecidableEq, Repr

/-- The number of bytes that a code point takes. -/
def width (c : Code) : Nat :=
  if c < 0x80 then 1 else if c < 0x800 then 2 else if c < 0x10000 then 3 else 4

/-- The text of valid UTF-8, or the first place where it is not valid. -/
def decode (bytes : Bytes) : Except Failure Text :=
  go 0 (pieces bytes)
where
  /-- Collects characters; `position` bytes have been read. -/
  go (position : Nat) : List Piece → Except Failure Text
    | [] => .ok []
    | .good c :: rest => (go (position + width c) rest).map (c :: ·)
    | .bad run defect :: _ => .error { run, position, defect }

/-- The text of a byte sequence, with one U+FFFD for each undecodable run. -/
def decodeReplacing (bytes : Bytes) : Text :=
  (pieces bytes).map fun
    | .good c => c
    | .bad _ _ => 0xFFFD

/-- The code point that stands for an undecodable byte. -/
def kept (b : UInt8) : Code := 0xDC00 + b.toNat

/-- The text of a byte sequence, with undecodable bytes kept. -/
def decodeKeeping (bytes : Bytes) : Text :=
  (pieces bytes).flatMap fun
    | .good c => [c]
    | .bad run _ => run.map kept

/-- The bytes of a code point in UTF-8. -/
def encodeCode (c : Code) : Bytes :=
  if c < 0x80 then [c.toUInt8]
  else if c < 0x800 then [(0xC0 + c / 64).toUInt8, (0x80 + c % 64).toUInt8]
  else if c < 0x10000 then
    [(0xE0 + c / 4096).toUInt8, (0x80 + c / 64 % 64).toUInt8, (0x80 + c % 64).toUInt8]
  else
    [(0xF0 + c / 262144).toUInt8, (0x80 + c / 4096 % 64).toUInt8, (0x80 + c / 64 % 64).toUInt8,
     (0x80 + c % 64).toUInt8]

/-- The bytes of a text, or the position of the first code point that has no encoding. -/
def encode (t : Text) : Except Nat Bytes :=
  match t.findIdx? fun c => !Text.isScalar c with
  | some i => .error i
  | none => .ok (t.flatMap encodeCode)

/-- Whether a code point stands for an undecodable byte. -/
def isKept (c : Code) : Bool := 0xDC80 ≤ c && c ≤ 0xDCFF

/-- The bytes of a text, where a kept byte is written as itself. -/
def encodeKeeping (t : Text) : Except Nat Bytes :=
  match t.findIdx? fun c => !(Text.isScalar c || isKept c) with
  | some i => .error i
  | none => .ok (t.flatMap fun c => if isKept c then [(c - 0xDC00).toUInt8] else encodeCode c)

end Utf8

end Mend
