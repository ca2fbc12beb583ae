import Mend.Text.Basic

/-!
# Source code in an answer

A model answers with the whole file in a fenced block: a line that begins with three grave accents,
the file, and three grave accents again. What stands around the blocks is talk and is dropped; of
several blocks the longest counts.

## Main definitions

* `Answer.fence`, `Answer.fenced` — how a block is written.
* `Answer.blocks` — the bodies of the blocks of an answer.
* `Answer.extractSource` — the file in an answer, if there is a usable one.
-/

namespace Mend.Answer

/-- The mark that opens and closes a block. -/
def fence : Text := [Text.backtick, Text.backtick, Text.backtick]

/-- What a model answers when it cannot fix a file. -/
def unusableMark : Text := "UNABLE_TO_FIX"

/-- A block with some words behind its opening mark. -/
def fenced (info body : Text) : Text := .cat [fence, info, [Text.newline], body, fence]

/-- The text behind an opening line, if the text begins with one. The line may say anything that
holds no grave accent. -/
def behindOpening? (t : Text) : Option Text :=
  if fence.isPrefixOf t then
    match (t.drop 3).dropWhile fun c => c != Text.newline && c != Text.backtick with
    | c :: rest => if c == Text.newline then some rest else none
    | [] => none
  else none

/-- The text before the first mark, and the text behind the mark. -/
def untilFence? : Text → Option (Text × Text)
  | [] => none
  | c :: rest =>
    if fence.isPrefixOf (c :: rest) then some ([], (c :: rest).drop 3)
    else (untilFence? rest).map fun (body, behind) => (c :: body, behind)

theorem length_of_behindOpening? {t rest : Text} (h : behindOpening? t = some rest) :
    rest.length < t.length := by
  unfold behindOpening? at h
  split at h
  · have hd := (List.dropWhile_sublist (l := t.drop 3)
      fun c => c != Text.newline && c != Text.backtick).length_le
    simp only [List.length_drop] at hd
    split at h
    · rename_i c r hr
      rw [hr] at hd
      split at h
      · cases h
        simp only [List.length_cons] at hd
        omega
      · cases h
    · cases h
  · cases h

theorem length_of_untilFence? {t body behind : Text} (h : untilFence? t = some (body, behind)) :
    behind.length ≤ t.length := by
  induction t generalizing body with
  | nil => simp [untilFence?] at h
  | cons c rest ih =>
    unfold untilFence? at h
    split at h
    · cases h
      simp only [List.length_drop]
      omega
    · obtain ⟨⟨b, r⟩, hb, he⟩ := Option.map_eq_some_iff.1 h
      cases he
      have := ih hb
      simp only [List.length_cons]
      omega

/-- The bodies of the blocks of a text, in order. A mark that opens no block is talk. -/
def blocks (t : Text) : List Text :=
  match t with
  | [] => []
  | c :: rest =>
    match _h : behindOpening? (c :: rest) with
    | none => blocks rest
    | some inside =>
      match _h' : untilFence? inside with
      | none => blocks rest
      | some (body, behind) => body :: blocks behind
termination_by t.length
decreasing_by
  · simp
  · simp
  · have h₁ := length_of_behindOpening? _h
    have h₂ := length_of_untilFence? _h'
    simp only [List.length_cons] at h₁ ⊢
    omega

/-- The first of the longest texts. -/
def longest : List Text → Option Text
  | [] => none
  | t :: rest => some (rest.foldl (fun best u => if best.length < u.length then u else best) t)

/-- The text behind the first line. -/
def behindFirstLine (t : Text) : Text := (t.dropWhile (· != Text.newline)).drop 1

/-- The body of an answer: that of the longest block, or what stands behind the opening line of a
block that is not closed. -/
def body? (t : Text) : Option Text :=
  match longest (blocks t) with
  | some body => some body
  | none => if t.startsWith fence then some (behindFirstLine t) else none

/-- A body as the text of a file: one line feed at the end and none before it; a blank body is no
file. -/
def tidy (body : Text) : Option Text :=
  let inner := body.trim (· == Text.newline)
  if inner.strip.isEmpty then none else some (inner ++ [Text.newline])

/-- The file in an answer. -/
def extractSource (t : Text) : Option Text :=
  let stripped := t.strip
  if stripped.isEmpty || stripped.startsWith unusableMark then none
  else (body? stripped).bind tidy

end Mend.Answer
