import Mend.Json.Access

/-!
# Collected payloads

What a model reports through calls of a tool. A payload without all required fields is refused, with
an answer that tells the model so.

## Main definitions

* `Storage`, `Storage.store` — the payloads so far, and taking one more.
* `Storage.Reply` — the answer to a call.
-/

namespace Mend

/-- The payloads that were taken, in order of arrival. -/
structure Storage where
  /-- The fields that a payload must have. -/
  required : List Text
  values : List Value := []
  rejected : Nat := 0

namespace Storage

/-- The answer to a call. -/
inductive Reply where
  | stored (total : Nat)
  | rejected (missing : List Text)
deriving DecidableEq, Repr

/-- The answer as the protocol of the tool has it. -/
def Reply.toValue : Reply → Value
  | .stored total =>
    .record [("content", .list [.record [
      ("type", .str "text"), ("text", .text (.cat ["Stored. Total: ", .decimal total]))]])]
  | .rejected missing =>
    .record [
      ("content", .list [.record [
        ("type", .str "text"),
        ("text", .text (.cat ["Rejected: missing ", .join ", " missing]))]]),
      ("is_error", .bool true)]

/-- Whether a field is missing: not there, `null` or an empty text. -/
def lacks (payload : Value) (name : Text) : Bool :=
  match payload.field? name with
  | none | some .null | some (.text []) => true
  | _ => false

/-- Takes a payload, or refuses it. -/
def store (s : Storage) (payload : Value) : Reply × Storage :=
  match s.required.filter (lacks payload) with
  | [] =>
    let values := s.values ++ [payload]
    (.stored values.length, { s with values })
  | missing => (.rejected missing, { s with rejected := s.rejected + 1 })

end Storage

end Mend
