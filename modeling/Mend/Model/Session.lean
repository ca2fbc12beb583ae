import Mend.World

/-!
# Model sessions

A session with a language model: it is opened with some options, gets one prompt, and answers with a
stream of messages. The model may call the one tool that it is offered.

## Main definitions

* `Model.Options`, `Model.Message` — how a session is opened and what it sends.
* `Model.Service` — whatever answers sessions.
-/

namespace Mend.Model

/-- How a session is opened. -/
structure Options where
  systemPrompt : Text
  /-- The tools of the model's own that it may use. -/
  tools : List Text := []
  /-- The tools that it may use without asking. -/
  allowedTools : List Text := []
  maxTurns : Int
  /-- The model to use in place of the default one. -/
  model : Option Text := none

/-- A part of an answer. -/
inductive Block where
  | text (t : Text)
  | thought (t : Text)

/-- The account of a finished answer. -/
structure Account where
  usage : Value := .null
  cost : Value := .null
  isError : Bool := false
  result : Value := .null
  milliseconds : Value := .nat 0

/-- A message of a session. -/
inductive Message where
  | answer (blocks : List Block)
  | account (a : Account)
  /-- A call of the tool on offer. -/
  | toolCall (arguments : Value)
  /-- The session breaks off. -/
  | broken (message : Text)

/-- Answers a prompt in a new session. -/
abbrev Service (σ : Type) := Options → (prompt : Text) → Act (World σ) (List Message)

end Mend.Model
