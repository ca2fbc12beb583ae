import Mend.Model.Session
import Mend.Drafting.Request
import Mend.Drafting.Answer

/-!
# Drafts by a model

A model gets a request as a prompt. It may use no tools, so that drafting never touches a file; its
words, taken together, are the answer.

## Main definitions

* `ModelDrafter.ask`, `ModelDrafter.draft` — asking a model, and the drafter that does.
-/

namespace Mend.ModelDrafter

open Model

variable {σ : Type}

/-- How a session is opened. -/
def options (model : Option Text) (maxTurns : Int) (r : Drafting.Request) : Options where
  systemPrompt := r.instructions
  maxTurns := maxTurns
  model := model

/-- The words in some blocks. -/
def words : List Block → Text
  | [] => []
  | .text t :: rest => t ++ words rest
  | .thought _ :: rest => words rest

/-- A count in an account; what is not given counts nothing. -/
def countIn (v : Value) (name : Text) : Except Fault Int := do
  let n ← v.getD name (.nat 0)
  (n.givenOr (.nat 0)).asInt

/-- The consumption that an account states. -/
def usageOf (a : Account) : Except Fault Fix.Usage := do
  let usage := a.usage.givenOr (.obj [])
  let inputTokens ← countIn usage "input_tokens"
  let outputTokens ← countIn usage "output_tokens"
  let cost ← (a.cost.givenOr (.num (.real 0))).asReal
  return { inputTokens, outputTokens, cost := .real cost }

/-- What the log says about a finished answer. -/
def notices (path : Text) (a : Account) : List Log.Line :=
  ⟨Log.debug, .cat ["Rewrite of ", path, " took ", a.milliseconds.shown, "ms"]⟩ ::
    if a.isError then
      [⟨Log.warning, .cat ["Rewriter reported an error for ", path, ": ", a.result.shown]⟩]
    else []

/-- Goes through the messages of a session: the words at the end, and the last account. -/
def collect (path : Text) :
    Text → Fix.Usage → List Message → Act (World σ) (Text × Fix.Usage)
  | raw, usage, [] => return (raw, usage)
  | raw, usage, .answer blocks :: rest => collect path (raw ++ words blocks) usage rest
  | raw, _, .account a :: rest => do
    let usage ← Act.ofExcept (usageOf a)
    World.tell (notices path a)
    collect path raw usage rest
  | raw, usage, .toolCall _ :: rest => collect path raw usage rest
  | _, _, .broken message :: _ => Act.fail (.broken message)

/-- The draft in the words of an answer. -/
def draftOf (raw : Text) (usage : Fix.Usage) : Drafting.Draft where
  content := Answer.extractSource raw
  usage := usage
  raw := raw

/-- Puts a request to a model. -/
def ask (service : Service σ) (model : Option Text) (maxTurns : Int) (r : Drafting.Request) :
    Act (World σ) (List Message) := do
  let prompt ← Act.ofExcept r.prompt
  service (options model maxTurns r) prompt

/-- Asks a model for a corrected version of a file. -/
def draft (service : Service σ) (model : Option Text) (maxTurns : Int) : Drafter σ := fun r => do
  let messages ← ask service model maxTurns r
  let (raw, usage) ← collect r.path [] {} messages
  return draftOf raw usage

end Mend.ModelDrafter
