import Mend.Json.Encoding
import Mend.Scanner.Exchange
import Mend.Scanner.Query

/-!
# Asking a scanner

The questions that are put to a scanner: whether it is up, whether it accepts the credentials,
whether the project is there, and which findings it has.

## Main definitions

* `Client`, `Client.make` — the means to ask a scanner.
* `Client.connection`, `Client.project`, `Client.preflight` — the questions before a search.
* `Client.search` — a page of findings.
-/

namespace Mend.Scanner

variable {σ : Type}

/-- The means to ask a scanner. -/
structure Client where
  settings : ScannerSettings

/-- The means to ask the scanner of some settings, if the library takes the access. -/
def Client.make (server : Server σ) (settings : ScannerSettings) : Except Fault Client :=
  match server.refusal? (.ofSettings settings) with
  | some reason => .error (.web reason)
  | none => .ok { settings }

theorem Client.settings_of_make {server : Server σ} {s : ScannerSettings} {c : Client}
    (h : make server s = .ok c) : c.settings = s := by
  rw [make] at h
  split at h
  · cases h
  · cases h
    rfl

namespace Reply

/-- The value in the body, if the body is a document. One that is nested too deeply to be read is a
fault. -/
def value (r : Reply) : Except Fault (Option Value) :=
  match Json.textOfBytes? r.body with
  | none => .ok none
  | some t =>
    match Json.read r.depth t with
    | .ok v => .ok (some v)
    | .error f => if f.reason = .tooDeep then .error (.badDocument f) else .ok none

/-- The document in the body. Anything else than an object is refused. -/
def document (r : Reply) (refuse : Text → ScanFault) : Except Fault Value := do
  match ← r.value with
  | some (.obj fields) => return .obj fields
  | some _ => throw (.scan (refuse (.cat ["Unexpected response shape from ", r.url])))
  | none =>
    throw (.scan (refuse (.cat ["Unexpected non-JSON response from ", r.url, " (HTTP ",
      .ofInt r.status, ")"])))

end Reply

/-! ## Standings -/

/-- What came of asking for the scanner. -/
inductive Connection where
  /-- The scanner cannot be used. -/
  | down (version : Value) (reason : Text)
  /-- The scanner does not accept the credentials. -/
  | refused (version : Value)
  | up (version : Value)

/-- What came of asking for the project. -/
inductive Standing where
  | found (name : Value)
  | missing (reason : Text)
  /-- The project may not be looked at. -/
  | forbidden
  /-- The scanner does not accept the credentials. -/
  | refused

/-- What an action gives, or the reason why the scanner could not be used. -/
def unlessDown {S α : Type} (a : Act S α) : Act S (Except Text α) := do
  match ← a.attempt with
  | .ok x => return .ok x
  | .error (.scan (.connection reason)) => return .error reason
  | .error e => Act.fail e

namespace Client

/-- The fault of an exchange that broke off. -/
def unreachable (c : Client) (reason : Text) : Fault :=
  .scan (.connection (.cat ["Cannot reach scanner at ", c.settings.url, ": ", reason]))

/-- Asks for a resource. -/
def get (c : Client) (server : Server σ) (resource : Text)
    (fields : Option (List (Text × Value))) : Act (World σ) Reply := do
  match ← server.ask (.ofSettings c.settings) ⟨resource, fields⟩ with
  | .reply r => return r
  | .broken reason => Act.fail (c.unreachable reason)
  | .refused reason => Act.fail (.web reason)

/-- Asks how the scanner is. -/
def systemStatus (c : Client) (server : Server σ) : Act (World σ) Value := do
  let r ← c.get server "/api/system/status" none
  if r.status != 200 then
    Act.fail (.scan (.connection
      (.cat ["Server status check failed with HTTP ", .ofInt r.status])))
  else Act.ofExcept (r.document .connection)

/-- Asks whether the credentials are accepted. -/
def isAccepted (c : Client) (server : Server σ) : Act (World σ) Bool := do
  let r ← c.get server "/api/authentication/validate" none
  if r.status = 401 then return false
  else
    let d ← Act.ofExcept (r.document .connection)
    return ((d.field? "valid").getD (.bool false)).isGiven

/-- Asks whether the scanner is up and accepts the credentials. -/
def connection (c : Client) (server : Server σ) : Act (World σ) Connection := do
  match ← unlessDown (c.systemStatus server) with
  | .error reason => return .down .null reason
  | .ok d =>
    let version := (d.field? "version").getD .null
    let status := (d.field? "status").getD .null
    if status.same (.str "UP") then
      match ← unlessDown (c.isAccepted server) with
      | .error reason => return .down version reason
      | .ok true => return .up version
      | .ok false => return .refused version
    else return .down version (.cat ["Scanner is not ready (status ", status.shown, ")"])

/-- Asks whether a project is there and may be looked at. -/
def project (c : Client) (server : Server σ) (key : Text) : Act (World σ) Standing := do
  let r ← c.get server "/api/components/show" (some [("component", .text key)])
  let status := r.status
  if status = 200 then
    let d ← Act.ofExcept (r.document .connection)
    let component := (d.field? "component").getD (.obj [])
    return .found (← Act.ofExcept (component.getD "name" (.text key)))
  else if status = 404 then return .missing "not_found"
  else if status = 403 then return .forbidden
  else if status = 401 then return .refused
  else return .missing (.cat ["HTTP ", .ofInt status])

/-- Asks for the scanner and then for the project of the settings, and fails unless both are there
and may be used. -/
def preflight (c : Client) (server : Server σ) : Act (World σ) Value := do
  match ← c.connection server with
  | .down _ reason => Act.fail (.scan (.connection reason))
  | .refused _ =>
    Act.fail (.scan (.auth (.cat ["Credentials rejected by ", c.settings.url])))
  | .up version =>
    World.say Log.info
      ["Connected to scanner ", c.settings.url, " (version ", version.shown, ")"]
    let key := c.settings.projectKey
    match ← c.project server key with
    | .forbidden =>
      Act.fail (.scan (.projectPermission (.cat ["No permission to browse project '", key, "'"])))
    | .refused =>
      Act.fail (.scan (.auth
        (.cat ["Credentials rejected while looking up project '", key, "'"])))
    | .missing reason =>
      Act.fail (.scan (.projectMissing (.cat ["Project '", key, "' not found (", reason, ")"])))
    | .found name =>
      World.say Log.info ["Project '", key, "' found: ", name.shown]
      return name

/-! ## Searches -/

/-- Notes the path of a component, if it is a file. -/
def noteComponent (known : List (Value × Value)) (v : Value) :
    Except Fault (List (Value × Value)) := do
  let qualifier ← v.getD "qualifier" .null
  let path ← v.getD "path" .null
  if qualifier.same (.str "FIL") && path.isGiven then
    let key ← v.require "key"
    if key.isAtomic then
      return if known.any (·.1.same key) then
          known.map fun entry => if entry.1.same key then (entry.1, path) else entry
        else known ++ [(key, path)]
    else throw (.wrongKind (.cat ["unhashable type: '", key.kind, "'"]))
  else return known

/-- How many findings a search has in all, as the document says that answers it. -/
def totalOf (d : Value) : Except Fault Value := do
  (← d.getD "paging" (.obj [])).getD "total" ((d.field? "total").getD (.nat 0))

/-- The paths of the files in a document that answers a search. -/
def filesOf (d : Value) : Except Fault (List (Value × Value)) := do
  (← (← d.getD "components" (.list [])).elements).foldlM noteComponent []

/-- The counts in a document that answers a search, if they are wanted. -/
def countsOf (withFacets : Bool) (d : Value) : Except Fault (Option Facets) :=
  if withFacets then d.getD "facets" .null >>= facetsOf else .ok none

/-- The page of a document that answers a search. -/
def pageOf (number : Int) (withFacets : Bool) (d : Value) : Except Fault Page := do
  let total ← totalOf d
  let components ← filesOf d
  let total ← total.asInt
  let issues ← d.getD "issues" (.list [])
  let facets ← countsOf withFacets d
  return { number, total, issues, components, facets }

/-- Asks for a page of findings, with the counts of all of them if they are wanted. -/
def search (c : Client) (server : Server σ) (q : Query) (page : Int) (withFacets : Bool) :
    Act (World σ) Page := do
  let r ← c.get server "/api/issues/search" (some (q.fields page withFacets))
  let status := r.status
  if status = 401 then Act.fail (.scan (.auth "Credentials rejected during issue search"))
  else if status = 403 then
    Act.fail (.scan (.projectPermission
      (.cat ["No permission to search issues of '", q.projectKey, "'"])))
  else if status = 404 then
    Act.fail (.scan (.projectMissing (.cat ["Project '", q.projectKey, "' not found"])))
  else
    match r.complaint? with
    | some complaint => Act.fail (.scan (.search (.cat ["Issue search failed: ", complaint])))
    | none => Act.ofExcept (r.document .search >>= pageOf page withFacets)

end Client

end Mend.Scanner
