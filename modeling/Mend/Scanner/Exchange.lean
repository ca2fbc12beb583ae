import Mend.Json.Reader
import Mend.Settings.Basic
import Mend.World

/-!
# Exchanges with a scanner

A scanner is asked through a library for the web. The library is given access to the scanner, and then
one question after the other. How it makes an address of a question, and how it gets the reply, is its
own matter: here stands only what it is given and what may come of it.

## Main definitions

* `Access`, `Question` — what the library is given.
* `Reply`, `Response` — what may come of a question.
* `Server` — a scanner, together with the library through which it is asked.
-/

namespace Mend.Scanner

/-- What the library has to know of a scanner before it asks. -/
structure Access where
  url : Text
  /-- The token, which stands for a user without a password. -/
  token : Option Text
  timeout : Number
  retries : Int

/-- The access that some settings give. An empty token is none. -/
def Access.ofSettings (s : ScannerSettings) : Access where
  url := s.url
  token := s.token.filter (!·.isEmpty)
  timeout := s.timeout
  retries := s.retries

/-- A question to a scanner: a resource, with some fields put to it. -/
structure Question where
  resource : Text
  fields : Option (List (Text × Value))

/-- A reply to a question. -/
structure Reply where
  /-- The address that was asked, as the library writes it. -/
  url : Text
  status : Int
  /-- What the library says against the status, unless the status is a success. -/
  complaint? : Option Text
  body : Bytes
  /-- How deep a document in the body may be nested to be read. -/
  depth : Json.Depth

/-- What may come of a question. -/
inductive Response where
  | reply (r : Reply)
  /-- The exchange broke off on the way, for this reason. -/
  | broken (reason : Text)
  /-- The library does not ask such a question, for this reason. -/
  | refused (reason : Text)

/-- A scanner, together with the library through which it is asked, with a memory of its own. -/
structure Server (σ : Type) where
  /-- Why the library does not take an access, if it does not. -/
  refusal? : Access → Option Text
  answer : Access → Question → σ → Response × σ

/-- Puts a question and waits for what comes of it. -/
def Server.ask {σ : Type} (server : Server σ) (a : Access) (q : Question) :
    Act (World σ) Response := fun w =>
  let (response, extra) := server.answer a q w.extra
  (.ok response, { w with extra })

end Mend.Scanner
