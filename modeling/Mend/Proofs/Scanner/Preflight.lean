import Mend.Proofs.Json.Reading
import Mend.Proofs.Scanner.Exchanges

/-!
# The questions before a search

Before a scan searches, it asks whether the scanner is up, whether it accepts the credentials, and
whether the project is there. Each answer has to be the right one before the next question is put.
None of these questions is a search.

## Main definitions

* `openings` — the questions before a search, in order.
* `Open` — exchanges that are about the first of these questions.
* `SaysUp`, `AcceptsCredentials`, `ShowsProject` — the right answers.
* `Exchange.IsSearch`, `Exchange.IsSearchOf` — exchanges in which a page of a search is asked for.

## Main statements

* `Open.not_isSearch` — no question before a search is a search.
* `makes_preflight` — what is exchanged before a search.
-/

namespace Mend

variable {σ : Type}

namespace Scanner

variable {s : ScannerSettings}

/-! ## Openings -/

/-- The questions before a search, in order. -/
def openings (s : ScannerSettings) : List (Text × Option (List (Text × Value))) :=
  [("/api/system/status", none), ("/api/authentication/validate", none),
    ("/api/components/show", some [("component", .text s.projectKey)])]

/-- Some exchanges are about the first questions before a search, each about the one in its place. -/
def Open (s : ScannerSettings) (made : List Exchange) : Prop :=
  ∀ (i : Nat) (x : Exchange), made[i]? = some x →
    ∃ question, (openings s)[i]? = some question ∧ x.AsksFor s question.1 question.2

/-- In an exchange, the resource is asked for at which searches are put. -/
def Exchange.IsSearch (x : Exchange) : Prop := x.question.resource = "/api/issues/search"

/-- In an exchange, a page of a search is asked for. -/
def Exchange.IsSearchOf (s : ScannerSettings) (x : Exchange) : Prop :=
  ∃ q page withFacets, x.AsksFor s "/api/issues/search" (some (Query.fields q page withFacets))

theorem Exchange.IsSearchOf.isSearch {x : Exchange} (h : x.IsSearchOf s) : x.IsSearch := by
  obtain ⟨q, page, withFacets, -, hquestion⟩ := h
  rw [IsSearch, hquestion]

theorem not_isSearch_of_mem_openings {question : Text × Option (List (Text × Value))}
    (hmem : question ∈ openings s) {x : Exchange} (h : x.AsksFor s question.1 question.2) :
    ¬x.IsSearch := by
  rw [Exchange.IsSearch, h.2]
  simp only [openings, List.mem_cons, List.not_mem_nil, or_false] at hmem
  rcases hmem with rfl | rfl | rfl
  all_goals
    dsimp only
    decide

namespace Open

variable {made : List Exchange}

theorem nil (s : ScannerSettings) : Open s [] := fun _ _ h => by cases h

/-- The next question is put. -/
theorem snoc (h : Open s made) {question : Text × Option (List (Text × Value))}
    (hquestion : (openings s)[made.length]? = some question) {x : Exchange}
    (hasks : x.AsksFor s question.1 question.2) : Open s (made ++ [x]) := by
  intro i y hy
  rcases Nat.lt_trichotomy i made.length with hlt | rfl | hgt
  · rw [List.getElem?_append_left hlt] at hy
    exact h i y hy
  · rw [List.getElem?_concat_length] at hy
    cases hy
    exact ⟨question, hquestion, hasks⟩
  · rw [List.getElem?_eq_none (by simp; omega)] at hy
    cases hy

theorem length_le (h : Open s made) : made.length ≤ 3 := by
  by_contra hlong
  obtain ⟨_, hquestion, -⟩ := h 3 made[3] (List.getElem?_eq_getElem (by omega))
  cases hquestion

/-- No question before a search is a search. -/
theorem not_isSearch (h : Open s made) : ∀ x ∈ made, ¬x.IsSearch := by
  intro x hx
  obtain ⟨i, hi⟩ := List.mem_iff_getElem?.1 hx
  obtain ⟨question, hquestion, hasks⟩ := h i x hi
  exact not_isSearch_of_mem_openings (List.mem_of_getElem? hquestion) hasks

end Open

/-- If a question is put in its place at most once, the questions are still in their places. -/
theorem PutOnce.isOpen {α : Type} {resource : Text} {fields : Option (List (Text × Value))}
    {Good : Reply → α → Prop} {before made : List Exchange} {r : Except Fault α}
    (h : PutOnce s resource fields Good made r) (hbefore : Open s before)
    (hplace : (openings s)[before.length]? = some (resource, fields)) : Open s (before ++ made) := by
  cases h with
  | failed asks => exact hbefore.snoc hplace asks
  | answered asks => exact hbefore.snoc hplace asks

/-! ## The right answers -/

/-- A reply holds an object. -/
def Reply.Holds (r : Reply) (d : Value) : Prop :=
  d.IsObject ∧ r.value = .ok (some d)

/-- The scanner says that it is up. -/
structure SaysUp (s : ScannerSettings) (x : Exchange) : Prop where
  asks : x.AsksFor s "/api/system/status" none
  answer : ∃ reply d, x.response = .reply reply ∧ reply.status = 200 ∧ reply.Holds d ∧
    d.field? "status" = some (.str "UP")

/-- The scanner accepts the credentials. -/
structure AcceptsCredentials (s : ScannerSettings) (x : Exchange) : Prop where
  asks : x.AsksFor s "/api/authentication/validate" none
  answer : ∃ reply d v, x.response = .reply reply ∧ reply.status ≠ 401 ∧ reply.Holds d ∧
    d.field? "valid" = some v ∧ v.isGiven = true

/-- The scanner has the project of the settings. -/
structure ShowsProject (s : ScannerSettings) (x : Exchange) : Prop where
  asks : x.AsksFor s "/api/components/show" (some [("component", .text s.projectKey)])
  answer : ∃ reply d, x.response = .reply reply ∧ reply.status = 200 ∧ reply.Holds d

/-- Only an object is taken for a document. -/
theorem holds_of_document {r : Reply} {refuse : Text → ScanFault} {d : Value}
    (h : r.document refuse = .ok d) : r.Holds d := by
  rw [Reply.document] at h
  obtain ⟨d?, hvalue, h⟩ := exists_of_bind_eq_ok h
  split at h
  · cases h
    exact ⟨⟨_, rfl⟩, hvalue⟩
  · cases h
  · cases h

/-- Only a text is the same as a text. -/
theorem field?_of_same {d : Value} {name : Text} {t : String}
    (h : ((d.field? name).getD .null).same (.str t) = true) : d.field? name = some (.str t) := by
  cases hfield : d.field? name with
  | none => rw [hfield] at h; simp [Value.same, Value.str] at h
  | some v =>
      rw [hfield] at h
      cases v with
      | text u =>
          have hsame : u = Text.ofString t := by
            rwa [Option.getD_some, Value.str, Value.same_text, beq_iff_eq] at h
          rw [hsame]
          rfl
      | _ => simp [Value.same, Value.str] at h

theorem makes_systemStatus (c : Client) (server : Server σ) :
    Makes (c.systemStatus server.recorded) (PutOnce c.settings "/api/system/status" none
      fun reply d => reply.status = 200 ∧ reply.Holds d) := by
  refine makes_question c server fun reply => ?_
  split
  · exact ⟨.error _, rfl, fun d h => by cases h⟩
  · rename_i hstatus
    exact ⟨_, rfl, fun d h => ⟨by simpa using hstatus, holds_of_document h⟩⟩

theorem makes_isAccepted (c : Client) (server : Server σ) :
    Makes (c.isAccepted server.recorded) (PutOnce c.settings "/api/authentication/validate" none
      fun reply isAccepted => isAccepted = true → reply.status ≠ 401 ∧ ∃ d v, reply.Holds d ∧
        d.field? "valid" = some v ∧ v.isGiven = true) := by
  refine makes_question c server fun reply => ?_
  split
  · exact ⟨.ok false, rfl, fun isAccepted h hyes => by cases h; cases hyes⟩
  · rename_i hstatus
    cases hdocument : reply.document .connection with
    | error e => exact ⟨.error e, rfl, fun isAccepted h => by cases h⟩
    | ok d =>
        refine ⟨.ok _, rfl, fun isAccepted h hyes => ⟨hstatus, d, ?_⟩⟩
        cases h
        cases hvalid : d.field? "valid" with
        | none => rw [hvalid] at hyes; cases hyes
        | some v =>
            rw [hvalid] at hyes
            exact ⟨v, holds_of_document hdocument, rfl, hyes⟩

theorem makes_project (c : Client) (server : Server σ) :
    Makes (c.project server.recorded c.settings.projectKey) (PutOnce c.settings "/api/components/show"
      (some [("component", .text c.settings.projectKey)])
      fun reply standing => ∀ name, standing = .found name → reply.status = 200 ∧
        ∃ d, reply.Holds d) := by
  refine makes_question c server fun reply => ?_
  dsimp only
  split
  · rename_i hstatus
    cases hdocument : reply.document .connection with
    | error e => exact ⟨.error e, rfl, fun standing h => by cases h⟩
    | ok d =>
        refine ⟨(do return Standing.found (← ((d.field? "component").getD (.obj [])).getD "name"
          (.text c.settings.projectKey))), ?_, fun _ _ _ _ => ⟨hstatus, d, holds_of_document hdocument⟩⟩
        rw [Act.ofExcept_ok_bind]
        cases ((d.field? "component").getD (.obj [])).getD "name" (.text c.settings.projectKey) <;> rfl
  · split
    · exact ⟨.ok _, rfl, fun _ h name hname => by cases h; cases hname⟩
    · split
      · exact ⟨.ok _, rfl, fun _ h name hname => by cases h; cases hname⟩
      · split
        · exact ⟨.ok _, rfl, fun _ h name hname => by cases h; cases hname⟩
        · exact ⟨.ok _, rfl, fun _ h name hname => by cases h; cases hname⟩

/-! ## What is exchanged before a search -/

/-- The scanner is taken to be up and to accept the credentials only if it says so. -/
theorem makes_connection (c : Client) (server : Server σ) :
    Makes (c.connection server.recorded) fun made r => Open c.settings made ∧
      ∀ version, r = .ok (.up version) →
        ∃ a b, made = [a, b] ∧ SaysUp c.settings a ∧ AcceptsCredentials c.settings b := by
  refine .bind (makes_systemStatus c server).unlessDown (fun made e h => ?_) fun r made h => ?_
  · obtain ⟨⟨_, hput⟩, -⟩ := h
    exact ⟨hput.isOpen (.nil _) rfl, fun _ h => by cases h⟩
  · obtain ⟨⟨_, hput⟩, hok⟩ := h
    have hopen : Open c.settings made := hput.isOpen (.nil _) rfl
    have hdown (version : Value) (reason : Text) :
        Makes (pure (.down version reason) : Act (World (Ledger σ)) Connection) fun more r =>
          Open c.settings (made ++ more) ∧ ∀ version, r = .ok (.up version) →
            ∃ a b, made ++ more = [a, b] ∧ SaysUp c.settings a ∧ AcceptsCredentials c.settings b :=
      .pure ⟨by rwa [List.append_nil], fun _ h => by cases h⟩
    cases r with
    | error reason => exact hdown _ _
    | ok d =>
        dsimp only
        split
        · rename_i hup
          rcases hok d rfl with _ | ⟨hasks, hresponse, hstatus, hholds⟩
          have hup : SaysUp c.settings _ := ⟨hasks, _, d, hresponse, hstatus, hholds, field?_of_same hup⟩
          refine .bind (makes_isAccepted c server).unlessDown (fun more e h => ?_) fun r more h => ?_
          · obtain ⟨⟨_, hput⟩, -⟩ := h
            exact ⟨hput.isOpen hopen rfl, fun _ h => by cases h⟩
          · obtain ⟨⟨_, hput⟩, hok⟩ := h
            have hstill := hput.isOpen hopen rfl
            split
            · exact .pure ⟨by rwa [List.append_nil], fun _ h => by cases h⟩
            · rcases hok true rfl with _ | ⟨hasks, hresponse, hgood⟩
              obtain ⟨hstatus, d, v, hholds, hvalid, hgiven⟩ := hgood rfl
              exact .pure ⟨hstill, fun _ _ =>
                ⟨_, _, rfl, hup, hasks, _, d, v, hresponse, hstatus, hholds, hvalid, hgiven⟩⟩
            · exact .pure ⟨by rwa [List.append_nil], fun _ h => by cases h⟩
        · exact hdown _ _

/-- A scan goes on to search only if the scanner is up, accepts the credentials, and has the
project. -/
theorem makes_preflight (c : Client) (server : Server σ) :
    Makes (c.preflight server.recorded) fun made r => Open c.settings made ∧
      ∀ name, r = .ok name → ∃ a b p, made = [a, b, p] ∧ SaysUp c.settings a ∧
        AcceptsCredentials c.settings b ∧ ShowsProject c.settings p := by
  refine .bind (makes_connection c server) (fun made e h => ⟨h.1, fun _ h => by cases h⟩)
    fun connection made h => ?_
  obtain ⟨hopen, hup⟩ := h
  cases connection with
  | down version reason => exact .fail ⟨by rwa [List.append_nil], fun _ h => by cases h⟩
  | refused version => exact .fail ⟨by rwa [List.append_nil], fun _ h => by cases h⟩
  | up version =>
      obtain ⟨a, b, rfl, ha, hb⟩ := hup version rfl
      refine .say _ _ (.bind (makes_project c server) (fun more e hput => ?_)
        fun standing more hput => ?_)
      · exact ⟨hput.isOpen hopen rfl, fun _ h => by cases h⟩
      · have hstill := hput.isOpen hopen rfl
        cases standing with
        | found name =>
            rcases hput with _ | ⟨hasks, hresponse, hgood⟩
            obtain ⟨hstatus, d, hholds⟩ := hgood name rfl
            exact .say _ _ (.pure ⟨hstill, fun _ _ =>
              ⟨a, b, _, rfl, ha, hb, hasks, _, d, hresponse, hstatus, hholds⟩⟩)
        | _ => exact .fail ⟨by rwa [List.append_nil], fun _ h => by cases h⟩

end Scanner

end Mend
