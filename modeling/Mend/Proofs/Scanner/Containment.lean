import Mend.Cli.Run
import Mend.Proofs.Scanner.Journal
import Mend.Proofs.Scanner.Legible

/-!
# What becomes of a scan when answers are bad

A scan asks its questions in a fixed order, so what an answer has to be like depends on its place. As
long as every answer is legible, the scan ends with a result or a scan fault, unless the library does
not ask at all, or the number of findings that are wanted is too long to be announced. The first answer
that is not legible ends the scan with a fault of form, which is no scan fault.

## Main definitions

* `Stage`, `Stage.nth` — the stages of a scan in their order.
* `Response.IsLegible` — what may come of a question without leaving anything unreadable.
* `Unanswered` — the faults in which no answer has a part.

## Main statements

* `fetchAll_contained` — how a scan ends, from what it hears.
-/

namespace Mend.Scanner

variable {σ α β : Type}

/-! ## Stages and answers -/

/-- The stages of a scan, by what is asked. -/
inductive Stage where
  | status
  | credentials
  | project
  /-- A page of a search; the first one comes with the counts of all findings. -/
  | page (first : Bool)

/-- The stage in which a scan asks after `n` other questions. -/
def Stage.nth : Nat → Stage
  | 0 => .status
  | 1 => .credentials
  | 2 => .project
  | 3 => .page true
  | _ + 4 => .page false

/-- Whether the findings of a page are read. Those of the first page are not if there are too many in
all, for then each severity is searched on its own; and not if the scan breaks off before. -/
def AreRead (limit : Nat) (first : Bool) (total : Int) : Prop :=
  first = true → Numeral.fits limit = true ∧ total ≤ limit ∧ total ≤ resultWindow

/-- Whether the body of a reply is opened: with any other status, the status is the answer. -/
def Stage.Opens (stage : Stage) (r : Reply) : Prop :=
  match stage with
  | .status | .project => r.status = 200
  | .credentials => r.status ≠ 401
  | .page _ => r.status ≠ 401 ∧ r.status ≠ 403 ∧ r.status ≠ 404 ∧ r.complaint? = none

/-- Which documents can be read in a stage. -/
def Stage.Legible (limit : Nat) : Stage → Value → Prop
  | .status, _ => True
  | .credentials, _ => True
  | .project, d => (d.fieldOr "component" (.obj [])).IsObject
  | .page first, d => LegiblePage first d ∧ ∀ n, (totalIn d).StandsFor n →
      AreRead limit first n → LegibleFindings (d.fieldOr "issues" (.list []))

/-- What may come of a question without leaving anything unreadable. A body that is opened must not be
nested too deeply; if it is no object, it is refused as a whole, and if it is one, it has to be
legible. -/
def Response.IsLegible (limit : Nat) (stage : Stage) : Response → Prop
  | .reply r => stage.Opens r → ∃ d?, r.value = .ok d? ∧
      ∀ d, d? = some d → d.IsObject → stage.Legible limit d
  | .broken _ | .refused _ => True

/-- The faults in which no answer has a part: the library does not take the access, or does not ask
the last question, or the number of findings that are wanted cannot be announced. -/
inductive Unanswered (server : Server σ) (s : ScannerSettings) (limit : Nat)
    (heard : List Response) : Fault → Prop
  | access {reason : Text} (h : server.refusal? (.ofSettings s) = some reason) :
      Unanswered server s limit heard (.web reason)
  | question {reason : Text} (h : heard.getLast? = some (.refused reason)) :
      Unanswered server s limit heard (.web reason)
  | cap (h : ¬Numeral.fits limit = true) : Unanswered server s limit heard .numberTooLong

theorem Unanswered.append {server : Server σ} {s : ScannerSettings} {limit : Nat}
    {heard : List Response} {e : Fault} (h : Unanswered server s limit heard e)
    (before : List Response) : Unanswered server s limit (before ++ heard) e := by
  cases h with
  | access h => exact .access h
  | question h => exact .question (by rw [List.getLast?_append, h, Option.some_or])
  | cap h => exact .cap h

/-- Whether some responses are legible, of which the first one comes in stage `n`. -/
def LegibleFrom (limit : Nat) : Nat → List Response → Prop
  | _, [] => True
  | n, r :: rest => r.IsLegible limit (.nth n) ∧ LegibleFrom limit (n + 1) rest

theorem legibleFrom_append (limit n : Nat) (l m : List Response) :
    LegibleFrom limit n (l ++ m) ↔ LegibleFrom limit n l ∧ LegibleFrom limit (n + l.length) m := by
  induction l generalizing n with
  | nil => simp [LegibleFrom]
  | cons r rest ih =>
      rw [List.cons_append, LegibleFrom, LegibleFrom, ih, List.length_cons, and_assoc,
        Nat.add_right_comm, Nat.add_assoc]

/-- Each response is legible in its stage. -/
theorem legibleFrom_iff (limit n : Nat) (l : List Response) :
    LegibleFrom limit n l ↔
      ∀ (i : Nat) (r : Response), l[i]? = some r → r.IsLegible limit (.nth (n + i)) := by
  induction l generalizing n with
  | nil => exact iff_of_true trivial fun i r h => by cases h
  | cons first rest ih =>
      have hnext (i : Nat) : n + 1 + i = n + (i + 1) := by omega
      rw [LegibleFrom, ih]
      constructor
      · rintro ⟨hfirst, hrest⟩ i r hr
        cases i with
        | zero => exact Option.some.inj hr ▸ hfirst
        | succ i => exact hnext i ▸ hrest i r hr
      · intro h
        exact ⟨h 0 first rfl, fun i r hr => hnext i ▸ h (i + 1) r hr⟩

/-! ## How an action ends, from what it hears -/

variable {server : Server σ} {s : ScannerSettings} {limit : Nat}

/-- An ending tells whether what was heard is legible: a fault of form says that it is not; every
other ending says that it is. -/
def Tells (server : Server σ) (s : ScannerSettings) (limit : Nat) (heard : List Response)
    (legible : Prop) : Except Fault α → Prop
  | .ok _ => legible
  | .error e =>
    legible ∧ ((∃ f, e = .scan f) ∨ Unanswered server s limit heard e) ∨ ¬legible ∧ e.isOfForm = true

section Tells

variable {heard : List Response} {p q : Prop} {r : Except Fault α}

theorem Tells.congr (h : Tells server s limit heard p r) (heq : p ↔ q) :
    Tells server s limit heard q r := by
  rwa [← propext heq]

theorem Tells.append (h : Tells server s limit heard p r) (before : List Response) :
    Tells server s limit (before ++ heard) p r := by
  cases r with
  | ok x => exact h
  | error e =>
      rcases h with ⟨hlegible, hscan | hunanswered⟩ | hnot
      · exact .inl ⟨hlegible, .inl hscan⟩
      · exact .inl ⟨hlegible, .inr (hunanswered.append before)⟩
      · exact .inr hnot

theorem tells_of_reads (h : Reads p r) : Tells server s limit heard p r := by
  cases r with
  | ok x => exact h
  | error e => exact .inr h

end Tells

/-- An action hears some responses, and its ending tells whether they are legible. Something that was
heard before may be unread yet; whether it is legible is `pending`, and the ending tells that too. -/
def Hears (server : Server σ) (s : ScannerSettings) (limit : Nat) (pending : Prop)
    (a : Act (World (Heard σ)) α) (w : World (Heard σ)) : Prop :=
  ∃ more, (a.run w).2.heard = w.heard ++ more ∧
    Tells server s limit more (pending ∧ LegibleFrom limit w.heard.length more) (a.run w).1

namespace Hears

variable {p q : Prop} {a : Act (World (Heard σ)) α} {w : World (Heard σ)}

theorem congr (h : Hears server s limit p a w) (heq : p ↔ q) : Hears server s limit q a w := by
  rwa [← propext heq]

theorem of_run {r : Except Fault α} {w' : World (Heard σ)} (hrun : a.run w = (r, w'))
    (hheard : w'.heard = w.heard) (h : Tells server s limit [] p r) : Hears server s limit p a w := by
  refine ⟨[], ?_, ?_⟩
  · rw [hrun, List.append_nil]
    exact hheard
  · rw [hrun]
    exact h.congr (and_iff_left trivial).symm

theorem of_settles (h : a.Settles p) (w : World (Heard σ)) : Hears server s limit p a w :=
  of_run (Prod.mk.eta.symm : a.run w = ((a.run w).1, (a.run w).2))
    (congrArg Heard.responses (h w).1) (tells_of_reads (h w).2)

theorem pure (h : p) (x : α) (w : World (Heard σ)) : Hears server s limit p (Pure.pure x) w :=
  of_run rfl rfl h

theorem fail (h : p) (f : ScanFault) (w : World (Heard σ)) :
    Hears server s limit p (Act.fail (.scan f) : Act _ α) w :=
  of_run rfl rfl (.inl ⟨h, .inl ⟨f, rfl⟩⟩)

/-- One action after another. What is pending is told by the first one. -/
theorem bind {f : α → Act (World (Heard σ)) β} (ha : Hears server s limit p a w)
    (hf : ∀ x w', a.run w = (.ok x, w') → Hears server s limit True (f x) w') :
    Hears server s limit p (a >>= f) w := by
  obtain ⟨more, hheard, htells⟩ := ha
  rcases hrun : a.run w with ⟨e | x, w'⟩
  · rw [hrun] at hheard htells
    exact ⟨more, by rw [Act.run_bind_error hrun]; exact hheard,
      by rw [Act.run_bind_error hrun]; exact htells⟩
  · rw [hrun] at hheard htells
    obtain ⟨more', hheard', htells'⟩ := hf x w' hrun
    refine ⟨more ++ more', ?_, ?_⟩
    · rw [Act.run_bind_ok hrun, hheard', hheard, List.append_assoc]
    · rw [Act.run_bind_ok hrun]
      have hlegible : p ∧ LegibleFrom limit w.heard.length more := htells
      refine (htells'.append more).congr ?_
      rw [hheard, List.length_append, legibleFrom_append, true_and, ← and_assoc,
        and_iff_right hlegible]

/-- What was heard is not forgotten. -/
theorem length_le {r : Except Fault α} {w' : World (Heard σ)} (h : Hears server s limit p a w)
    (hrun : a.run w = (r, w')) : w.heard.length ≤ w'.heard.length := by
  obtain ⟨more, hheard, -⟩ := h
  rw [hrun] at hheard
  rw [hheard, List.length_append]
  exact Nat.le_add_right ..

/-- A change of the world in which nothing is heard makes no difference. -/
theorem modify {u : World (Heard σ) → World (Heard σ)} {f : Unit → Act (World (Heard σ)) α}
    (hu : (u w).heard = w.heard) (h : Hears server s limit p (f ()) (u w)) :
    Hears server s limit p (Act.modify u >>= f) w := by
  obtain ⟨more, hheard, htells⟩ := h
  have hrun : (Act.modify u >>= f).run w = (f ()).run (u w) := Act.run_bind_ok (Act.run_modify ..)
  rw [hu] at hheard htells
  rw [← hrun] at hheard htells
  exact ⟨more, hheard, htells⟩

theorem say {f : Unit → Act (World (Heard σ)) α} (level : Log.Level) (parts : List Text)
    (h : ∀ w', w'.heard = w.heard → Hears server s limit p (f ()) w') :
    Hears server s limit p (World.say level parts >>= f) w :=
  modify rfl (h _ rfl)

/-- To look at how an action ends is to hear no more. -/
theorem unlessDown (h : Hears server s limit p a w) :
    Hears server s limit p (Scanner.unlessDown a) w := by
  obtain ⟨more, hheard, htells⟩ := h
  rcases hrun : a.run w with ⟨r, w'⟩
  rw [hrun] at hheard htells
  have hdown : ∃ r', (Scanner.unlessDown a).run w = (r', w') ∧
      Tells server s limit more (p ∧ LegibleFrom limit w.heard.length more) r' := by
    have hattempt : a.attempt.run w = (.ok r, w') := by rw [Act.run_attempt, hrun]
    rw [Scanner.unlessDown, Act.run_bind_ok hattempt]
    split
    · exact ⟨_, rfl, htells⟩
    · rcases htells with ⟨hlegible, -⟩ | ⟨-, hform⟩
      · exact ⟨_, rfl, hlegible⟩
      · cases hform
    · exact ⟨_, rfl, htells⟩
  obtain ⟨r', hrun', htells'⟩ := hdown
  exact ⟨more, by rw [hrun']; exact hheard, by rw [hrun']; exact htells'⟩

end Hears

/-! ## Questions -/

/-- What comes of a question: a reply, or a fault of the exchange or of the library. -/
theorem get_cases (c : Client) (server : Server σ) (resource : Text)
    (fields : Option (List (Text × Value))) (w : World (Heard σ)) :
    ∃ response w', w'.heard = w.heard ++ [response] ∧
      ((∃ reply, response = .reply reply ∧
          (c.get server.journaled resource fields).run w = (.ok reply, w')) ∨
        ∃ e, (c.get server.journaled resource fields).run w = (.error e, w') ∧
          (∀ limit stage, response.IsLegible limit stage) ∧
          ((∃ f, e = .scan f) ∨ ∃ reason, response = .refused reason ∧ e = .web reason)) := by
  let access := Access.ofSettings c.settings
  let response := (server.answer access ⟨resource, fields⟩ w.extra.own).1
  let w' : World (Heard σ) :=
    { w with extra := (server.journaled.answer access ⟨resource, fields⟩ w.extra).2 }
  have hask : (server.journaled.ask access ⟨resource, fields⟩).run w = (.ok response, w') := rfl
  refine ⟨response, w', rfl, ?_⟩
  rw [Client.get, Act.run_bind_ok hask]
  cases response with
  | reply reply => exact .inl ⟨reply, rfl, rfl⟩
  | broken reason => exact .inr ⟨_, rfl, fun _ _ => trivial, .inl ⟨_, rfl⟩⟩
  | refused reason => exact .inr ⟨_, rfl, fun _ _ => trivial, .inr ⟨reason, rfl, rfl⟩⟩

/-- A question is asked, and something is done with the reply, which is pending then. -/
theorem hears_get (c : Client) {resource : Text} {fields : Option (List (Text × Value))}
    {k : Reply → Act (World (Heard σ)) α} {w : World (Heard σ)}
    (hk : ∀ reply w', w'.heard.length = w.heard.length + 1 →
      Hears server s limit ((Response.reply reply).IsLegible limit (.nth w.heard.length)) (k reply)
        w') :
    Hears server s limit True (c.get server.journaled resource fields >>= k) w := by
  obtain ⟨response, w', hheard, hends⟩ := get_cases c server resource fields w
  rcases hends with ⟨reply, rfl, hrun⟩ | ⟨e, hrun, hlegible, hfault⟩
  · have hlength : w'.heard.length = w.heard.length + 1 := by
      rw [hheard, List.length_append, List.length_singleton]
    obtain ⟨more, hmore, htells⟩ := hk reply w' hlength
    refine ⟨.reply reply :: more, ?_, ?_⟩
    · rw [Act.run_bind_ok hrun, hmore, hheard, List.append_assoc, List.singleton_append]
    · rw [Act.run_bind_ok hrun]
      refine (htells.append [.reply reply]).congr ?_
      rw [hlength, true_and]
      rfl
  · refine ⟨[response], ?_, ?_⟩
    · rw [Act.run_bind_error hrun]
      exact hheard
    · rw [Act.run_bind_error hrun]
      refine .inl ⟨⟨trivial, hlegible .., trivial⟩, ?_⟩
      rcases hfault with hscan | ⟨reason, rfl, rfl⟩
      · exact .inl hscan
      · exact .inr (.question rfl)

/-- The only fault of a body is that it is nested too deeply. -/
theorem isOfForm_of_value {r : Reply} {e : Fault} (h : r.value = .error e) : e.isOfForm = true := by
  unfold Reply.value at h
  split at h
  · cases h
  · split at h
    · cases h
    · split at h
      · obtain rfl := Except.error.inj h
        rfl
      · cases h

/-- The document of a reply that is opened is pending as soon as it is there. -/
theorem hears_document (stage : Stage) {reply : Reply} (hopens : stage.Opens reply)
    (refuse : Text → ScanFault) {k : Value → Act (World (Heard σ)) α} {w : World (Heard σ)}
    (hk : ∀ d, d.IsObject → Hears server s limit (stage.Legible limit d) (k d) w) :
    Hears server s limit ((Response.reply reply).IsLegible limit stage)
      (Act.ofExcept (reply.document refuse) >>= k) w := by
  unfold Reply.document
  cases hvalue : reply.value with
  | error e =>
      refine .of_run rfl rfl (.inr ⟨fun h => ?_, isOfForm_of_value hvalue⟩)
      obtain ⟨d?, hd, -⟩ := h hopens
      rw [hvalue] at hd
      cases hd
  | ok d? =>
      have hlegible : (Response.reply reply).IsLegible limit stage ↔
          ∀ d, d? = some d → d.IsObject → stage.Legible limit d := by
        refine ⟨fun h => ?_, fun h _ => ⟨d?, hvalue, h⟩⟩
        obtain ⟨d?', hd, h⟩ := h hopens
        obtain rfl := Except.ok.inj (hvalue.symm.trans hd)
        exact h
      refine .congr ?_ hlegible.symm
      cases d? with
      | none => exact .of_run rfl rfl (.inl ⟨fun d hd => (by cases hd), .inl ⟨_, rfl⟩⟩)
      | some d =>
          by_cases hobject : d.IsObject
          · obtain ⟨fields, rfl⟩ := hobject
            refine (hk (.obj fields) ⟨fields, rfl⟩).congr ⟨fun h d hd _ => ?_, fun h => ?_⟩
            · exact Option.some.inj hd ▸ h
            · exact h _ rfl ⟨fields, rfl⟩
          · have hnot : ∀ d', some d = some d' → d'.IsObject → stage.Legible limit d' :=
              fun d' hd hd' => absurd (Option.some.inj hd ▸ hd') hobject
            cases d with
            | obj fields => exact absurd ⟨fields, rfl⟩ hobject
            | _ => exact .of_run rfl rfl (.inl ⟨hnot, .inl ⟨_, rfl⟩⟩)

/-- A reply that is not opened leaves nothing unread. -/
theorem isLegible_of_not_opens {stage : Stage} {reply : Reply} (h : ¬stage.Opens reply) :
    (Response.reply reply).IsLegible limit stage :=
  fun hopens => absurd hopens h

/-! ## The questions before a search -/

theorem hears_systemStatus (c : Client) {w : World (Heard σ)} (hw : w.heard.length = 0) :
    Hears server s limit True (c.systemStatus server.journaled) w := by
  refine hears_get c fun reply w' _ => ?_
  rw [hw]
  split
  · rename_i hstatus
    refine .fail (isLegible_of_not_opens fun hopens => ?_) _ w'
    have hopens : reply.status = 200 := hopens
    rw [hopens] at hstatus
    cases hstatus
  · rename_i hstatus
    have hopens : reply.status = 200 := by simpa using hstatus
    rw [← Act.bind_pure (Act.ofExcept _)]
    exact hears_document .status hopens _ fun d hd => .pure trivial d w'

theorem hears_isAccepted (c : Client) {w : World (Heard σ)} (hw : w.heard.length = 1) :
    Hears server s limit True (c.isAccepted server.journaled) w := by
  refine hears_get c fun reply w' _ => ?_
  rw [hw]
  split
  · rename_i hstatus
    have hlegible : (Response.reply reply).IsLegible limit .credentials :=
      isLegible_of_not_opens fun hopens => hopens hstatus
    exact .pure hlegible _ w'
  · rename_i hstatus
    exact hears_document .credentials hstatus _ fun d hd => .pure trivial _ w'

theorem hears_project (c : Client) (key : Text) {w : World (Heard σ)} (hw : w.heard.length = 2) :
    Hears server s limit True (c.project server.journaled key) w := by
  refine hears_get c fun reply w' _ => ?_
  rw [hw]
  dsimp only
  by_cases hstatus : reply.status = 200
  · rw [if_pos hstatus]
    refine hears_document .project hstatus _ fun d hd => ?_
    refine .of_settles (.ofExcept_bind (Value.reads_getD ..) id fun name hname => ?_) w'
    exact .pure (Value.isObject_of_getD hname).1 _
  · rw [if_neg hstatus]
    have hlegible : (Response.reply reply).IsLegible limit .project :=
      isLegible_of_not_opens hstatus
    split
    · exact .pure hlegible _ w'
    · split
      · exact .pure hlegible _ w'
      · split <;> exact .pure hlegible _ w'

/-- A question is answered by one response. -/
theorem length_of_get {c : Client} {resource : Text} {fields : Option (List (Text × Value))}
    {k : Reply → Act (World (Heard σ)) α} (hk : ∀ r w, ((k r).run w).2.heard = w.heard)
    {w w' : World (Heard σ)} {x : α}
    (h : (c.get server.journaled resource fields >>= k).run w = (.ok x, w')) :
    w'.heard.length = w.heard.length + 1 := by
  obtain ⟨response, w₁, hheard, ⟨reply, -, hrun⟩ | ⟨e, hrun, -⟩⟩ :=
    get_cases c server resource fields w
  · rw [Act.run_bind_ok hrun] at h
    have hquiet := hk reply w₁
    rw [h] at hquiet
    rw [hquiet, hheard, List.length_append, List.length_singleton]
  · rw [Act.run_bind_error hrun] at h
    cases h

theorem length_of_systemStatus {c : Client} {w w' : World (Heard σ)} {d : Value}
    (h : (c.systemStatus server.journaled).run w = (.ok d, w')) :
    w'.heard.length = w.heard.length + 1 := by
  refine length_of_get (fun r w => ?_) h
  split <;> rfl

theorem length_of_isAccepted {c : Client} {w w' : World (Heard σ)} {b : Bool}
    (h : (c.isAccepted server.journaled).run w = (.ok b, w')) :
    w'.heard.length = w.heard.length + 1 := by
  refine length_of_get (fun r w => ?_) h
  split
  · rfl
  · cases r.document .connection <;> rfl

theorem length_of_project {c : Client} {key : Text} {w w' : World (Heard σ)} {standing : Standing}
    (h : (c.project server.journaled key).run w = (.ok standing, w')) :
    w'.heard.length = w.heard.length + 1 := by
  refine length_of_get (fun r w => ?_) h
  dsimp only
  split
  · cases r.document .connection with
    | error e => rfl
    | ok d =>
        rw [Act.ofExcept_ok_bind]
        cases ((d.field? "component").getD (.obj [])).getD "name" (.text key) <;> rfl
  · split
    · rfl
    · split
      · rfl
      · split <;> rfl

/-- What the scanner was used for, if it could be. -/
theorem run_of_unlessDown {a : Act (World (Heard σ)) α} {w w' : World (Heard σ)} {x : α}
    (h : (unlessDown a).run w = (.ok (.ok x), w')) : a.run w = (.ok x, w') := by
  rcases hrun : a.run w with ⟨r, w₁⟩
  have hattempt : a.attempt.run w = (.ok r, w₁) := by rw [Act.run_attempt, hrun]
  rw [unlessDown, Act.run_bind_ok hattempt] at h
  split at h
  · cases h
    rfl
  all_goals cases h

theorem hears_connection (c : Client) {w : World (Heard σ)} (hw : w.heard.length = 0) :
    Hears server s limit True (c.connection server.journaled) w := by
  refine .bind (.unlessDown (hears_systemStatus c hw)) fun r w₁ hstatus => ?_
  cases r with
  | error reason => exact .pure trivial _ w₁
  | ok d =>
      have hw₁ := length_of_systemStatus (run_of_unlessDown hstatus)
      rw [hw] at hw₁
      dsimp only
      split
      · refine .bind (.unlessDown (hears_isAccepted c hw₁)) fun r w₂ _ => ?_
        split <;> exact .pure trivial _ w₂
      · exact .pure trivial _ w₁

/-- If the scanner is up and accepts the credentials, two answers have said so. -/
theorem length_of_connection {c : Client} {w w' : World (Heard σ)}
    {version : Value} (h : (c.connection server.journaled).run w = (.ok (.up version), w')) :
    w'.heard.length = w.heard.length + 2 := by
  rw [Client.connection] at h
  rcases hstatus : (unlessDown (c.systemStatus server.journaled)).run w with ⟨e | r, w₁⟩
  · rw [Act.run_bind_error hstatus] at h
    cases h
  · rw [Act.run_bind_ok hstatus] at h
    cases r with
    | error reason => cases h
    | ok d =>
        have hw₁ := length_of_systemStatus (run_of_unlessDown hstatus)
        dsimp only at h
        split at h
        · rcases haccepted : (unlessDown (c.isAccepted server.journaled)).run w₁ with ⟨e | r, w₂⟩
          · rw [Act.run_bind_error haccepted] at h
            cases h
          · rw [Act.run_bind_ok haccepted] at h
            split at h
            · cases h
            · have hw₂ := length_of_isAccepted (run_of_unlessDown haccepted)
              cases h
              rw [hw₂, hw₁]
            · cases h
        · cases h

theorem hears_preflight (c : Client) {w : World (Heard σ)} (hw : w.heard.length = 0) :
    Hears server s limit True (c.preflight server.journaled) w := by
  refine .bind (hears_connection c hw) fun connection w₁ hconnection => ?_
  cases connection with
  | down version reason => exact .fail trivial _ w₁
  | refused version => exact .fail trivial _ w₁
  | up version =>
      have hw₁ := length_of_connection hconnection
      rw [hw] at hw₁
      refine .say _ _ fun w₂ hw₂ => .bind (hears_project c _ (hw₂ ▸ hw₁)) fun standing w₃ _ => ?_
      cases standing with
      | found name => exact .say _ _ fun w₄ _ => .pure trivial name w₄
      | _ => exact .fail trivial _ w₃

/-- If the project is there, three answers have said so. -/
theorem length_of_preflight {c : Client} {w w' : World (Heard σ)}
    {name : Value} (h : (c.preflight server.journaled).run w = (.ok name, w')) :
    w'.heard.length = w.heard.length + 3 := by
  rw [Client.preflight] at h
  rcases hconnection : (c.connection server.journaled).run w with ⟨e | connection, w₁⟩
  · rw [Act.run_bind_error hconnection] at h
    cases h
  · rw [Act.run_bind_ok hconnection] at h
    cases connection with
    | down version reason => cases h
    | refused version => cases h
    | up version =>
        have hw₁ := length_of_connection hconnection
        rw [Act.run_bind_ok (World.run_say ..)] at h
        rcases hproject : (c.project server.journaled c.settings.projectKey).run
          { w₁ with log := ⟨Log.info, .cat ["Connected to scanner ", c.settings.url, " (version ",
            version.shown, ")"]⟩ :: w₁.log } with ⟨e | standing, w₂⟩
        · rw [Act.run_bind_error hproject] at h
          cases h
        · have hw₂ := length_of_project hproject
          rw [Act.run_bind_ok hproject] at h
          cases standing with
          | found =>
              cases h
              show w₂.heard.length = _
              rw [hw₂]
              exact congrArg (· + 1) hw₁
          | _ => cases h

/-! ## Searches -/

/-- A document is read as a page, and something is done with the page. -/
theorem hears_pageOf {number : Int} {first : Bool} {d : Value} (hd : d.IsObject)
    {k : Page → Act (World (Heard σ)) α} {w : World (Heard σ)}
    (hk : ∀ p, Hears server s limit (AreRead limit first p.total → LegibleFindings p.issues) (k p) w) :
    Hears server s limit (Stage.Legible limit (.page first) d)
      (Act.ofExcept (Client.pageOf number first d) >>= k) w := by
  have hreads := reads_pageOf number first hd
  cases hpage : Client.pageOf number first d with
  | error e =>
      rw [hpage] at hreads
      exact .of_run rfl rfl (.inr ⟨fun h => hreads.1 h.1, hreads.2⟩)
  | ok p =>
      obtain ⟨htotal, hissues⟩ := of_pageOf hd hpage
      refine (hk p).congr ⟨fun h => ⟨hreads.of_ok hpage, fun n hn hread => ?_⟩, fun h hread => ?_⟩
      · rw [← hissues]
        exact h (htotal.unique hn ▸ hread)
      · rw [hissues]
        exact h.2 p.total htotal hread

/-- A page is asked for, and something is done with it. Whether its findings are legible is pending
then, if they are read at all. -/
theorem hears_search (c : Client) (q : Query) (number : Nat) {first : Bool}
    {k : Page → Act (World (Heard σ)) α} {w : World (Heard σ)}
    (hw : Stage.nth w.heard.length = .page first)
    (hk : ∀ p w', w'.heard.length = w.heard.length + 1 →
      Hears server s limit (AreRead limit first p.total → LegibleFindings p.issues) (k p) w') :
    Hears server s limit True (c.search server.journaled q number first >>= k) w := by
  rw [Client.search, Act.bind_assoc]
  refine hears_get c fun reply w' hlength => ?_
  rw [hw]
  dsimp only
  have hfail (hnot : ¬Stage.Opens (.page first) reply) (f : ScanFault) :
      Hears server s limit ((Response.reply reply).IsLegible limit (.page first))
        ((Act.fail (.scan f) : Act _ Page) >>= k) w' :=
    .of_run rfl rfl (.inl ⟨isLegible_of_not_opens hnot, .inl ⟨f, rfl⟩⟩)
  split
  · rename_i hrejected
    exact hfail (fun hopens => hopens.1 hrejected) _
  · rename_i hrejected
    split
    · rename_i hforbidden
      exact hfail (fun hopens => hopens.2.1 hforbidden) _
    · rename_i hforbidden
      split
      · rename_i hmissing
        exact hfail (fun hopens => hopens.2.2.1 hmissing) _
      · rename_i hmissing
        split
        · rename_i complaint hcomplaint
          refine hfail (fun hopens => ?_) _
          rw [hopens.2.2.2] at hcomplaint
          cases hcomplaint
        · rename_i hcomplaint
          rw [Act.ofExcept_bind_eq, Act.bind_assoc]
          exact hears_document (.page first) ⟨hrejected, hforbidden, hmissing, hcomplaint⟩ _
            fun d hd => hears_pageOf hd fun p => hk p w' hlength

/-- That a search is counted makes no difference. -/
theorem hears_counted (c : Client) (q : Query) (number : Nat) {first : Bool}
    {k : Page → Act (World (Heard σ)) α} {w : World (Heard σ)}
    (hw : Stage.nth w.heard.length = .page first)
    (hk : ∀ p w', w'.heard.length = w.heard.length + 1 →
      Hears server s limit (AreRead limit first p.total → LegibleFindings p.issues) (k p) w') :
    Hears server s limit True (c.counted server.journaled q number first >>= k) w := by
  rw [Client.counted, Act.bind_assoc]
  exact .modify rfl (hears_search c q number hw hk)

theorem nth_of_le {n : Nat} (h : 4 ≤ n) : Stage.nth n = .page false := by
  obtain ⟨m, rfl⟩ := Nat.exists_eq_add_of_le' h
  rfl

variable {q : Query}

/-- The issues of a page are found, and then the pages behind it are gone through. -/
theorem hears_gather {n : Nat} {p : Page} {found : List Issue}
    {k : List Issue × Bool → Act (World (Heard σ)) α} {w : World (Heard σ)}
    (hk : LegibleFindings p.issues → ∀ x w', w'.heard = w.heard → Hears server s limit True (k x) w') :
    Hears server s limit (LegibleFindings p.issues) (gather n found p >>= k) w := by
  refine .bind (.of_settles (settles_gather n found p) w) fun x w' hx => ?_
  have hsettled := settles_gather n found p w
  rw [hx] at hsettled
  exact hk (hsettled.2.of_ok rfl) x w' (congrArg Heard.responses hsettled.1)

/-- A page that is there is gone through, and then those behind it. -/
theorem hears_eachPage_some {search : Search (Heard σ)} {pageLimit n left number : Nat}
    {found : List Issue} {p : Page} {w : World (Heard σ)}
    (hnext : ∀ found' w', w'.heard = w.heard → Hears server s limit True
      (eachPage search q pageLimit (gather n) left (number + 1) none found') w') :
    Hears server s limit (LegibleFindings p.issues)
      (eachPage search q pageLimit (gather n) (left + 1) number (some p) found) w := by
  refine hears_gather fun hlegible x w' hw' => ?_
  obtain ⟨found', hasEnough⟩ := x
  cases hasEnough with
  | true => exact .pure trivial found' w'
  | false =>
      obtain ⟨size, hsize⟩ := exists_size hlegible
      dsimp only
      rw [if_neg (by decide), hsize, Act.ofExcept_ok_bind]
      split
      · exact .pure trivial found' w'
      · exact hnext found' w' hw'

/-- The pages of a search from some page on, when the first page of all was there already. -/
theorem hears_eachPage (c : Client) (q : Query) (pageLimit n left number : Nat) (found : List Issue)
    {w : World (Heard σ)} (hw : 4 ≤ w.heard.length) :
    Hears server s limit True (eachPage (c.counted server.journaled) q pageLimit (gather n) left number
      none found) w := by
  induction left generalizing number found w with
  | zero => exact .say _ _ fun w' _ => .pure trivial found w'
  | succ left ih =>
      refine hears_counted c q number (nth_of_le hw) fun p w₁ hw₁ => ?_
      have hread : AreRead limit false p.total := fun hfirst => by cases hfirst
      refine (hears_eachPage_some (n := n) (p := p) fun found' w₂ hw₂ => ?_).congr
        ⟨fun h _ => h, fun h => h hread⟩
      exact ih (number + 1) found' (by rw [hw₂]; omega)

theorem hears_collect (c : Client) (q : Query) (pageLimit n : Nat) {w : World (Heard σ)}
    (hw : 4 ≤ w.heard.length) :
    Hears server s limit True (collect (c.counted server.journaled) q pageLimit n none) w :=
  .bind (hears_eachPage c q pageLimit n _ 1 [] hw) fun _ w' _ => .pure trivial _ w'

/-- The issues of one severity after the other. -/
theorem hears_narrowed (c : Client) (q : Query) (pageLimit n : Nat) (facets : Option Facets)
    (severities : List Severity) (found : List Issue) {w : World (Heard σ)}
    (hw : 4 ≤ w.heard.length) :
    Hears server s limit True (narrowed (c.counted server.journaled) q pageLimit n facets severities
      found) w := by
  induction severities generalizing found w with
  | nil => exact .pure trivial found w
  | cons severity rest ih =>
      rw [narrowed]
      split
      · exact .pure trivial found w
      · split
        · exact ih found hw
        · have hcollect : Hears server s limit True (collect (c.counted server.journaled)
              { q with severities := [severity] } pageLimit (n - found.length) none) w :=
            hears_collect c _ _ _ hw
          refine .bind hcollect fun batch w₁ hrun => .say _ _ fun w₂ hw₂ => ih _ ?_
          rw [hw₂]
          exact Nat.le_trans hw (hcollect.length_le hrun)

/-- The issues of a search whose first page is there, if the cap could be announced. -/
theorem hears_issuesAfter (c : Client) (q : Query) {pageLimit : Nat} (hpages : 1 ≤ pageLimit)
    (hcap : Numeral.fits limit = true) (first : Page) {w : World (Heard σ)}
    (hw : 4 ≤ w.heard.length) :
    Hears server s limit (AreRead limit true first.total → LegibleFindings first.issues)
      (issuesAfter (c.counted server.journaled) q pageLimit limit first) w := by
  rw [issuesAfter]
  split
  · rename_i hfew
    have hread : AreRead limit true first.total := fun _ => ⟨hcap, by simpa using hfew⟩
    obtain ⟨left, rfl⟩ := Nat.exists_eq_add_of_le' hpages
    refine .congr (.bind ?_ fun _ w' _ => .pure trivial _ w') ⟨fun h _ => h, fun h => h hread⟩
    refine hears_eachPage_some fun found w' hw' => ?_
    exact hears_eachPage c q _ _ left 2 found (hw' ▸ hw)
  · rename_i hmany
    refine .congr (p := True) ?_ (iff_of_true trivial fun hread => absurd ?_ hmany)
    · exact .say _ _ fun w' hw' => hears_narrowed c q _ _ _ _ _ (hw' ▸ hw)
    · simpa using (hread rfl).2

/-- The issues that count, from the fourth answer on. -/
theorem hears_fetch (c : Client) (selectors : Selectors) {w : World (Heard σ)}
    (hw : w.heard.length = 3) :
    Hears server s selectors.maxIssues True
      (fetch (c.counted server.journaled) s selectors) w := by
  rw [fetch]
  refine hears_counted c _ 1 (by rw [hw]; rfl) fun first w₁ hw₁ => ?_
  by_cases hcap : Numeral.fits selectors.maxIssues = true
  · rw [Value.textOfInt, if_pos hcap, Act.ofExcept_ok_bind]
    refine .say _ _ fun w₂ hw₂ => .bind
      (hears_issuesAfter c _ (Nat.le_max_left ..) hcap first (by rw [hw₂]; omega)) fun issues w₃ _ => ?_
    dsimp only
    split
    · exact .say _ _ fun w₄ _ => .pure trivial _ w₄
    · exact .pure trivial _ w₃
  · rw [Value.textOfInt, if_neg hcap]
    exact .of_run rfl rfl (.inl ⟨fun hread => absurd (hread rfl).1 hcap, .inr (.cap hcap)⟩)

theorem hears_fetchAll (server : Server σ) (s : ScannerSettings) (selectors : Selectors)
    {w : World (Heard σ)} (hw : w.heard.length = 0) :
    Hears server s selectors.maxIssues True (fetchAll server.journaled s selectors) w := by
  rw [fetchAll, Client.make]
  cases hrefusal : server.journaled.refusal? (.ofSettings s) with
  | some reason => exact .of_run rfl rfl (.inl ⟨trivial, .inr (.access hrefusal)⟩)
  | none =>
      rw [Act.ofExcept_ok_bind]
      refine .bind (hears_preflight _ hw) fun name w' hpreflight => ?_
      exact hears_fetch _ selectors (by rw [length_of_preflight hpreflight, hw])

/-! ## How a scan ends -/

/-- A fault of form is no fault that the program knows: it ends with status 1. -/
theorem status_of_isOfForm (c : Cli.Command) {e : Fault} (h : e.isOfForm = true) :
    (Cli.failure c e).2 = 1 := by
  cases e <;> cases c <;> first | rfl | cases h

/-- How a scan ends, from what it hears. If each response is legible in its stage, the scan ends with
a result or with a scan fault, on which the program ends with status 2, unless no answer has a part in
the ending. If one is not, the scan ends with a fault of form, which is no scan fault: the program ends
with status 1. -/
theorem fetchAll_contained (server : Server σ) (s : ScannerSettings) (selectors : Selectors)
    (w : World σ) :
    let ending := ((fetchAll server s selectors).run w).1
    let heard := heardIn server s selectors w
    let legible := ∀ (i : Nat) (r : Response), heard[i]? = some r →
      r.IsLegible selectors.maxIssues (.nth i)
    (legible → (∃ r, ending = .ok r) ∨
      (∃ f, ending = .error (.scan f) ∧ ∀ c, (Cli.failure c (.scan f)).2 = 2) ∨
      ∃ e, ending = .error e ∧ Unanswered server s selectors.maxIssues heard e) ∧
    (¬legible → ∃ e, ending = .error e ∧ e.isOfForm = true ∧ ∀ c, (Cli.failure c e).2 = 1) := by
  intro ending heard legible
  have hending : ending = ((fetchAll server.journaled s selectors).run w.hearing).1 := by
    rw [← congrArg Prod.fst (run_fetchAll_eq server s selectors w)]
  obtain ⟨more, hheard, htells⟩ := hears_fetchAll server s selectors (w := w.hearing) rfl
  obtain rfl : heard = more := hheard
  have hlegible : Tells server s selectors.maxIssues heard legible ending := by
    rw [hending]
    refine htells.congr ?_
    rw [true_and]
    refine (legibleFrom_iff ..).trans ?_
    simp only [World.heard, World.hearing, World.mapExtra, List.length_nil, Nat.zero_add]
    rfl
  constructor
  · intro h
    cases hr : ending with
    | ok r => exact .inl ⟨r, rfl⟩
    | error e =>
        rw [hr] at hlegible
        rcases hlegible with ⟨-, ⟨f, rfl⟩ | hunanswered⟩ | ⟨hnot, -⟩
        · exact .inr (.inl ⟨f, rfl, fun c => by cases c <;> rfl⟩)
        · exact .inr (.inr ⟨e, rfl, hunanswered⟩)
        · exact absurd h hnot
  · intro h
    cases hr : ending with
    | ok r =>
        rw [hr] at hlegible
        exact absurd hlegible h
    | error e =>
        rw [hr] at hlegible
        rcases hlegible with ⟨hyes, -⟩ | ⟨-, hform⟩
        · exact absurd hyes h
        · exact ⟨e, rfl, hform, fun c => status_of_isOfForm c hform⟩

end Mend.Scanner
