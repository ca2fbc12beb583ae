import Mend.Proofs.Scanner.Journal

/-!
# What a scan exchanges with a scanner

The questions of a scan in their order, each with what comes of it. A server that writes them down
makes a scan do the same as without. What an action exchanges goes with how it ends, whatever was
exchanged before; so the exchanges of a scan are put together from those of its steps.

## Main definitions

* `Exchange`, `Server.recorded` — a server that writes its exchanges down.
* `exchangesIn` — the exchanges of a scan.
* `Exchange.AsksFor` — the exchanges in which a scan asks for a resource.
* `Makes` — what an action exchanges, and how it ends.
* `PutOnce` — what is exchanged for one question.

## Main statements

* `run_fetchAll_recorded` — writing the exchanges down changes nothing.
* `makes_question` — a question is put once at most.
-/

namespace Mend

open Act

variable {σ α β : Type}

namespace Scanner

/-- A question, the access with which it is put, and what comes of it. -/
structure Exchange where
  access : Access
  question : Question
  response : Response

/-- What a server keeps for itself, and its exchanges so far. -/
structure Ledger (σ : Type) where
  own : σ
  exchanges : List Exchange := []

/-- The server that writes its exchanges down. -/
def Server.recorded (server : Server σ) : Server (Ledger σ) where
  refusal? := server.refusal?
  answer a q l :=
    let (response, own) := server.answer a q l.own
    (response, ⟨own, l.exchanges ++ [⟨a, q, response⟩]⟩)

end Scanner

/-- The world in which no exchange is written down yet. -/
def World.recording (w : World σ) : World (Scanner.Ledger σ) := w.mapExtra fun own => ⟨own, []⟩

/-- The exchanges that are written down. -/
def World.exchanges (w : World (Scanner.Ledger σ)) : List Scanner.Exchange := w.extra.exchanges

namespace Scanner

/-- The exchanges of a scan. -/
def exchangesIn (server : Server σ) (s : ScannerSettings) (selectors : Selectors) (w : World σ) :
    List Exchange :=
  ((fetchAll server.recorded s selectors).run w.recording).2.exchanges

/-- Writing the exchanges down changes nothing. -/
theorem run_fetchAll_recorded (server : Server σ) (s : ScannerSettings) (selectors : Selectors)
    (w : World σ) :
    (fetchAll server s selectors).run w =
      (((fetchAll server.recorded s selectors).run w.recording).1,
        ((fetchAll server.recorded s selectors).run w.recording).2.mapExtra Ledger.own) := by
  have hsame : Server.Mirrors Ledger.own server.recorded server := ⟨fun _ => rfl, fun _ _ _ => rfl⟩
  exact (mirrors_fetchAll hsame s selectors).run w.recording

/-- In an exchange, the scanner of some settings is asked for a resource, with some fields put to it. -/
def Exchange.AsksFor (s : ScannerSettings) (resource : Text) (fields : Option (List (Text × Value)))
    (x : Exchange) : Prop :=
  x.access = .ofSettings s ∧ x.question = ⟨resource, fields⟩

/-! ## What an action exchanges -/

/-- Whatever was exchanged before, what an action exchanges and how it ends are as a condition says. -/
def Makes (a : Act (World (Ledger σ)) α) (P : List Exchange → Except Fault α → Prop) : Prop :=
  ∀ w, ∃ made, (a.run w).2.exchanges = w.exchanges ++ made ∧ P made (a.run w).1

namespace Makes

variable {a : Act (World (Ledger σ)) α} {f : α → Act (World (Ledger σ)) β}
  {P Q : List Exchange → Except Fault α → Prop} {R : List Exchange → Except Fault β → Prop}

theorem imp (h : Makes a P) (himp : ∀ made r, P made r → Q made r) : Makes a Q := by
  intro w
  obtain ⟨made, hmade, hP⟩ := h w
  exact ⟨made, hmade, himp _ _ hP⟩

/-- An action that leaves alone what the server keeps exchanges nothing. -/
theorem of_quiet (hquiet : ∀ w, (a.run w).2.extra = w.extra) (h : ∀ w, P [] (a.run w).1) :
    Makes a P := fun w =>
  ⟨[], by rw [World.exchanges, hquiet, List.append_nil]; rfl, h w⟩

theorem ofExcept {r : Except Fault α} (h : P [] r) :
    Makes (Act.ofExcept r : Act (World (Ledger σ)) α) P :=
  of_quiet (fun _ => rfl) fun _ => h

theorem pure {x : α} (h : P [] (.ok x)) : Makes (pure x : Act (World (Ledger σ)) α) P :=
  of_quiet (fun _ => rfl) fun _ => h

theorem fail {e : Fault} (h : P [] (.error e)) : Makes (Act.fail e : Act (World (Ledger σ)) α) P :=
  of_quiet (fun _ => rfl) fun _ => h

/-- After what the first action exchanges comes what the second one does, unless the first one
fails. -/
theorem bind (ha : Makes a P) (herror : ∀ made e, P made (.error e) → R made (.error e))
    (hf : ∀ x made, P made (.ok x) → Makes (f x) fun more r => R (made ++ more) r) :
    Makes (a >>= f) R := by
  intro w
  obtain ⟨made, hmade, hP⟩ := ha w
  rcases hrun : a.run w with ⟨e | x, w'⟩
  · rw [hrun] at hmade hP
    rw [Act.run_bind_error hrun]
    exact ⟨made, hmade, herror made e hP⟩
  · rw [hrun] at hmade hP
    obtain ⟨more, hmore, hR⟩ := hf x made hP w'
    rw [Act.run_bind_ok hrun]
    exact ⟨made ++ more, by rw [hmore, hmade, List.append_assoc], hR⟩

theorem ofExcept_bind {r : Except Fault α} (herror : ∀ e, r = .error e → R [] (.error e))
    (hf : ∀ x, r = .ok x → Makes (f x) R) : Makes (Act.ofExcept r >>= f) R := by
  cases r with
  | error e => exact fail (herror e rfl)
  | ok x => exact hf x rfl

theorem modify {u : World (Ledger σ) → World (Ledger σ)} (hu : ∀ w, (u w).extra = w.extra)
    {f : Unit → Act (World (Ledger σ)) α} (h : Makes (f ()) P) : Makes (Act.modify u >>= f) P := by
  intro w
  obtain ⟨made, hmade, hP⟩ := h (u w)
  have hrun : (Act.modify u >>= f).run w = (f ()).run (u w) := Act.run_bind_ok (Act.run_modify ..)
  have hsame : (u w).exchanges = w.exchanges := congrArg Ledger.exchanges (hu w)
  exact ⟨made, by rw [hrun, hmade, hsame], by rwa [hrun]⟩

theorem say {f : Unit → Act (World (Ledger σ)) α} (level : Log.Level) (parts : List Text)
    (h : Makes (f ()) P) : Makes (World.say level parts >>= f) P :=
  modify (u := fun w => { w with log := ⟨level, .cat parts⟩ :: w.log }) (fun _ => rfl) h

/-- What is exchanged does not change when somebody looks at how the action ends. -/
theorem unlessDown (h : Makes a P) :
    Makes (Scanner.unlessDown a) fun made r =>
      (∃ ending, P made ending) ∧ ∀ x, r = .ok (.ok x) → P made (.ok x) := by
  have hattempt : Makes a.attempt fun made r => ∃ ending, r = .ok ending ∧ P made ending := by
    intro w
    obtain ⟨made, hmade, hP⟩ := h w
    exact ⟨made, by rw [Act.run_attempt]; exact hmade, _, by rw [Act.run_attempt], hP⟩
  refine bind hattempt (fun made e ⟨_, heq, _⟩ => by cases heq) fun ending made hending => ?_
  obtain ⟨_, ⟨⟩, hP⟩ := hending
  split
  · refine .pure ⟨⟨_, by rw [List.append_nil]; exact hP⟩, fun x hx => ?_⟩
    cases hx
    rw [List.append_nil]
    exact hP
  · exact .pure ⟨⟨_, by rw [List.append_nil]; exact hP⟩, fun x hx => by cases hx⟩
  · exact .fail ⟨⟨_, by rw [List.append_nil]; exact hP⟩, fun x hx => by cases hx⟩

end Makes

/-! ## Questions -/

/-- What is exchanged for one question: either nothing comes of it, or a result comes of the reply. -/
inductive PutOnce (s : ScannerSettings) (resource : Text) (fields : Option (List (Text × Value)))
    (Good : Reply → α → Prop) : List Exchange → Except Fault α → Prop
  | failed {x : Exchange} (asks : x.AsksFor s resource fields) (e : Fault) :
      PutOnce s resource fields Good [x] (.error e)
  | answered {x : Exchange} {reply : Reply} {a : α} (asks : x.AsksFor s resource fields)
      (response : x.response = .reply reply) (good : Good reply a) :
      PutOnce s resource fields Good [x] (.ok a)

theorem makes_ask (server : Server σ) (a : Access) (q : Question) :
    Makes (server.recorded.ask a q) fun made ending =>
      ∃ response, made = [⟨a, q, response⟩] ∧ ending = .ok response :=
  fun _ => ⟨_, rfl, _, rfl, rfl⟩

/-- A question is put, and the reply comes back. -/
theorem makes_get (c : Client) (server : Server σ) (resource : Text)
    (fields : Option (List (Text × Value))) :
    Makes (c.get server.recorded resource fields)
      (PutOnce c.settings resource fields fun reply r => r = reply) := by
  refine .bind (makes_ask server _ _) (fun made e ⟨_, _, h⟩ => by cases h) fun response made hask => ?_
  obtain ⟨_, rfl, ⟨⟩⟩ := hask
  have hasks : Exchange.AsksFor c.settings resource fields
      ⟨.ofSettings c.settings, ⟨resource, fields⟩, response⟩ := ⟨rfl, rfl⟩
  cases response with
  | reply reply => exact .pure (.answered hasks rfl rfl)
  | _ => exact .fail (.failed hasks _)

/-- A question is put, and something is made of the reply. -/
theorem makes_question (c : Client) (server : Server σ) {resource : Text}
    {fields : Option (List (Text × Value))} {Good : Reply → α → Prop}
    {k : Reply → Act (World (Ledger σ)) α}
    (hk : ∀ reply, ∃ r, k reply = Act.ofExcept r ∧ ∀ x, r = .ok x → Good reply x) :
    Makes (c.get server.recorded resource fields >>= k)
      (PutOnce c.settings resource fields Good) := by
  refine .bind (makes_get c server resource fields) (fun made e h => ?_) fun reply made h => ?_
  · cases h with
    | failed asks => exact .failed asks e
  · rcases h with _ | ⟨asks, response, rfl⟩
    obtain ⟨r, hr, hgood⟩ := hk reply
    rw [hr]
    refine .ofExcept ?_
    cases r with
    | error e => exact .failed asks e
    | ok x => exact .answered asks response (hgood x rfl)

end Scanner

end Mend
