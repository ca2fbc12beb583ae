import Mend.Proofs.Scanner.Paging
import Mend.Proofs.Scanner.Searches

/-!
# How a scan talks to a scanner

A scan first sees that everything is there and then searches. It never searches unless the scanner has
said that it is up, that it accepts the credentials and that it has the project; and however the
scanner goes on then, the scan asks for a bounded number of pages, each at most once.

## Main definitions

* `Conversation` — what a scan exchanges with a scanner, and how it ends.

## Main statements

* `fetchAll_fails_closed` — what was exchanged before a search.
* `fetchAll_searches_bounded` — what a scan searches for, whatever the scanner answers.
-/

namespace Mend.Scanner

variable {σ : Type}

/-- What a scan exchanges with a scanner, and how it ends: it fails at a question before a search, or
all these questions are answered as they should be, and it searches. -/
inductive Conversation (s : ScannerSettings) (selectors : Selectors) :
    List Exchange → Except Fault ScanResult → Prop
  | stopped {made : List Exchange} (opens : Open s made) (e : Fault) :
      Conversation s selectors made (.error e)
  | searched {a b p : Exchange} {searches : List Exchange} {r : Except Fault ScanResult}
      (up : SaysUp s a) (accepted : AcceptsCredentials s b) (shown : ShowsProject s p)
      (opens : Open s [a, b, p]) (searched : Searched s selectors searches r) :
      Conversation s selectors (a :: b :: p :: searches) r

theorem makes_fetchAll (server : Server σ) (s : ScannerSettings) (selectors : Selectors) :
    Makes (fetchAll server.recorded s selectors) (Conversation s selectors) := by
  refine .ofExcept_bind (fun e _ => .stopped (.nil s) e) fun c hc => ?_
  obtain rfl := Client.settings_of_make hc
  refine .bind (makes_preflight c server) (fun made e h => .stopped h.1 e) fun name made h => ?_
  obtain ⟨hopen, hanswers⟩ := h
  obtain ⟨a, b, p, rfl, ha, hb, hp⟩ := hanswers name rfl
  exact (makes_fetch (asksOnce_counted c server) selectors).imp fun searches r h =>
    .searched ha hb hp hopen h

/-- A scan and what it exchanges are a conversation. -/
theorem conversation_fetchAll (server : Server σ) (s : ScannerSettings) (selectors : Selectors)
    (w : World σ) :
    Conversation s selectors (exchangesIn server s selectors w)
      ((fetchAll server s selectors).run w).1 := by
  obtain ⟨made, hmade, hconversation⟩ := makes_fetchAll server s selectors w.recording
  obtain rfl : exchangesIn server s selectors w = made := hmade
  rwa [congrArg Prod.fst (run_fetchAll_recorded server s selectors w)]

/-- Whatever a scanner answers, a scan searches only after three questions, each of which has been
answered as it should be: the scanner says that it is up, it accepts the credentials, and it has the
project of the settings. In every other case the scan fails and has asked for nothing but these. -/
theorem fetchAll_fails_closed (server : Server σ) (s : ScannerSettings) (selectors : Selectors)
    (w : World σ) :
    let made := exchangesIn server s selectors w
    let ending := ((fetchAll server s selectors).run w).1
    (∃ a b p searches, made = a :: b :: p :: searches ∧
      SaysUp s a ∧ AcceptsCredentials s b ∧ ShowsProject s p ∧
      (∀ x ∈ [a, b, p], ¬x.IsSearch) ∧
      searches ≠ [] ∧ ∀ x ∈ searches, x.IsSearch ∧ x.IsSearchOf s) ∨
    (∃ e, ending = .error e) ∧ Open s made ∧ ∀ x ∈ made, ¬x.IsSearch := by
  have h := conversation_fetchAll server s selectors w
  dsimp only
  generalize exchangesIn server s selectors w = made at h ⊢
  generalize ((fetchAll server s selectors).run w).1 = ending at h ⊢
  cases h with
  | stopped opens e => exact .inr ⟨⟨e, rfl⟩, opens, opens.not_isSearch⟩
  | @searched a b p searches _ up accepted shown opens searched =>
      obtain ⟨asks, -, hasks⟩ := searched.course
      refine .inl ⟨a, b, p, searches, rfl, up, accepted, shown, opens.not_isSearch,
        searched.ne_nil, fun x hx => ?_⟩
      have hsearch := isSearchOf_of_isFor hasks x hx
      exact ⟨hsearch.isSearch, hsearch⟩

/-- Whatever a scanner answers after the first three questions, a scan ends after a bounded number of
searches, which follow a course: each of them asks for a page within the result window, and only the
first one for the counts. If there is a result, it has no more issues than are wanted. -/
theorem fetchAll_searches_bounded (server : Server σ) (s : ScannerSettings) (selectors : Selectors)
    (w : World σ) :
    ∃ asks, Course s selectors asks ∧
      List.Forall₂ (Exchange.IsFor s) ((exchangesIn server s selectors w).drop 3) asks ∧
      (∀ a ∈ asks, 1 ≤ a.page ∧ a.page ≤ maxPages s.pageSize ∧
        a.page * s.pageSize ≤ resultWindow) ∧
      asks.length ≤ 1 + 5 * maxPages s.pageSize ∧
      (∀ (i : Nat) (a : Ask), asks[i]? = some a → (a.withFacets = true ↔ i = 0)) ∧
      ∀ result, ((fetchAll server s selectors).run w).1 = .ok result →
        result.issues.length ≤ selectors.maxIssues := by
  have h := conversation_fetchAll server s selectors w
  generalize exchangesIn server s selectors w = made at h ⊢
  generalize ((fetchAll server s selectors).run w).1 = ending at h ⊢
  obtain ⟨asks, hcourse, hasks, hlength⟩ : ∃ asks, Course s selectors asks ∧
      List.Forall₂ (Exchange.IsFor s) (made.drop 3) asks ∧
      ∀ result, ending = .ok result → result.issues.length ≤ selectors.maxIssues := by
    cases h with
    | stopped opens e =>
        rw [List.drop_eq_nil_of_le opens.length_le]
        exact ⟨[], .silent, .nil, fun _ h => by cases h⟩
    | searched up accepted shown opens searched =>
        obtain ⟨asks, hcourse, hasks⟩ := searched.course
        exact ⟨asks, hcourse, hasks, searched.length_le⟩
  refine ⟨asks, hcourse, hasks, fun a ha => ?_, hcourse.length_le, hcourse.withFacets_iff, hlength⟩
  obtain ⟨hfirst, hlast⟩ := hcourse.page_le a ha
  exact ⟨hfirst, hlast, Nat.le_trans (Nat.mul_le_mul_right _ hlast) (maxPages_mul_le s)⟩

end Mend.Scanner
