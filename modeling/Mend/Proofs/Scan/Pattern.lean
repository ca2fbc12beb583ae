import Mend.Scan.Pattern
import Mathlib.Data.List.Forall2
import Mathlib.Data.List.Induction

/-!
# Where patterns match

A match of a pattern in a text is a part of the text, with what stands before it and what stands behind
it. Of what stands before it, only the last character counts. What a pattern matches can be told from
what its parts match, and only the edge of a word looks at what stands around the match.

## Main definitions

* `Pattern.MatchesAt` — whether a pattern matches a part of a text.
* `Pattern.IsInAnyCase` — whether a text is another one in lower case, written in any case.

## Main statements

* `Pattern.occursIn_iff` — a text contains a match just if the pattern matches a part of it.
* `Pattern.matchesAt_seq`, `Pattern.matchesAt_chain_cons` — patterns one behind the other.
* `Pattern.exists_word_start` — what goes on with a word character can be cut where the word begins.
-/

namespace Mend.Pattern

variable {p : Pattern} {s e : Spot} {t : Text}

/-- Whether a pattern matches the second one of three parts of a text. -/
def MatchesAt (p : Pattern) (before hit behind : Text) : Prop :=
  ⟨(before ++ hit).getLast?, behind⟩ ∈ p.ends ⟨before.getLast?, hit ++ behind⟩

/-- Whether one gets from a spot to another one by passing over a text. -/
def Passes (s : Spot) (hit : Text) (e : Spot) : Prop :=
  s.rest = hit ++ e.rest ∧ e.before = hit.getLast?.or s.before

theorem Passes.refl (s : Spot) : Passes s [] s := ⟨rfl, rfl⟩

theorem Passes.trans {m : Spot} {hit more : Text} (h : Passes s hit m) (h' : Passes m more e) :
    Passes s (hit ++ more) e := by
  obtain ⟨hrest, hbefore⟩ := h
  obtain ⟨hrest', hbefore'⟩ := h'
  refine ⟨by rw [hrest, hrest', List.append_assoc], ?_⟩
  rw [hbefore', hbefore, List.getLast?_append, Option.or_assoc]

theorem exists_passes_of_mem_runEnds {q : Code → Bool} {before : Option Code}
    (h : e ∈ runEnds q before t) : ∃ hit, Passes ⟨before, t⟩ hit e := by
  induction t generalizing before with
  | nil =>
      rw [runEnds, List.mem_singleton] at h
      exact ⟨[], h ▸ .refl _⟩
  | cons c t ih =>
      rw [runEnds, List.mem_cons] at h
      rcases h with rfl | h
      · exact ⟨[], .refl _⟩
      · split at h
        · obtain ⟨hit, hpasses⟩ := ih h
          exact ⟨[c] ++ hit, .trans ⟨rfl, rfl⟩ hpasses⟩
        · cases h

/-- A match ends behind a part of the text that begins where it does. -/
theorem exists_passes_of_mem_ends (h : e ∈ p.ends s) : ∃ hit, Passes s hit e := by
  induction p generalizing s e with
  | one q =>
      obtain ⟨before, t⟩ := s
      cases t with
      | nil => cases h
      | cons c t =>
          change e ∈ if q c = true then [(⟨some c, t⟩ : Spot)] else [] at h
          split at h
          · exact ⟨[c], List.mem_singleton.1 h ▸ ⟨rfl, rfl⟩⟩
          · cases h
  | many q => exact exists_passes_of_mem_runEnds h
  | wordEdge =>
      rw [ends] at h
      split at h
      · exact ⟨[], List.mem_singleton.1 h ▸ .refl _⟩
      · cases h
  | empty => exact ⟨[], List.mem_singleton.1 h ▸ .refl _⟩
  | seq a b iha ihb =>
      obtain ⟨m, hm, he⟩ := List.mem_flatMap.1 h
      obtain ⟨hit, hpasses⟩ := iha hm
      obtain ⟨more, hpasses'⟩ := ihb he
      exact ⟨hit ++ more, hpasses.trans hpasses'⟩
  | either a b iha ihb => exact (List.mem_append.1 h).elim iha ihb

/-- The last character before a spot, when one more has been passed over. -/
theorem getLast?_cons_or (c : Code) (start : Text) (before : Option Code) :
    (c :: start).getLast?.or before = start.getLast?.or (some c) := by
  rw [List.getLast?_cons]
  cases start.getLast? <;> rfl

theorem search_iff (before : Option Code) :
    p.search before t = true ↔
      ∃ start rest e, t = start ++ rest ∧ e ∈ p.ends ⟨start.getLast?.or before, rest⟩ := by
  have hsome {s : Spot} : (!(p.ends s).isEmpty) = true ↔ ∃ e, e ∈ p.ends s := by
    rw [Bool.not_eq_true', List.isEmpty_eq_false_iff, List.ne_nil_iff_exists_cons]
    constructor
    · rintro ⟨e, l, hl⟩
      exact ⟨e, hl ▸ List.mem_cons_self⟩
    · rintro ⟨e, he⟩
      exact List.exists_cons_of_ne_nil (List.ne_nil_of_mem he)
  induction t generalizing before with
  | nil =>
      rw [search, hsome]
      constructor
      · rintro ⟨e, he⟩
        exact ⟨[], [], e, rfl, he⟩
      · rintro ⟨start, rest, e, hsplit, he⟩
        obtain ⟨rfl, rfl⟩ := List.append_eq_nil_iff.1 hsplit.symm
        exact ⟨e, he⟩
  | cons c t ih =>
      rw [search, Bool.or_eq_true, hsome]
      constructor
      · rintro (⟨e, he⟩ | hsearch)
        · exact ⟨[], c :: t, e, rfl, he⟩
        · obtain ⟨start, rest, e, rfl, he⟩ := (ih (some c)).1 hsearch
          refine ⟨c :: start, rest, e, rfl, ?_⟩
          rwa [getLast?_cons_or]
      · rintro ⟨start, rest, e, hsplit, he⟩
        cases start with
        | nil => exact .inl ⟨e, hsplit ▸ he⟩
        | cons d start =>
            obtain ⟨rfl, rfl⟩ := List.cons_eq_cons.1 hsplit
            refine .inr ((ih (some c)).2 ⟨start, rest, e, rfl, ?_⟩)
            rwa [getLast?_cons_or] at he

/-- A text contains a match just if the pattern matches a part of it. -/
theorem occursIn_iff :
    p.occursIn t = true ↔
      ∃ before hit behind, t = before ++ hit ++ behind ∧ p.MatchesAt before hit behind := by
  rw [occursIn, search_iff]
  constructor
  · rintro ⟨before, rest, e, rfl, he⟩
    rw [Option.or_none] at he
    obtain ⟨hit, hrest, hbefore⟩ := exists_passes_of_mem_ends he
    dsimp only at hrest hbefore
    refine ⟨before, hit, e.rest, by rw [hrest, List.append_assoc], ?_⟩
    rw [MatchesAt, List.getLast?_append, ← hbefore, ← hrest]
    exact he
  · rintro ⟨before, hit, behind, rfl, he⟩
    exact ⟨before, hit ++ behind, _, List.append_assoc .., by rwa [Option.or_none]⟩

/-! ## What each pattern matches -/

section

variable {q : Code → Bool} {a b : Pattern} {ps : List Pattern} {before hit behind : Text}

/-- A text is not what is left of it behind its first character. -/
theorem ne_cons_append (c : Code) (hit behind : Text) : behind ≠ c :: (hit ++ behind) := by
  intro h
  have hlength := congrArg List.length h
  rw [List.length_cons, List.length_append] at hlength
  omega

theorem matchesAt_one : (one q).MatchesAt before hit behind ↔ ∃ c, hit = [c] ∧ q c = true := by
  rw [MatchesAt]
  cases hit with
  | nil =>
      cases behind with
      | nil => simp [ends]
      | cons c rest => cases hq : q c <;> simp [ends, hq]
  | cons c rest =>
      cases hq : q c
      · simp [ends, hq]
      · cases rest <;> simp [ends, hq, ne_cons_append]

theorem matchesAt_many : (many q).MatchesAt before hit behind ↔ ∀ c ∈ hit, q c = true := by
  rw [MatchesAt, ends]
  dsimp only
  induction hit generalizing before with
  | nil => cases behind <;> simp [runEnds]
  | cons c hit ih =>
      have hlast : (before ++ [c]).getLast? = some c := List.getLast?_concat
      have hrest := @ih (before ++ [c])
      rw [hlast, List.append_assoc, List.singleton_append] at hrest
      rw [List.cons_append, runEnds, List.mem_cons]
      cases hq : q c
      · simp [hq, ne_cons_append]
      · rw [if_pos rfl, hrest]
        simp [hq, ne_cons_append]

theorem matchesAt_wordEdge : wordEdge.MatchesAt before hit behind ↔
    hit = [] ∧ isWordAt before.getLast? ≠ isWordAt behind.head? := by
  rw [MatchesAt, ends]
  cases hit with
  | nil => simp
  | cons c rest =>
      refine iff_of_false (fun h => ?_) (by simp)
      split at h
      · exact ne_cons_append c rest behind (congrArg Spot.rest (List.mem_singleton.1 h))
      · cases h

theorem matchesAt_empty : empty.MatchesAt before hit behind ↔ hit = [] := by
  rw [MatchesAt, ends, List.mem_singleton]
  cases hit <;> simp [ne_cons_append]

theorem matchesAt_either : (either a b).MatchesAt before hit behind ↔
    a.MatchesAt before hit behind ∨ b.MatchesAt before hit behind :=
  List.mem_append

/-- One pattern behind another one matches what can be cut in two. -/
theorem matchesAt_seq : (seq a b).MatchesAt before hit behind ↔
    ∃ first second, hit = first ++ second ∧ a.MatchesAt before first (second ++ behind) ∧
      b.MatchesAt (before ++ first) second behind := by
  rw [MatchesAt, ends, List.mem_flatMap]
  constructor
  · rintro ⟨⟨last, rest⟩, ha, hb⟩
    obtain ⟨first, hrest, hlast⟩ := exists_passes_of_mem_ends ha
    obtain ⟨second, hrest', -⟩ := exists_passes_of_mem_ends hb
    dsimp only at hrest hrest' hlast
    subst hrest' hlast
    rw [← List.append_assoc] at hrest
    obtain rfl := List.append_cancel_right hrest
    refine ⟨first, second, rfl, ?_, ?_⟩
    · rw [MatchesAt, ← List.append_assoc, List.getLast?_append]
      exact ha
    · rw [MatchesAt, List.append_assoc, List.getLast?_append (l := before)]
      exact hb
  · rintro ⟨first, second, rfl, ha, hb⟩
    rw [MatchesAt, ← List.append_assoc] at ha
    rw [MatchesAt, List.append_assoc] at hb
    exact ⟨_, ha, hb⟩

/-! ### Patterns built from others -/

theorem matchesAt_chain_nil : (chain []).MatchesAt before hit behind ↔ hit = [] := matchesAt_empty

theorem matchesAt_chain_cons : (chain (p :: ps)).MatchesAt before hit behind ↔
    ∃ first second, hit = first ++ second ∧ p.MatchesAt before first (second ++ behind) ∧
      (chain ps).MatchesAt (before ++ first) second behind := by
  cases ps with
  | nil => simp [chain, matchesAt_empty]
  | cons p' ps => exact matchesAt_seq

theorem matchesAt_choice : (choice ps).MatchesAt before hit behind ↔
    ∃ p ∈ ps, p.MatchesAt before hit behind := by
  induction ps with
  | nil => simp [choice, matchesAt_one]
  | cons p ps ih =>
      cases ps with
      | nil => simp [choice]
      | cons p' ps =>
          rw [List.exists_mem_cons_iff, ← ih]
          exact matchesAt_either

theorem matchesAt_optional : (Pattern.optional p).MatchesAt before hit behind ↔
    p.MatchesAt before hit behind ∨ hit = [] :=
  matchesAt_either.trans (or_congr_right matchesAt_empty)

/-- A chain of single characters matches texts of its length, character by character. -/
theorem matchesAt_chain_ones {qs : List (Code → Bool)} :
    (chain (qs.map one)).MatchesAt before hit behind ↔
      List.Forall₂ (fun q c => q c = true) qs hit := by
  induction qs generalizing before hit with
  | nil => simp [chain, matchesAt_empty]
  | cons q qs ih =>
      rw [List.map_cons, matchesAt_chain_cons, List.forall₂_cons_left_iff]
      simp only [matchesAt_one, ih]
      constructor
      · rintro ⟨_, rest, rfl, ⟨c, rfl, hc⟩, hrest⟩
        exact ⟨c, rest, hc, hrest, rfl⟩
      · rintro ⟨c, rest, hc, hrest, rfl⟩
        exact ⟨[c], rest, rfl, ⟨c, rfl, hc⟩, hrest⟩

theorem matchesAt_word : (word t).MatchesAt before hit behind ↔ hit = t := by
  have h : word t = chain ((t.map fun c d => d == c).map one) := by
    rw [word, List.map_map]
    rfl
  rw [h, matchesAt_chain_ones, List.forall₂_map_left_iff]
  simp only [beq_iff_eq]
  rw [eq_comm, ← List.forall₂_eq_eq_eq]
  simp only [eq_comm]

/-- Whether a text is another one in lower case, written in any case. -/
def IsInAnyCase (t u : Text) : Prop := List.Forall₂ (fun c d => sameLetter c d = true) t u

theorem matchesAt_anyCase : (anyCase t).MatchesAt before hit behind ↔ IsInAnyCase t hit := by
  have h : anyCase t = chain ((t.map sameLetter).map one) := by
    rw [anyCase, List.map_map]
    rfl
  rw [h, matchesAt_chain_ones, List.forall₂_map_left_iff, IsInAnyCase]

theorem isInAnyCase_append {t t' u : Text} : IsInAnyCase (t ++ t') u ↔
    ∃ first second, u = first ++ second ∧ IsInAnyCase t first ∧ IsInAnyCase t' second := by
  constructor
  · intro h
    refine ⟨_, _, (List.take_append_drop t.length u).symm, ?_, ?_⟩
    · have hfirst := List.forall₂_take t.length h
      rwa [List.take_left] at hfirst
    · have hsecond := List.forall₂_drop t.length h
      rwa [List.drop_left] at hsecond
  · rintro ⟨first, second, rfl, h, h'⟩
    exact List.rel_append h h'

end

/-! ## Letters and words -/

/-- The characters that are the same when case does not matter. -/
theorem sameLetter_iff {c d : Nat} : sameLetter c d = true ↔
    d = c ∨ (0x61 ≤ c ∧ c ≤ 0x7A) ∧
      (d + 0x20 = c ∨ c = 0x73 ∧ d = 0x17F ∨ c = 0x6B ∧ d = 0x212A ∨
        c = 0x69 ∧ (d = 0x130 ∨ d = 0x131)) := by
  simp [sameLetter, or_assoc]

/-- What is the same as a lower case letter is a word character. -/
theorem isWord_of_sameLetter {c d : Nat} (hc : 0x61 ≤ c ∧ c ≤ 0x7A) (h : sameLetter c d = true) :
    Text.isWord d = true := by
  have hletter {d : Nat} (hd : 0x41 ≤ d ∧ d ≤ 0x5A ∨ 0x61 ≤ d ∧ d ≤ 0x7A) :
      Text.isWord d = true := by
    have hascii : d < 0x80 := by omega
    have hisLetter : Text.isAsciiLetter d = true := by simpa [Text.isAsciiLetter] using hd
    rw [Text.isWord, if_pos hascii, hisLetter]
    rfl
  rcases sameLetter_iff.1 h with rfl | ⟨-, hupper | ⟨-, rfl⟩ | ⟨-, rfl⟩ | ⟨-, rfl | rfl⟩⟩
  · exact hletter (.inr hc)
  · exact hletter (.inl (by omega))
  all_goals decide +kernel

/-- A text that goes on with a word character can be cut where the word begins. -/
theorem exists_word_start (before : Text) {rest : Text} (h : isWordAt rest.head? = true) :
    ∃ start lead, before = start ++ lead ∧ (∀ c ∈ lead, Text.isWord c = true) ∧
      isWordAt start.getLast? ≠ isWordAt (lead ++ rest).head? := by
  induction before using List.reverseRecOn generalizing rest with
  | nil => exact ⟨[], [], rfl, List.forall_mem_nil _, by rw [List.nil_append, h]; decide⟩
  | append_singleton before c ih =>
      cases hc : Text.isWord c with
      | false =>
          refine ⟨before ++ [c], [], (List.append_nil _).symm, List.forall_mem_nil _, ?_⟩
          rw [List.getLast?_concat, List.nil_append, h, isWordAt, Option.map_some, hc]
          decide
      | true =>
          have hhead : isWordAt (c :: rest).head? = true := hc
          obtain ⟨start, lead, rfl, hlead, hedge⟩ := ih hhead
          refine ⟨start, lead ++ [c], List.append_assoc .., ?_, ?_⟩
          · exact List.forall_mem_append.2 ⟨hlead, List.forall_mem_singleton.2 hc⟩
          · rwa [List.append_assoc]

end Mend.Pattern
