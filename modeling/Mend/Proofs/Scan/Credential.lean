import Mend.Proofs.Scan.Containment
import Mend.Proofs.Scan.Pattern

/-!
# Secrets in source code

A line that gives a text to something named like a secret is found, whatever else stands in it. The
pattern begins at the edge of a word and takes in word characters before the secret word; none of this
can make it miss an assignment, since every word begins somewhere. What is found in a line is reported
once, unless the line is a comment.

## Main definitions

* `Detector.Assignment` — a text given to something named like a secret, as it is written.
* `Scan.isReportOf` — the issues that report a line for a rule.

## Main statements

* `Detector.occursIn_credential` — a line has a match just if an assignment stands somewhere in it.
* `Scan.filter_scanText` — what a detector with a rule of its own reports for a line.
* `Scan.credentials_reported` — what is found and reported of secrets.
-/

namespace Mend

namespace Detector

open Pattern Text

variable {before hit behind : Text}

/-! ## Assignments -/

/-- The words that make a name the name of a secret. -/
def secretWords : List Text :=
  ["password", "passwd", "pwd", "secret", "token", "apikey", "api_key", "credential"]

/-- A text given to something that is named like a secret: the name goes on behind one of the secret
words, and there may be white space around the equals sign. -/
structure Assignment where
  keyword : Text
  /-- The rest of the name. -/
  more : Text
  left : Text
  right : Text
  value : Text
  isSecret : ∃ word ∈ secretWords, IsInAnyCase word keyword
  isWord_more : ∀ c ∈ more, isWord c = true
  isBlank_left : ∀ c ∈ left, isBlank c = true
  isBlank_right : ∀ c ∈ right, isBlank c = true
  value_ne_nil : value ≠ []
  quote_notMem_value : quote ∉ value

namespace Assignment

/-- An assignment as it is written. -/
def text (a : Assignment) : Text :=
  .cat [a.keyword, a.more, a.left, "=", a.right, [quote], a.value, [quote]]

/-- An assignment begins with a word character, since a secret word does in any case. -/
theorem isWordAt_head? (a : Assignment) (behind : Text) :
    isWordAt (a.text ++ behind).head? = true := by
  have hlower : ∀ word ∈ secretWords, ∃ c rest, word = c :: rest ∧ 0x61 ≤ c ∧ c ≤ 0x7A := by
    simp [secretWords, Text.ofString]
  obtain ⟨word, hword, hcase⟩ := a.isSecret
  obtain ⟨c, rest, rfl, hc⟩ := hlower word hword
  obtain ⟨d, keyword, hd, -, hkeyword⟩ := List.forall₂_cons_left_iff.1 hcase
  rw [text, hkeyword]
  exact isWord_of_sameLetter hc hd

end Assignment

/-! ## The pattern -/

theorem matchesAt_secretNames : secretNames.MatchesAt before hit behind ↔
    ∃ word ∈ secretWords, IsInAnyCase word hit := by
  have hunderscore (t : Text) : IsInAnyCase "_" t ↔ t = Text.ofString "_" := by
    simp [IsInAnyCase, Text.ofString, sameLetter, List.forall₂_cons_left_iff]
  have hkey : (chain [anyCase "api", Pattern.optional (word "_"), anyCase "key"]).MatchesAt before hit
      behind ↔ IsInAnyCase "apikey" hit ∨ IsInAnyCase "api_key" hit := by
    have hshort : Text.ofString "apikey" = Text.ofString "api" ++ Text.ofString "key" := rfl
    have hlong : Text.ofString "api_key" =
      Text.ofString "api" ++ (Text.ofString "_" ++ Text.ofString "key") := rfl
    simp only [hshort, hlong, isInAnyCase_append, hunderscore, matchesAt_chain_cons,
      matchesAt_chain_nil, matchesAt_anyCase, matchesAt_optional, matchesAt_word]
    constructor
    · rintro ⟨api, _, rfl, hapi, _, _, rfl, rfl | rfl, key, _, rfl, hkey, rfl⟩
      · exact .inr ⟨api, _, rfl, hapi, _, key, by rw [List.append_nil], rfl, hkey⟩
      · exact .inl ⟨api, key, by rw [List.append_nil, List.nil_append], hapi, hkey⟩
    · rintro (⟨api, key, rfl, hapi, hkey⟩ | ⟨api, _, rfl, hapi, _, key, rfl, rfl, hkey⟩)
      · exact ⟨api, key, rfl, hapi, [], key, rfl, .inr rfl, key, [], (List.append_nil _).symm, hkey,
          rfl⟩
      · exact ⟨api, _, rfl, hapi, _, key, rfl, .inl rfl, key, [], (List.append_nil _).symm, hkey, rfl⟩
  rw [secretNames, matchesAt_choice]
  simp only [secretWords, List.mem_cons, List.not_mem_nil, or_false, exists_eq_or_imp, exists_eq_left,
    matchesAt_anyCase, hkey, or_assoc]

/-- The pattern matches an assignment together with word characters before it, where these begin at the
edge of a word. -/
theorem matchesAt_credential : credential.MatchesAt before hit behind ↔
    isWordAt before.getLast? ≠ isWordAt (hit ++ behind).head? ∧
      ∃ (lead : Text) (a : Assignment), (∀ c ∈ lead, isWord c = true) ∧ hit = lead ++ a.text := by
  simp only [credential, matchesAt_chain_cons, matchesAt_chain_nil, matchesAt_wordEdge, matchesAt_many,
    matchesAt_secretNames, blanks, matchesAt_word, quoteMark, matchesAt_one, others, beq_iff_eq,
    bne_iff_ne, ne_eq]
  constructor
  · rintro ⟨_, _, rfl, ⟨rfl, hedge⟩, lead, _, rfl, hlead, keyword, _, rfl, hsecret, more, _, rfl, hmore,
      left, _, rfl, hleft, _, _, rfl, rfl, right, _, rfl, hright, _, _, rfl, ⟨_, rfl, rfl⟩,
      _, _, rfl, ⟨c, rfl, hc⟩, value, _, rfl, hvalue, _, _, rfl, ⟨_, rfl, rfl⟩, rfl⟩
    refine ⟨hedge, lead, ⟨keyword, more, left, right, c :: value, hsecret, hmore, hleft, hright, ?_, ?_⟩,
      hlead, ?_⟩
    · exact List.cons_ne_nil c value
    · exact fun h => (List.mem_cons.1 h).elim (fun h => hc h.symm) fun h => hvalue _ h rfl
    · simp [Assignment.text, Text.cat]
  · rintro ⟨hedge, lead, ⟨keyword, more, left, right, value, hsecret, hmore, hleft, hright, hne, hquote⟩,
      hlead, rfl⟩
    obtain ⟨c, value, rfl⟩ := List.exists_cons_of_ne_nil hne
    rw [List.mem_cons, not_or] at hquote
    refine ⟨[], _, rfl, ⟨rfl, hedge⟩, lead, _, rfl, hlead, keyword, _, rfl, hsecret, more, _, rfl, hmore,
      left, _, rfl, hleft, _, _, rfl, rfl, right, _, rfl, hright, _, _, rfl, ⟨_, rfl, rfl⟩,
      [c], value ++ [quote], rfl, ⟨c, rfl, Ne.symm hquote.1⟩, value, [quote], rfl, ?_,
      [quote], [], rfl, ⟨_, rfl, rfl⟩, rfl⟩
    exact fun d hd hd' => hquote.2 (hd' ▸ hd)

/-- Wherever an assignment stands in a line, it is found, and nothing else is. -/
theorem occursIn_credential {line : Text} :
    credential.occursIn line = true ↔ ∃ a : Assignment, a.text <:+: line := by
  rw [occursIn_iff]
  constructor
  · rintro ⟨before, hit, behind, rfl, hmatch⟩
    obtain ⟨-, lead, a, -, rfl⟩ := matchesAt_credential.1 hmatch
    exact ⟨a, before ++ lead, behind, by simp only [List.append_assoc]⟩
  · rintro ⟨a, before, behind, rfl⟩
    -- The match begins not with the assignment, but with the word in which the secret word stands.
    obtain ⟨start, lead, rfl, hlead, hedge⟩ := exists_word_start before (a.isWordAt_head? behind)
    refine ⟨start, lead ++ a.text, behind, by simp only [List.append_assoc], matchesAt_credential.2 ?_⟩
    exact ⟨by rwa [List.append_assoc], lead, a, hlead, rfl⟩

end Detector

namespace Scan

open Text

variable {d : Detector} {detectors : List Detector} {line t : Text}

/-! ## Reports for a line -/

/-- Whether an issue reports a line for a rule. -/
def isReportOf (rule : Text) (number : Nat) (i : Issue) : Bool :=
  i.rule.same (.text rule) && i.lineStart == number

/-- If rules are distinct, a rule tells its detector. -/
theorem filter_rule (hrules : (detectors.map (·.rule)).Nodup) (hd : d ∈ detectors) :
    detectors.filter (·.rule == d.rule) = [d] := by
  induction detectors with
  | nil => cases hd
  | cons first rest ih =>
      obtain ⟨hfirst, hrest⟩ := List.nodup_cons.1 hrules
      rw [List.filter_cons]
      rcases List.mem_cons.1 hd with rfl | hd
      · have hnone : rest.filter (·.rule == d.rule) = [] := by
          rw [List.filter_eq_nil_iff]
          intro d' hd' hrule
          exact hfirst (List.mem_map.2 ⟨d', hd', beq_iff_eq.1 hrule⟩)
        rw [if_pos (beq_self_eq_true _), hnone]
      · have hne : ¬(first.rule == d.rule) = true := fun hrule =>
          hfirst (List.mem_map.2 ⟨d, hd, (beq_iff_eq.1 hrule).symm⟩)
        rw [if_neg hne, ih hrest hd]

/-- What is made of numbered lines, if something is made of only one of them. -/
theorem flatMap_zipIdx {β : Type} {lines : List Text} {first n : Nat} {f : Text × Nat → List β}
    (hline : lines[n]? = some line) (hother : ∀ x, x.2 ≠ first + n → f x = []) :
    (lines.zipIdx first).flatMap f = f (line, first + n) := by
  induction lines generalizing first n with
  | nil => cases hline
  | cons top rest ih =>
      rw [List.zipIdx_cons, List.flatMap_cons]
      cases n with
      | zero =>
          obtain rfl : top = line := Option.some.inj hline
          have hrest : (rest.zipIdx (first + 1)).flatMap f = [] := by
            rw [List.flatMap_eq_nil_iff]
            intro x hx
            have hbelow := List.le_snd_of_mem_zipIdx hx
            exact hother x (by omega)
          rw [hrest, List.append_nil, Nat.add_zero]
      | succ n =>
          have hnumber : first + 1 + n = first + (n + 1) := by omega
          rw [hother (top, first) (by simp), List.nil_append, ← hnumber]
          exact ih hline fun x hx => hother x (hnumber ▸ hx)

/-- A detector with a rule of its own matches in a line at most once, and in no comment. -/
theorem filter_matchesIn (hrules : (detectors.map (·.rule)).Nodup) (hd : d ∈ detectors) {n : Nat}
    (hline : t.lines[n]? = some line) :
    (matchesIn detectors t).filter (fun place => place.2.rule == d.rule && place.1 == n + 1) =
      if d.isMatch line && !isComment line then [(n + 1, d)] else [] := by
  rw [matchesIn, List.filter_flatMap, flatMap_zipIdx hline, Nat.add_comm 1 n]
  · dsimp only
    cases isComment line with
    | true => simp
    | false =>
        have hplace : (fun place : Nat × Detector => place.2.rule == d.rule && place.1 == n + 1) ∘
            (n + 1, ·) = (·.rule == d.rule) := by
          funext d'
          simp
        rw [if_neg Bool.false_ne_true, List.filter_map, hplace, List.filter_comm, filter_rule hrules hd]
        cases hmatch : d.isMatch line <;> simp [hmatch]
  · intro x hx
    rw [List.filter_eq_nil_iff]
    intro place hplace
    dsimp only at hplace
    split at hplace
    · cases hplace
    · obtain ⟨d', -, rfl⟩ := List.mem_map.1 hplace
      have hne : (x.2 == n + 1) = false := by
        rw [beq_eq_false_iff_ne]
        omega
      simp [hne]

/-- What a detector with a rule of its own reports for a line: one issue if it matches there and the
line is no comment, and nothing otherwise. -/
theorem filter_scanText (hrules : (detectors.map (·.rule)).Nodup) (hd : d ∈ detectors) {n : Nat}
    (hline : t.lines[n]? = some line) (path : Text) (keys : KeyFactory) :
    ∃ key, (scanText detectors path t keys).1.filter (isReportOf d.rule (n + 1)) =
      if d.isMatch line && !isComment line then [patternIssue d path key (n + 1)] else [] := by
  have hsame (place : Nat × Detector) (i : Issue) (h : IsIssueOf path place i) :
      (place.2.rule == d.rule && place.1 == n + 1) = true ↔ isReportOf d.rule (n + 1) i = true := by
    obtain ⟨key, rfl⟩ := h
    simp [isReportOf, patternIssue, Value.same_text]
  have hissues := List.rel_filter hsame (isIssueOf_scanText detectors path t keys)
  rw [filter_matchesIn hrules hd hline] at hissues
  split
  · rename_i h
    rw [if_pos h] at hissues
    obtain ⟨i, rest, ⟨key, rfl⟩, hrest, hi⟩ := List.forall₂_cons_left_iff.1 hissues
    rw [List.forall₂_nil_left_iff.1 hrest] at hi
    exact ⟨key, hi⟩
  · rename_i h
    rw [if_neg h] at hissues
    exact ⟨[], List.forall₂_nil_left_iff.1 hissues⟩

/-! ## Secrets -/

/-- No surroundings hide a secret. The detector of secrets matches a line just if an assignment to
something named like a secret stands somewhere in it; so it matches whatever is added before the line or
behind it. In a text, a line that it matches is reported once for its rule, unless the line is a comment,
and other lines are not reported for it. -/
theorem credentials_reported (hd : d ∈ Detector.standard) (hrule : d.rule = Text.ofString "java:S2068") :
    (∀ line, d.isMatch line = true ↔ ∃ a : Detector.Assignment, a.text <:+: line) ∧
    (∀ line before behind, d.isMatch line = true → d.isMatch (before ++ line ++ behind) = true) ∧
    ∀ (path t : Text) (keys : KeyFactory) (n : Nat) (line : Text), t.lines[n]? = some line →
      ∃ key, (scanText Detector.standard path t keys).1.filter (isReportOf d.rule (n + 1)) =
        if d.isMatch line && !isComment line then [patternIssue d path key (n + 1)] else [] := by
  have hrules : (Detector.standard.map (·.rule)).Nodup := by decide
  have hpattern : d.pattern = Detector.credential :=
    congrArg Detector.pattern (List.inj_on_of_nodup_map hrules hd List.mem_cons_self hrule)
  have hmatch (line : Text) : d.isMatch line = true ↔ ∃ a : Detector.Assignment, a.text <:+: line := by
    rw [Detector.isMatch, hpattern, Detector.occursIn_credential]
  refine ⟨hmatch, fun line before behind h => ?_, fun path t keys n line hline => ?_⟩
  · obtain ⟨a, ha⟩ := (hmatch line).1 h
    exact (hmatch _).2 ⟨a, ha.trans ⟨before, behind, rfl⟩⟩
  · exact filter_scanText hrules hd hline path keys

/-- A line with a password in which the long s stands for an s, in the middle of a longer name. -/
def disguised : Text := "token(); String dbPa\u017F\u017Fword2=\t\"x\" + y;"

/-- The line as a comment, and once more as it is. -/
def disguisedTwice : Text := .cat ["// ", disguised, "\n", disguised]

/-- The password is found in both lines, and reported only where it is not in a comment. -/
theorem credentials_reported_disguised :
    ∃ d ∈ Detector.standard, d.rule = Text.ofString "java:S2068" ∧ d.isMatch disguised = true ∧
      d.isMatch (Text.ofString "// " ++ disguised ++ []) = true ∧
      let issues := (scanText Detector.standard "A.java" disguisedTwice []).1
      issues.filter (isReportOf d.rule 1) = [] ∧
        ∃ key, issues.filter (isReportOf d.rule 2) = [patternIssue d "A.java" key 2] := by
  obtain ⟨d, hd, hrule⟩ : ∃ d ∈ Detector.standard, d.rule = Text.ofString "java:S2068" :=
    ⟨_, List.mem_cons_self, rfl⟩
  obtain ⟨hmatch, hcontext, hreport⟩ := credentials_reported hd hrule
  let assignment : Detector.Assignment := {
    keyword := "Pa\u017F\u017Fword", more := "2", left := "", right := "\t", value := "x"
    isSecret := ⟨"password", List.mem_cons_self, by unfold Pattern.IsInAnyCase; decide⟩
    isWord_more := by decide
    isBlank_left := by decide
    isBlank_right := by decide
    value_ne_nil := by decide
    quote_notMem_value := by decide }
  have hline : d.isMatch disguised = true :=
    (hmatch _).2 ⟨assignment, "token(); String db", " + y;", rfl⟩
  obtain ⟨key, hcomment⟩ := hreport "A.java" disguisedTwice [] 0 _ rfl
  obtain ⟨key', hcode⟩ := hreport "A.java" disguisedTwice [] 1 disguised rfl
  refine ⟨d, hd, hrule, hline, hcontext _ _ _ hline, ?_, key', ?_⟩
  · rw [hcomment, if_neg (by rw [Bool.and_eq_true]; exact fun h => absurd h.2 (by decide))]
  · rw [hcode, hline]
    rfl

end Scan

end Mend
