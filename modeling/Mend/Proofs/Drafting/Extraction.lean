import Mend.Proofs.Drafting.Blocks

/-!
# The file in an answer

What comes out of an answer is the body of its longest block, without the line feeds around it, and
one line feed. An answer without a block gives what stands behind its first line if it begins with a
fence: this is meant for a file that was cut off before its closing fence, but other answers get there
as well.

## Main definitions

* `Answer.IsFirstLongest` — the text that is chosen among several.
* `Answer.KeepsFence` — answers out of which a fence comes.

## Main statements

* `Answer.extractSource_written` — what comes out of an answer that consists of blocks and talk.
* `Answer.extractSource_shape` — what everything that comes out of an answer looks like.
-/

namespace Mend.Answer

open Text

variable {t u best body : Text} {ts : List Text}

/-! ## The longest body -/

/-- A text is longer than all before it and at least as long as all behind it. -/
def IsFirstLongest (t : Text) (ts : List Text) : Prop :=
  ∃ before behind, ts = before ++ t :: behind ∧ (∀ u ∈ before, u.length < t.length) ∧
    ∀ u ∈ behind, u.length ≤ t.length

namespace IsFirstLongest

theorem mem (h : IsFirstLongest t ts) : t ∈ ts := by
  obtain ⟨before, behind, rfl, -, -⟩ := h
  exact List.mem_append_right before (List.mem_cons_self ..)

theorem length_le (h : IsFirstLongest t ts) (hu : u ∈ ts) : u.length ≤ t.length := by
  obtain ⟨before, behind, rfl, hbefore, hbehind⟩ := h
  rcases List.mem_append.1 hu with hu | hu
  · exact Nat.le_of_lt (hbefore u hu)
  · rcases List.mem_cons.1 hu with rfl | hu
    · exact Nat.le_refl _
    · exact hbehind u hu

theorem cons (h : IsFirstLongest t ts) (hu : u.length < t.length) : IsFirstLongest t (u :: ts) := by
  obtain ⟨before, behind, rfl, hbefore, hbehind⟩ := h
  exact ⟨u :: before, behind, rfl, List.forall_mem_cons.2 ⟨hu, hbefore⟩, hbehind⟩

/-- A text behind one that is as long makes no difference. -/
theorem insert (h : IsFirstLongest t (best :: ts)) (hu : u.length ≤ best.length) :
    IsFirstLongest t (best :: u :: ts) := by
  obtain ⟨before, behind, hts, hbefore, hbehind⟩ := h
  cases before with
  | nil =>
      obtain ⟨rfl, rfl⟩ := List.cons.inj hts
      exact ⟨[], u :: ts, rfl, hbefore, List.forall_mem_cons.2 ⟨hu, hbehind⟩⟩
  | cons v before =>
      obtain ⟨rfl, rfl⟩ := List.cons.inj hts
      obtain ⟨hbest, hothers⟩ := List.forall_mem_cons.1 hbefore
      have hlonger := Nat.lt_of_le_of_lt hu hbest
      exact ⟨best :: u :: before, behind, rfl,
        List.forall_mem_cons.2 ⟨hbest, List.forall_mem_cons.2 ⟨hlonger, hothers⟩⟩, hbehind⟩

end IsFirstLongest

theorem isFirstLongest_foldl (best : Text) (ts : List Text) :
    IsFirstLongest (ts.foldl (fun best u => if best.length < u.length then u else best) best)
      (best :: ts) := by
  induction ts generalizing best with
  | nil => exact ⟨[], [], rfl, by simp, by simp⟩
  | cons u ts ih =>
      rw [List.foldl_cons]
      split
      case isTrue hlonger =>
        have hchosen := ih u
        exact hchosen.cons (Nat.lt_of_lt_of_le hlonger (hchosen.length_le (List.mem_cons_self ..)))
      case isFalse hshorter => exact (ih best).insert (Nat.le_of_not_lt hshorter)

theorem isFirstLongest_of_longest (h : longest ts = some t) : IsFirstLongest t ts := by
  cases ts with
  | nil => cases h
  | cons u ts =>
      cases h
      exact isFirstLongest_foldl u ts

theorem longest_eq_none_iff : longest ts = none ↔ ts = [] := by
  cases ts <;> simp [longest]

/-! ## What comes out -/

theorem all_trim_newline (t : Text) : (t.trim (· == newline)).all isBlank = t.all isBlank := by
  refine all_trim fun c hc => ?_
  obtain rfl := beq_iff_eq.1 hc
  rfl

theorem tidy_eq (body : Text) :
    tidy body =
      if body.all isBlank then none else some (body.trim (· == newline) ++ [newline]) := by
  have hblank : (body.trim (· == newline)).strip.isEmpty = body.all isBlank := by
    rw [← all_trim_newline, Bool.eq_iff_iff, List.isEmpty_iff]
    exact trim_eq_nil_iff
  simp only [tidy, hblank]

theorem extractSource_of_blocks (hmark : t.strip.startsWith unusableMark = false)
    (hbody : longest (blocks t) = some body) : extractSource t = tidy body := by
  have hblocks := blocks_strip t
  have hsome : t.strip.isEmpty = false := by
    rw [Bool.eq_false_iff, ne_eq, List.isEmpty_iff]
    intro hnil
    rw [hnil, blocks] at hblocks
    rw [← hblocks] at hbody
    cases hbody
  simp only [extractSource, hmark, hsome, Bool.or_self, Bool.false_eq_true, if_false]
  rw [body?, hblocks, hbody, Option.bind_some]

/-- What comes out of an answer that consists of blocks and talk, and does not begin like a refusal:
of the longest body, the first one if there are several, what is left without the line feeds around
it, and one line feed, or nothing if this body is blank. -/
theorem extractSource_written (lead : Talk) (first : Block × Talk) (rest : List (Block × Talk))
    (hmark : (written lead.text (first :: rest)).strip.startsWith unusableMark = false) :
    ∃ body, IsFirstLongest body ((first :: rest).map (·.1.body)) ∧
      extractSource (written lead.text (first :: rest)) =
        if body.all isBlank then none else some (body.trim (· == newline) ++ [newline]) := by
  have hblocks := blocks_written lead (first :: rest)
  cases hbody : longest ((first :: rest).map (·.1.body)) with
  | none => cases longest_eq_none_iff.1 hbody
  | some body =>
      refine ⟨body, isFirstLongest_of_longest hbody, ?_⟩
      rw [extractSource_of_blocks hmark (hblocks ▸ hbody), tidy_eq]

/-- A block with one line. -/
def oneLine : Block := ⟨[], [0x78, newline], by decide, by decide, .inr rfl⟩

/-- A block with a line and an empty one. -/
def twoLines : Block := ⟨[0x61], [0x79, 0x7A, newline, newline], by decide, by decide, .inr rfl⟩

/-- Of two blocks between grave accents the longer one is the file. -/
theorem extractSource_written_twoBlocks :
    extractSource (written [backtick]
      [(oneLine, ⟨[backtick, backtick], rfl⟩), (twoLines, ⟨[backtick], rfl⟩)]) =
        some [0x79, 0x7A, newline] := by
  obtain ⟨body, hfirst, hsource⟩ := extractSource_written ⟨[backtick], rfl⟩
    (oneLine, ⟨[backtick, backtick], rfl⟩) [(twoLines, ⟨[backtick], rfl⟩)] rfl
  have hlong := hfirst.length_le (u := twoLines.body) (by simp)
  rcases List.mem_cons.1 hfirst.mem with rfl | hmem
  · exact absurd hlong (by decide)
  · rw [List.mem_singleton.1 hmem] at hsource
    exact hsource

/-! ## What everything that comes out looks like -/

/-- An answer begins with a fence on a line with a further grave accent, so that this fence opens no
block; it holds no block elsewhere; but there is a fence behind its first line. -/
structure KeepsFence (t : Text) : Prop where
  begins : t.startsWith fence = true
  spoiled : backtick ∈ (t.takeWhile (· != newline)).drop 3
  blockless : ¬HoldsBlock t
  behind : fence <:+: behindFirstLine t

theorem contains_trim_newline (t : Text) : (t.trim (· == newline)).contains fence = t.contains fence := by
  have hnewlines {u : Text} (hu : u.all (· == newline) = true) : backtick ∉ u := fun hmem =>
    absurd (List.all_eq_true.1 hu backtick hmem) (by decide)
  obtain ⟨before, behind, ht, hbefore, hbehind⟩ := exists_eq_append_trim (· == newline) t
  conv_rhs => rw [ht]
  rw [List.append_assoc, contains_append_of_notMem_left (hnewlines hbefore),
    contains_append_of_notMem (hnewlines hbehind)]

theorem behindFirstLine_suffix (t : Text) : behindFirstLine t <:+ t :=
  (List.drop_suffix ..).trans (List.dropWhile_suffix _)

/-- If something stands behind the first line, the text is cut there. -/
theorem eq_firstLine_append (h : behindFirstLine t ≠ []) :
    t = t.takeWhile (· != newline) ++ newline :: behindFirstLine t := by
  have hcut := List.takeWhile_append_dropWhile (p := (· != newline)) (l := t)
  cases hrest : t.dropWhile (· != newline) with
  | nil => simp [behindFirstLine, hrest] at h
  | cons c rest =>
      have hc := List.head?_dropWhile_not (· != newline) t
      rw [hrest] at hc
      obtain rfl : c = newline := by simpa using hc
      conv_lhs => rw [← hcut, hrest]
      simp [behindFirstLine, hrest]

/-- What stands behind the first line of an answer without a block, which begins with a fence, holds
a fence just if a further grave accent on the first line keeps the first fence from opening a block. -/
theorem contains_behindFirstLine_iff (hbegins : t.startsWith fence = true) (hnone : blocks t = []) :
    (behindFirstLine t).contains fence = true ↔ KeepsFence t := by
  refine ⟨fun hfence => ⟨hbegins, ?_, blocks_eq_nil_iff.1 hnone, contains_iff.1 hfence⟩,
    fun h => contains_iff.2 h.behind⟩
  by_contra hplain
  obtain ⟨r, rfl⟩ := List.isPrefixOf_iff_prefix.1 hbegins
  have hline : (fence ++ r).takeWhile (· != newline) = fence ++ r.takeWhile (· != newline) := rfl
  have hbehind : behindFirstLine (fence ++ r) = behindFirstLine r := rfl
  have hinfo : IsInfo (r.takeWhile (· != newline)) := by
    intro c hc
    refine ⟨by simpa using List.mem_takeWhile_imp hc, ?_⟩
    rintro rfl
    exact hplain (by rw [hline]; exact hc)
  rw [hbehind] at hfence
  have hcut := eq_firstLine_append (t := r) fun hnil => by
    rw [hnil] at hfence
    cases hfence
  have hopen := behindOpening?_fenced hinfo (behindFirstLine r)
  rw [List.append_assoc, ← hcut] at hopen
  cases hclose : untilFence? (behindFirstLine r) with
  | none =>
      rw [untilFence?_eq_none_iff.1 hclose] at hfence
      cases hfence
  | some p =>
      rw [blocks_of_opening hopen hclose] at hnone
      cases hnone

/-- The body that is chosen stands in the answer. It holds a fence just if the answer keeps one. -/
theorem of_body? (h : body? t = some body) :
    body <:+: t ∧ (body.contains fence = true ↔ KeepsFence t) := by
  rw [body?] at h
  cases hlongest : longest (blocks t) with
  | some b =>
      rw [hlongest] at h
      cases h
      have hmem := (isFirstLongest_of_longest hlongest).mem
      obtain ⟨hpart, hnone⟩ := of_mem_blocks hmem
      refine ⟨hpart, by simp [hnone], fun hkeeps => ?_⟩
      rw [blocks_eq_nil_iff.2 hkeeps.blockless] at hmem
      cases hmem
  | none =>
      rw [hlongest] at h
      dsimp only at h
      split at h
      case isFalse _ => cases h
      case isTrue hbegins =>
        cases h
        exact ⟨(behindFirstLine_suffix t).isInfix,
          contains_behindFirstLine_iff hbegins (longest_eq_none_iff.1 hlongest)⟩

/-- Whatever comes out of an answer is a piece of the answer and one line feed. The piece is not blank,
and has no line feed at its ends. It holds no fence, unless the answer keeps one: this happens to those
answers only that hold no block, and begin with a fence that opens none. -/
theorem extractSource_shape (t source : Text) (h : extractSource t = some source) :
    ∃ piece, source = piece ++ [newline] ∧ piece <:+: t ∧ piece.all isBlank = false ∧
      piece.head? ≠ some newline ∧ piece.getLast? ≠ some newline ∧
      (fence <:+: piece ↔ KeepsFence t.strip) := by
  rw [extractSource] at h
  split at h
  case isTrue _ => cases h
  case isFalse _ =>
    obtain ⟨body, hbody, htidy⟩ := Option.bind_eq_some_iff.1 h
    obtain ⟨hpart, hfence⟩ := of_body? hbody
    rw [tidy_eq] at htidy
    split at htidy
    case isTrue _ => cases htidy
    case isFalse hblank =>
      cases htidy
      refine ⟨body.trim (· == newline), rfl, ?_, ?_, ?_, ?_, ?_⟩
      · exact (infix_trim _ body).trans (hpart.trans (infix_trim _ t))
      · rw [all_trim_newline, Bool.eq_false_iff]
        exact hblank
      · exact fun hhead => absurd (of_head?_trim hhead) (by simp)
      · exact fun hlast => absurd (of_getLast?_trim hlast) (by simp)
      · rw [← contains_iff, contains_trim_newline, hfence]

/-- A file that was cut off before its closing fence. -/
def cutOff : Text := fence ++ [newline, 0x78]

/-- A file in a block that does not open, for a grave accent stands behind its first fence. -/
def spoiled : Text := fence ++ [0x61, backtick, newline, 0x78, newline] ++ fence

/-- What comes out of the file that was cut off holds no fence, but the other one keeps its last
fence. -/
theorem extractSource_shape_spoiled :
    (∃ piece, extractSource cutOff = some (piece ++ [newline]) ∧ ¬fence <:+: piece) ∧
      ∃ piece, extractSource spoiled = some (piece ++ [newline]) ∧ fence <:+: piece := by
  constructor
  · have hsource : extractSource cutOff = some [0x78, newline] := by decide +kernel
    obtain ⟨piece, hpiece, -, -, -, -, hfence⟩ := extractSource_shape _ _ hsource
    refine ⟨piece, by rw [hsource, hpiece], ?_⟩
    rw [hfence]
    exact fun hkeeps => absurd hkeeps.spoiled (by decide)
  · have hsource : extractSource spoiled = some ([0x78, newline] ++ fence ++ [newline]) := by
      decide +kernel
    obtain ⟨piece, hpiece, -, -, -, -, hfence⟩ := extractSource_shape _ _ hsource
    refine ⟨piece, by rw [hsource, hpiece], hfence.2 ?_⟩
    exact ⟨rfl, by decide, blocks_eq_nil_iff.1 (by decide +kernel), contains_iff.1 rfl⟩

end Mend.Answer
