import Mend.Drafting.Answer
import Mend.Proofs.Text.Trim

/-!
# The blocks of an answer

Reading an answer from its left end finds a block wherever there is one, and passes over everything
else. Between blocks there may be any talk without a fence: grave accents right before an opening
fence do not hide it, and those right behind a closing one are talk again. What stands before the
first grave accent of an answer and behind its last one makes no difference.

## Main definitions

* `Answer.IsInfo` — what may stand behind an opening fence.
* `Answer.HoldsBlock` — whether a block stands somewhere in a text.
* `Answer.Block`, `Answer.Talk`, `Answer.written` — answers that consist of blocks and talk.

## Main statements

* `Answer.blocks_eq_nil_iff` — a block is found just if there is one.
* `Answer.blocks_written` — the blocks of an answer that consists of blocks and talk.
-/

namespace Mend.Answer

open Text

variable {t u rest inside info body behind : Text}

/-! ## Fences in a text -/

theorem contains_cons {c : Code} :
    Text.contains (c :: t) fence = (fence.isPrefixOf (c :: t) || Text.contains t fence) := rfl

theorem contains_iff : t.contains u = true ↔ u <:+: t := by
  induction t with
  | nil => cases u <;> simp [Text.contains]
  | cons c t ih =>
      rw [Text.contains, Bool.or_eq_true, ih, List.isPrefixOf_iff_prefix, List.infix_cons_iff]

/-- A fence stands at the beginning of a text or it does not, whatever follows that is not a grave
accent. -/
theorem isPrefixOf_append_of_head (h : u.head? ≠ some backtick) (t : Text) :
    fence.isPrefixOf (t ++ u) = fence.isPrefixOf t := by
  have hhead : ∀ d v, u = d :: v → (backtick == d) = false := by
    rintro d v rfl
    exact beq_false_of_ne fun hd => h (hd ▸ rfl)
  cases hu : u with
  | nil => rw [List.append_nil]
  | cons d v =>
      have hd := hhead d v hu
      match t with
      | [] => simp [fence, List.isPrefixOf, hd]
      | [a] => simp [fence, List.isPrefixOf, hd]
      | [a, b] => simp [fence, List.isPrefixOf, hd]
      | a :: b :: c :: t => simp [fence, List.isPrefixOf]

theorem contains_of_notMem (h : backtick ∉ t) : t.contains fence = false := by
  rw [Bool.eq_false_iff]
  intro hfence
  exact h ((contains_iff.1 hfence).subset (by simp [fence]))

theorem contains_append_of_notMem (h : backtick ∉ u) (t : Text) :
    (t ++ u).contains fence = t.contains fence := by
  have hhead : u.head? ≠ some backtick := fun hu => h (List.mem_of_head? hu)
  induction t with
  | nil => exact contains_of_notMem h
  | cons c t ih =>
      have hstart := isPrefixOf_append_of_head hhead (c :: t)
      rw [List.cons_append] at hstart ⊢
      rw [contains_cons, contains_cons, hstart, ih]

theorem contains_append_of_notMem_left (h : backtick ∉ t) (u : Text) :
    (t ++ u).contains fence = u.contains fence := by
  induction t with
  | nil => rfl
  | cons c t ih =>
      rw [List.mem_cons, not_or] at h
      rw [List.cons_append, contains_cons, ih h.2]
      simp [fence, List.isPrefixOf, h.1]

/-! ## Opening and closing -/

/-- Whether a text can stand behind an opening fence: it stays on the line and holds no grave
accent. -/
def IsInfo (t : Text) : Prop := ∀ c ∈ t, c ≠ newline ∧ c ≠ backtick

instance : DecidablePred IsInfo := fun t =>
  inferInstanceAs (Decidable (∀ c ∈ t, c ≠ newline ∧ c ≠ backtick))

theorem behindOpening?_fenced (h : IsInfo info) (rest : Text) :
    behindOpening? (fence ++ info ++ newline :: rest) = some rest := by
  have hstart : fence.isPrefixOf (fence ++ info ++ newline :: rest) = true := rfl
  have hdrop : (fence ++ info ++ newline :: rest).drop 3 = info ++ newline :: rest := rfl
  have hinfo : ∀ c ∈ info, (c != newline && c != backtick) = true := by
    intro c hc
    simpa using h c hc
  rw [behindOpening?, if_pos hstart, hdrop, List.dropWhile_append_of_pos hinfo]
  simp

theorem behindOpening?_eq_some_iff :
    behindOpening? t = some rest ↔ ∃ info, IsInfo info ∧ t = fence ++ info ++ newline :: rest := by
  constructor
  · intro h
    rw [behindOpening?] at h
    split at h
    case isFalse _ => cases h
    case isTrue hfence =>
      obtain ⟨r, rfl⟩ := List.isPrefixOf_iff_prefix.1 hfence
      have hdrop : (fence ++ r).drop 3 = r := rfl
      rw [hdrop] at h
      refine ⟨r.takeWhile fun c => c != newline && c != backtick, fun c hc => ?_, ?_⟩
      · simpa using List.mem_takeWhile_imp hc
      · split at h
        · rename_i c r' hr
          split at h
          · rename_i hc
            cases h
            obtain rfl := beq_iff_eq.1 hc
            rw [List.append_assoc, ← hr, List.takeWhile_append_dropWhile]
          · cases h
        · cases h
  · rintro ⟨info, hinfo, rfl⟩
    exact behindOpening?_fenced hinfo rest

/-- The first fence of a text ends what holds none. -/
theorem of_untilFence? (h : untilFence? t = some (body, behind)) :
    t = body ++ (fence ++ behind) ∧ body.contains fence = false := by
  induction t generalizing body with
  | nil => cases h
  | cons c t ih =>
      rw [untilFence?] at h
      split at h
      case isTrue hfence =>
        cases h
        obtain ⟨r, hr⟩ := List.isPrefixOf_iff_prefix.1 hfence
        rw [← hr]
        exact ⟨rfl, rfl⟩
      case isFalse hfence =>
        obtain ⟨⟨b, r⟩, hb, he⟩ := Option.map_eq_some_iff.1 h
        cases he
        obtain ⟨rfl, hnone⟩ := ih hb
        refine ⟨rfl, ?_⟩
        rw [contains_cons, hnone, Bool.or_false, Bool.eq_false_iff]
        intro hstart
        have hlonger := (List.isPrefixOf_iff_prefix.1 hstart).trans
          (List.prefix_append (c :: b) (fence ++ behind))
        exact hfence (List.isPrefixOf_iff_prefix.2 hlonger)

theorem untilFence?_eq_none_iff : untilFence? t = none ↔ t.contains fence = false := by
  induction t with
  | nil => simp [untilFence?, Text.contains, fence]
  | cons c t ih =>
      rw [untilFence?, contains_cons, Bool.or_eq_false_iff]
      split
      case isTrue hfence => simp [hfence]
      case isFalse hfence => simp [hfence, ih]

/-- The first fence behind a text that holds none and ends with its line is the one that follows. -/
theorem untilFence?_append (hfence : t.contains fence = false)
    (hended : t = [] ∨ t.getLast? = some newline) (rest : Text) :
    untilFence? (t ++ (fence ++ rest)) = some (t, rest) := by
  induction t with
  | nil => rfl
  | cons c t ih =>
      have hlast := hended.resolve_left (by simp)
      have hstart : fence.isPrefixOf (c :: t ++ (fence ++ rest)) = false := by
        obtain ⟨u, hu⟩ := List.getLast?_eq_some_iff.1 hlast
        have hline : ∀ v, (newline :: v).head? ≠ some backtick := fun v => by simp [newline, backtick]
        rw [contains_cons, Bool.or_eq_false_iff, hu, isPrefixOf_append_of_head (hline _)] at hfence
        rw [hu, List.append_assoc]
        exact (isPrefixOf_append_of_head (hline _) u).trans hfence.1
      have hrest : t = [] ∨ t.getLast? = some newline := by
        cases t with
        | nil => exact .inl rfl
        | cons d t => exact .inr (by rwa [List.getLast?_cons_cons] at hlast)
      rw [contains_cons, Bool.or_eq_false_iff] at hfence
      rw [List.cons_append] at hstart ⊢
      rw [untilFence?, hstart, if_neg Bool.false_ne_true, ih hfence.2 hrest, Option.map_some]

/-! ## Finding blocks -/

theorem blocks_of_opening (hopen : behindOpening? t = some inside)
    (hclose : untilFence? inside = some (body, behind)) : blocks t = body :: blocks behind := by
  cases t with
  | nil => cases hopen
  | cons c rest =>
      rw [blocks.eq_def]
      simp only
      split
      · simp_all
      · rename_i inside' hinside
        obtain rfl : inside = inside' := Option.some.inj (hopen.symm.trans hinside)
        split
        · simp_all
        · rename_i hclose'
          cases hclose.symm.trans hclose'
          rfl

theorem blocks_of_none {c : Code} (h : behindOpening? (c :: t) = none) : blocks (c :: t) = blocks t := by
  rw [blocks.eq_def]
  simp only
  split
  · rfl
  · simp_all

theorem blocks_of_unclosed {c : Code} (hopen : behindOpening? (c :: t) = some inside)
    (hclose : untilFence? inside = none) : blocks (c :: t) = blocks t := by
  rw [blocks.eq_def]
  simp only
  split
  · rfl
  · rename_i inside' hinside
    obtain rfl : inside = inside' := Option.some.inj (hopen.symm.trans hinside)
    split
    · rfl
    · simp_all

theorem fenced_append (info body behind : Text) :
    fenced info body ++ behind = fence ++ info ++ newline :: (body ++ (fence ++ behind)) := by
  simp [fenced, cat]

theorem fenced_prefix_of_opening (hopen : behindOpening? t = some inside)
    (hclose : untilFence? inside = some (body, behind)) :
    ∃ info, IsInfo info ∧ t = fenced info body ++ behind := by
  obtain ⟨info, hinfo, rfl⟩ := behindOpening?_eq_some_iff.1 hopen
  obtain ⟨rfl, -⟩ := of_untilFence? hclose
  exact ⟨info, hinfo, (fenced_append ..).symm⟩

/-- What is read as the body of a block stands in the text and holds no fence. -/
theorem of_mem_blocks {b : Text} (h : b ∈ blocks t) : b <:+: t ∧ b.contains fence = false := by
  fun_induction blocks t with
  | case1 => cases h
  | case2 c rest _ ih => exact ⟨(ih h).1.trans (List.suffix_cons c rest).isInfix, (ih h).2⟩
  | case3 c rest _ _ _ ih => exact ⟨(ih h).1.trans (List.suffix_cons c rest).isInfix, (ih h).2⟩
  | case4 c rest inside hopen body behind hclose ih =>
      obtain ⟨info, -, ht⟩ := fenced_prefix_of_opening hopen hclose
      rw [ht, fenced_append]
      rcases List.mem_cons.1 h with rfl | hmem
      · refine ⟨⟨fence ++ info ++ [newline], fence ++ behind, ?_⟩, (of_untilFence? hclose).2⟩
        simp
      · refine ⟨(ih hmem).1.trans ⟨fence ++ info ++ newline :: (body ++ fence), [], ?_⟩, (ih hmem).2⟩
        simp

/-- Whether a block stands somewhere in a text. -/
def HoldsBlock (t : Text) : Prop := ∃ info body, IsInfo info ∧ fenced info body <:+: t

theorem HoldsBlock.cons (h : HoldsBlock t) (c : Code) : HoldsBlock (c :: t) := by
  obtain ⟨info, body, hinfo, hblock⟩ := h
  exact ⟨info, body, hinfo, hblock.trans (List.suffix_cons c t).isInfix⟩

/-- A text with a block begins with one, or there is one behind the first character. -/
theorem HoldsBlock.cons_cases {c : Code} (h : HoldsBlock (c :: t)) :
    HoldsBlock t ∨
      ∃ body behind, behindOpening? (c :: t) = some (body ++ (fence ++ behind)) := by
  obtain ⟨info, body, hinfo, hblock⟩ := h
  rcases List.infix_cons_iff.1 hblock with ⟨behind, hprefix⟩ | hlater
  · rw [fenced_append] at hprefix
    exact .inr ⟨body, behind, behindOpening?_eq_some_iff.2 ⟨info, hinfo, hprefix.symm⟩⟩
  · exact .inl ⟨info, body, hinfo, hlater⟩

/-- Nothing is found just if there is no block. -/
theorem blocks_eq_nil_iff : blocks t = [] ↔ ¬HoldsBlock t := by
  fun_induction blocks t with
  | case1 =>
      simp [HoldsBlock, fenced, cat, fence]
  | case2 c rest hopen ih =>
      refine ih.trans (not_congr ⟨(·.cons c), fun h => h.cons_cases.resolve_right ?_⟩)
      rintro ⟨body, behind, hsome⟩
      cases hopen.symm.trans hsome
  | case3 c rest inside hopen hclose ih =>
      refine ih.trans (not_congr ⟨(·.cons c), fun h => h.cons_cases.resolve_right ?_⟩)
      rintro ⟨body, behind, hsome⟩
      obtain rfl := Option.some.inj (hopen.symm.trans hsome)
      have hfence : (body ++ (fence ++ behind)).contains fence = true :=
        contains_iff.2 ⟨body, behind, List.append_assoc ..⟩
      rw [untilFence?_eq_none_iff.1 hclose] at hfence
      cases hfence
  | case4 c rest inside hopen body behind hclose ih =>
      obtain ⟨info, hinfo, ht⟩ := fenced_prefix_of_opening hopen hclose
      have hholds : HoldsBlock (c :: rest) := ⟨info, body, hinfo, [], behind, ht.symm⟩
      simp [hholds]

/-! ## What makes no difference -/

theorem blocks_eq_nil_of_unfenced (h : t.contains fence = false) : blocks t = [] := by
  rw [blocks_eq_nil_iff]
  rintro ⟨info, body, -, hblock⟩
  have hfence : fence <:+: fenced info body := ⟨[], info ++ newline :: (body ++ fence), by simp [fenced, cat]⟩
  rw [contains_iff.2 (hfence.trans hblock)] at h
  cases h

/-- Text without grave accents before an answer makes no difference. -/
theorem blocks_append_of_notMem_left (h : backtick ∉ t) (u : Text) : blocks (t ++ u) = blocks u := by
  induction t with
  | nil => rfl
  | cons c t ih =>
      rw [List.mem_cons, not_or] at h
      have hopen : behindOpening? (c :: (t ++ u)) = none := by
        simp [behindOpening?, fence, List.isPrefixOf, h.1]
      rw [List.cons_append, blocks_of_none hopen, ih h.2]

theorem untilFence?_append_of_notMem (h : backtick ∉ u) (t : Text) :
    untilFence? (t ++ u) = (untilFence? t).map fun (body, behind) => (body, behind ++ u) := by
  have hhead : u.head? ≠ some backtick := fun hu => h (List.mem_of_head? hu)
  induction t with
  | nil => exact untilFence?_eq_none_iff.2 (contains_of_notMem h)
  | cons c t ih =>
      have hstart := isPrefixOf_append_of_head hhead (c :: t)
      rw [List.cons_append] at hstart ⊢
      rw [untilFence?, untilFence?, hstart]
      split
      case isTrue hfence =>
        obtain ⟨r, hr⟩ := List.isPrefixOf_iff_prefix.1 hfence
        rw [← List.cons_append, ← hr]
        rfl
      case isFalse _ =>
        rw [ih, Option.map_map, Option.map_map]
        rfl

theorem behindOpening?_append (h : behindOpening? t = some inside) (u : Text) :
    behindOpening? (t ++ u) = some (inside ++ u) := by
  obtain ⟨info, hinfo, rfl⟩ := behindOpening?_eq_some_iff.1 h
  exact behindOpening?_eq_some_iff.2 ⟨info, hinfo, by simp⟩

/-- If a block opens with the help of text without grave accents, it cannot be closed in that text. -/
theorem notMem_of_behindOpening?_append (hnone : behindOpening? t = none) (h : backtick ∉ u)
    (hopen : behindOpening? (t ++ u) = some inside) : backtick ∉ inside := by
  obtain ⟨info, hinfo, heq⟩ := behindOpening?_eq_some_iff.1 hopen
  rcases List.append_eq_append_iff.1 heq with ⟨a, -, rfl⟩ | ⟨a, rfl, hinside⟩
  · exact fun hmem => h (List.mem_append_right a (List.mem_cons_of_mem newline hmem))
  · cases a with
    | nil =>
        rw [List.nil_append] at hinside
        rw [← hinside] at h
        exact fun hmem => h (List.mem_cons_of_mem newline hmem)
    | cons d a =>
        obtain ⟨rfl, -⟩ := List.cons.inj hinside
        cases hnone.symm.trans (behindOpening?_fenced hinfo a)

/-- Text without grave accents behind an answer makes no difference. -/
theorem blocks_append_of_notMem (h : backtick ∉ u) (t : Text) : blocks (t ++ u) = blocks t := by
  fun_induction blocks t with
  | case1 => exact blocks_eq_nil_of_unfenced (contains_of_notMem h)
  | case2 c rest hopen ih =>
      rw [← ih]
      cases hopen' : behindOpening? (c :: (rest ++ u)) with
      | none => exact blocks_of_none hopen'
      | some inside =>
          have hinside := notMem_of_behindOpening?_append hopen h hopen'
          exact blocks_of_unclosed hopen' (untilFence?_eq_none_iff.2 (contains_of_notMem hinside))
  | case3 c rest inside hopen hclose ih =>
      rw [← ih]
      refine blocks_of_unclosed (behindOpening?_append hopen u) ?_
      rw [untilFence?_append_of_notMem h, hclose, Option.map_none]
  | case4 c rest inside hopen body behind hclose ih =>
      rw [← ih]
      refine blocks_of_opening (behindOpening?_append hopen u) ?_
      rw [untilFence?_append_of_notMem h, hclose, Option.map_some]

/-- White space around an answer makes no difference. -/
theorem blocks_strip (t : Text) : blocks t.strip = blocks t := by
  have hblank {u : Text} (hu : u.all isBlank = true) : backtick ∉ u := fun hmem =>
    absurd (List.all_eq_true.1 hu backtick hmem) (by decide)
  obtain ⟨before, behind, ht, hbefore, hbehind⟩ := exists_eq_append_trim isBlank t
  conv_rhs => rw [ht]
  rw [List.append_assoc, blocks_append_of_notMem_left (hblank hbefore),
    blocks_append_of_notMem (hblank hbehind)]
  rfl

/-! ## Answers that consist of blocks and talk -/

/-- A block that is written as it should be: its body holds no fence and ends with its last line. -/
structure Block where
  info : Text
  body : Text
  isInfo : IsInfo info
  unfenced : body.contains fence = false
  ended : body = [] ∨ body.getLast? = some newline

/-- Text without a fence. -/
structure Talk where
  text : Text
  unfenced : text.contains fence = false

/-- An answer that begins with some text, and goes on with blocks and the talk behind each of them. -/
def written (lead : Text) : List (Block × Talk) → Text
  | [] => lead
  | (block, talk) :: rest => lead ++ (fenced block.info block.body ++ written talk.text rest)

/-- No block opens at a place where no fence begins before the next one: of four or five grave accents
in a row, the first or the first two open nothing. -/
theorem behindOpening?_append_fence {c : Code} (h : fence.isPrefixOf (c :: t) = false) (rest : Text) :
    behindOpening? (c :: (t ++ (fence ++ rest))) = none := by
  have hne : backtick ≠ newline := by decide
  match t with
  | [] => simp [behindOpening?, fence, hne]
  | [d] => simp [behindOpening?, fence, hne]
  | d :: e :: t =>
      have hstart : fence.isPrefixOf (c :: d :: e :: (t ++ (fence ++ rest))) = false := by
        simpa [fence, List.isPrefixOf] using h
      simp [behindOpening?, hstart]

/-- Talk before a fence hides nothing. -/
theorem blocks_append_fence (h : t.contains fence = false) (rest : Text) :
    blocks (t ++ (fence ++ rest)) = blocks (fence ++ rest) := by
  induction t with
  | nil => rfl
  | cons c t ih =>
      rw [contains_cons, Bool.or_eq_false_iff] at h
      rw [List.cons_append, blocks_of_none (behindOpening?_append_fence h.1 rest), ih h.2]

/-- What is found in an answer that consists of blocks and talk: the bodies of the blocks. -/
theorem blocks_written (lead : Talk) (parts : List (Block × Talk)) :
    blocks (written lead.text parts) = parts.map (·.1.body) := by
  induction parts generalizing lead with
  | nil => exact blocks_eq_nil_of_unfenced lead.unfenced
  | cons part rest ih =>
      obtain ⟨block, talk⟩ := part
      have hopen := behindOpening?_fenced block.isInfo
        (block.body ++ (fence ++ written talk.text rest))
      have hclose := untilFence?_append block.unfenced block.ended (written talk.text rest)
      rw [written, fenced_append, List.append_assoc fence, blocks_append_fence lead.unfenced,
        ← List.append_assoc fence, blocks_of_opening hopen hclose, ih talk, List.map_cons]

end Mend.Answer
