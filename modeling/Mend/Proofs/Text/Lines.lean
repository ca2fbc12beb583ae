import Mend.Text.Basic
import Mathlib.Data.List.Count

/-!
# The lines of a text

A text without carriage returns is cut at every line end: each end closes a line, and what stands behind
the last one is a line too unless it is empty. The line feed is one line end among others. So the number
of a line, and the number of all lines, exceed what the line feeds tell by the line ends of other kinds.

## Main definitions

* `Text.isOtherEnd` — the line ends besides the line feed.
* `Text.Lined` — a text and its lines.
* `Text.IsLineOf` — a line with what stands above it and below it.
* `Text.isUnfinished` — whether the last line of a text has no end.
* `Text.untold` — how many lines of a text its line feeds do not tell.

## Main statements

* `Text.lined_lines` — cutting a text into lines gives its lines.
* `Text.Lined.mem_zipIdx_iff` — the number of a line counts the line ends above it.
* `Text.length_lines` — the number of lines, by the line feeds and the rest.
-/

namespace Mend.Text

variable {t u line : Text} {c : Code} {lines : List Text}

/-! ## Line ends -/

/-- The line ends besides the line feed. -/
def isOtherEnd (c : Code) : Bool := isLineEnd c && c != newline

/-- Whether no line ends in a text. -/
def IsOneLine (t : Text) : Prop := ∀ c ∈ t, isLineEnd c = false

/-- A line end is a line feed or of another kind. -/
theorem countP_isLineEnd (t : Text) :
    t.countP isLineEnd = t.count newline + t.countP isOtherEnd := by
  have hfeed : isLineEnd newline = true := rfl
  induction t with
  | nil => rfl
  | cons c t ih =>
      rw [List.countP_cons, List.count_cons, List.countP_cons, ih]
      by_cases hc : c = newline
      · rw [hc, hfeed]
        simp [isOtherEnd]
        omega
      · simp [isOtherEnd, hc]
        omega

theorem IsOneLine.countP_eq_zero (h : IsOneLine t) : t.countP isLineEnd = 0 :=
  List.countP_eq_zero.2 fun c hc => by simp [h c hc]

theorem isOneLine_append : IsOneLine (t ++ u) ↔ IsOneLine t ∧ IsOneLine u := List.forall_mem_append

/-- A text that was read has no carriage returns. -/
theorem notMem_unixLines (t : Text) : 0x0D ∉ t.unixLines := by
  fun_induction unixLines t
  case case1 => exact List.not_mem_nil
  case case2 c =>
    by_cases hc : c = 0x0D
    · simp [hc]
    · simpa [hc] using Ne.symm hc
  case case3 ih => simpa using ih
  case case4 ih => simpa using ih
  case case5 c d rest hc ih =>
    have hne : c ≠ 0x0D := by simpa using hc
    exact List.not_mem_cons_of_ne_of_not_mem hne.symm ih

/-! ## Cutting at line ends -/

/-- A text and the lines that it consists of: each line end closes a line, and what stands behind the
last one is a line unless it is empty. -/
inductive Lined : Text → List Text → Prop
  | nil : Lined [] []
  | last {line : Text} (hne : line ≠ []) (hline : IsOneLine line) : Lined line [line]
  | cons {line rest : Text} {c : Code} {lines : List Text} (hline : IsOneLine line)
      (hc : isLineEnd c = true) (hrest : Lined rest lines) : Lined (line ++ c :: rest) (line :: lines)

theorem lined_go {current : Text} (hcurrent : IsOneLine current) (h : 0x0D ∉ t) :
    Lined (current.reverse ++ t) (Text.lines.go current t) := by
  have hreverse {current : Text} (h : IsOneLine current) : IsOneLine current.reverse :=
    fun c hc => h c (List.mem_reverse.1 hc)
  fun_induction Text.lines.go current t
  case case1 current hempty =>
    rw [List.isEmpty_iff.1 hempty]
    exact .nil
  case case2 current hsome =>
    rw [List.append_nil]
    exact .last (by simpa using hsome) (hreverse hcurrent)
  case case3 current c hc => exact .cons (hreverse hcurrent) hc .nil
  case case4 current c hc =>
    rw [List.reverse_cons]
    refine .last (by simp) (isOneLine_append.2 ⟨hreverse hcurrent, ?_⟩)
    exact List.forall_mem_singleton.2 (Bool.eq_false_iff.2 hc)
  case case5 current c d rest hreturn ih =>
    rw [Bool.and_eq_true, beq_iff_eq] at hreturn
    exact absurd (hreturn.1 ▸ List.mem_cons_self) h
  case case6 current c d rest _ hc ih =>
    rw [List.mem_cons, not_or] at h
    exact .cons (hreverse hcurrent) hc (ih (fun _ hnil => absurd hnil List.not_mem_nil) h.2)
  case case7 current c d rest _ hc ih =>
    rw [List.mem_cons, not_or] at h
    have hcons : IsOneLine (c :: current) :=
      List.forall_mem_cons.2 ⟨Bool.eq_false_iff.2 hc, hcurrent⟩
    have hlined := ih hcons h.2
    rwa [List.reverse_cons, List.append_assoc] at hlined

/-- A text without carriage returns is cut into its lines. -/
theorem lined_lines (h : 0x0D ∉ t) : Lined t t.lines :=
  lined_go (fun _ hnil => absurd hnil List.not_mem_nil) h

/-! ## Places and numbers of lines -/

/-- A text consists of a line and of what stands above it and below it. Behind the last line end of a
text there is a line only if there is something. -/
structure IsLineOf (t above line below : Text) : Prop where
  eq : t = above ++ line ++ below
  isOneLine : IsOneLine line
  endAbove : ∀ c ∈ above.getLast?, isLineEnd c = true
  endBelow : ∀ c ∈ below.head?, isLineEnd c = true
  isThere : line ≠ [] ∨ below ≠ []

theorem IsOneLine.eq_nil_of_getLast? (h : IsOneLine t)
    (hend : ∀ c ∈ t.getLast?, isLineEnd c = true) : t = [] := by
  rw [← List.getLast?_eq_none_iff, Option.eq_none_iff_forall_not_mem]
  intro c hc
  have hnone := h c (List.mem_of_getLast? hc)
  rw [hend c hc] at hnone
  cases hnone

theorem IsOneLine.eq_nil_of_head? (h : IsOneLine t) (hend : ∀ c ∈ t.head?, isLineEnd c = true) :
    t = [] := by
  rw [← List.head?_eq_none_iff, Option.eq_none_iff_forall_not_mem]
  intro c hc
  have hnone := h c (List.mem_of_head? hc)
  rw [hend c hc] at hnone
  cases hnone

/-- The first line of a text ends at the first line end. -/
theorem eq_of_append_eq {u rest below : Text} (hu : IsOneLine u) (hc : isLineEnd c = true)
    (hline : IsOneLine line) (hbelow : ∀ d ∈ below.head?, isLineEnd d = true)
    (h : u ++ c :: rest = line ++ below) : u = line := by
  rcases List.append_eq_append_iff.1 h with ⟨more, rfl, hmore⟩ | ⟨more, rfl, rfl⟩
  · have hnil : more = [] := by
      refine (isOneLine_append.1 hline).2.eq_nil_of_head? fun d hd => ?_
      cases more with
      | nil => cases hd
      | cons d' more =>
          obtain ⟨rfl, -⟩ := List.cons_eq_cons.1 hmore
          exact Option.some.inj hd ▸ hc
    rw [hnil, List.append_nil]
  · have hnil : more = [] := by
      refine (isOneLine_append.1 hu).2.eq_nil_of_head? fun d hd => hbelow d ?_
      rw [List.head?_append, hd, Option.some_or]
      rfl
    rw [hnil, List.append_nil]

/-- What stands above a line that is not the first one holds the first one and its end. -/
theorem exists_of_append_eq {u rest above behind : Text} (hu : IsOneLine u) (hne : above ≠ [])
    (habove : ∀ d ∈ above.getLast?, isLineEnd d = true) (h : u ++ c :: rest = above ++ behind) :
    ∃ above', above = u ++ c :: above' ∧ rest = above' ++ behind := by
  rcases List.append_eq_append_iff.1 h with ⟨more, rfl, hmore⟩ | ⟨more, rfl, -⟩
  · cases more with
    | nil =>
        rw [List.append_nil] at habove hne
        exact absurd (hu.eq_nil_of_getLast? habove) hne
    | cons d more =>
        obtain ⟨rfl, rfl⟩ := List.cons_eq_cons.1 hmore
        exact ⟨more, rfl, rfl⟩
  · exact absurd ((isOneLine_append.1 hu).1.eq_nil_of_getLast? habove) hne

/-- The lines of a text by their numbers, each of which counts the line ends above its line. -/
theorem Lined.mem_zipIdx_iff (h : Lined t lines) {first number : Nat} :
    (line, number) ∈ lines.zipIdx first ↔
      ∃ above below, IsLineOf t above line below ∧ number = first + above.countP isLineEnd := by
  induction h generalizing first with
  | nil =>
      constructor
      · exact fun hmem => absurd hmem List.not_mem_nil
      · rintro ⟨above, below, ⟨heq, -, -, -, hthere⟩, -⟩
        obtain ⟨hfront, rfl⟩ := List.append_eq_nil_iff.1 heq.symm
        obtain ⟨-, rfl⟩ := List.append_eq_nil_iff.1 hfront
        simp at hthere
  | @last line' hne hline =>
      rw [List.zipIdx_singleton, List.mem_singleton, Prod.mk.injEq]
      constructor
      · rintro ⟨rfl, rfl⟩
        exact ⟨[], [], ⟨(List.append_nil _).symm, hline, nofun, nofun, .inl hne⟩, rfl⟩
      · rintro ⟨above, below, ⟨rfl, hone, habove, hbelow, -⟩, rfl⟩
        obtain ⟨hfront, hback⟩ := isOneLine_append.1 hline
        rw [hback.eq_nil_of_head? hbelow, (isOneLine_append.1 hfront).1.eq_nil_of_getLast? habove]
        exact ⟨by simp, rfl⟩
  | @cons line' rest c lines hline hc hrest ih =>
      rw [List.zipIdx_cons, List.mem_cons, Prod.mk.injEq, ih]
      constructor
      · rintro (⟨rfl, rfl⟩ | ⟨above, below, ⟨rfl, hone, habove, hbelow, hthere⟩, rfl⟩)
        · exact ⟨[], c :: rest, ⟨by simp, hline, by simp, by simpa using hc, .inr (by simp)⟩, rfl⟩
        · refine ⟨line' ++ c :: above, below, ⟨by simp, hone, ?_, hbelow, hthere⟩, ?_⟩
          · cases above with
            | nil => simpa using hc
            | cons d above => simpa using habove
          · rw [List.countP_append, hline.countP_eq_zero, List.countP_cons, if_pos hc]
            omega
      · rintro ⟨above, below, ⟨heq, hone, habove, hbelow, hthere⟩, rfl⟩
        rw [List.append_assoc] at heq
        by_cases hempty : above = []
        · subst hempty
          exact .inl ⟨(eq_of_append_eq hline hc hone hbelow heq).symm, rfl⟩
        · obtain ⟨above', rfl, rfl⟩ := exists_of_append_eq hline hempty habove heq
          refine .inr ⟨above', below, ⟨(List.append_assoc ..).symm, hone, ?_, hbelow, hthere⟩, ?_⟩
          · cases above' with
            | nil => exact nofun
            | cons d above' => simpa using habove
          · rw [List.countP_append, hline.countP_eq_zero, List.countP_cons, if_pos hc]
            omega

/-- Whether the last line of a text has no end. -/
def isUnfinished (t : Text) : Bool := t.getLast?.any fun c => !isLineEnd c

/-- The number of lines counts the line ends, and the last line if it has none. -/
theorem Lined.length_eq (h : Lined t lines) :
    lines.length = t.countP isLineEnd + t.isUnfinished.toNat := by
  induction h with
  | nil => rfl
  | @last line hne hline =>
      have hlast : isLineEnd (line.getLast hne) = false := hline _ (List.getLast_mem hne)
      rw [hline.countP_eq_zero, isUnfinished, List.getLast?_eq_some_getLast hne]
      simp [hlast]
  | @cons line rest c lines hline hc hrest ih =>
      have hunfinished : isUnfinished (line ++ c :: rest) = isUnfinished rest := by
        cases rest with
        | nil => simp [isUnfinished, hc]
        | cons d rest =>
            rw [isUnfinished, List.getLast?_append, List.getLast?_cons_cons,
              List.getLast?_eq_some_getLast (List.cons_ne_nil d rest), Option.some_or]
            rfl
      rw [List.length_cons, ih, hunfinished, List.countP_append, hline.countP_eq_zero,
        List.countP_cons, if_pos hc]
      omega

/-- The lines of a text that its line feeds do not tell: those that end in another way or not at all. -/
def untold (t : Text) : Nat := t.countP isOtherEnd + t.isUnfinished.toNat

/-- There are as many lines as line feeds, and besides them the lines that end in another way. -/
theorem length_lines (h : 0x0D ∉ t) : t.lines.length = t.count newline + t.untold := by
  rw [(lined_lines h).length_eq, countP_isLineEnd, untold, Nat.add_assoc]

end Mend.Text
