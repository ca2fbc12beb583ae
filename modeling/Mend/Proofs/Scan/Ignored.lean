import Mend.Proofs.Scan.Findings
import Mend.Proofs.Scan.Numbering

/-!
# Findings that are left out

A finding of a model that makes no issue is left out of a scan. What the other findings say comes out
as it does without it, but not always their keys: a key is taken as soon as the first line of a finding
is read, and what is wrong with a finding may show only behind that. Such a key is lost, and the findings
behind it on the same line are numbered as if the one that is left out were there.

## Main definitions

* `Scan.isUsable` — findings that make an issue.
* `Scan.firstLine?` — the line for which a finding takes a key.
* `Scan.Displaces` — a finding that is left out, and another one that gets another key for it.

## Main statements

* `Scan.deepScan_ignored` — what the findings that are left out leave behind.
-/

namespace Mend

/-- An issue under another key. -/
def Issue.withKey (i : Issue) (key : Value) : Issue := { i with key := key }

namespace Scan

open KeyFactory

variable {σ : Type} {path text : Text} {keys keys₁ : KeyFactory} {v : Value} {vs : List Value}

/-- The line for which a finding takes a key, if it can be read. -/
def firstLine? (v : Value) : Option Int := (firstLine v).toOption

/-- Whether a finding makes an issue. -/
def isUsable (v : Value) : Bool := (takeFinding [] [] v).1.isOk

/-- A finding is left out, and another one, which makes an issue, is about the same line. -/
def Displaces (u v : Value) : Prop :=
  isUsable u = false ∧ isUsable v = true ∧ firstLine? u = firstLine? v

/-! ## One finding -/

theorem Reports.withKey {i : Issue} (h : Reports path v i) (key : Value) :
    Reports path v (i.withKey key) :=
  ⟨h.object, h.rule, h.category, h.severity, h.message, h.filePath, h.lineStart, h.lineEnd, h.effort,
    h.tags, h.component⟩

/-- The key of a finding is not looked at. -/
theorem findingIssue_eq (path key : Text) (line : Int) (v : Value) :
    findingIssue path key line v = (findingIssue path [] line v).map (·.withKey (.text key)) := by
  have hmake (d : Issue.Draft) :
      Issue.make { d with key := .text key } = (Issue.make d).map (·.withKey (.text key)) := by
    simp only [Issue.make]
    split
    case isTrue _ => rfl
    case isFalse _ => split <;> rfl
  have hbind {α : Type} (x : Except Fault α) {f g : α → Except Fault Issue}
      (h : ∀ a, f a = (g a).map (·.withKey (.text key))) :
      (x >>= f) = (x >>= g).map (·.withKey (.text key)) := by
    cases x with
    | error e => rfl
    | ok a => exact h a
  unfold findingIssue
  exact hbind _ fun _ => hbind _ fun _ => hbind _ fun _ => hbind _ fun _ => hbind _ fun _ =>
    hbind _ fun _ => hbind _ fun _ => hbind _ fun _ => by rw [← hmake]

/-- What becomes of a finding: it makes an issue, or there is none that it could make. -/
theorem takeFinding_cases (path : Text) (keys : KeyFactory) (v : Value) :
    (∃ i, (takeFinding path keys v).1 = .ok i ∧ Reports path v i) ∨
      (∃ e, (takeFinding path keys v).1 = .error e) ∧ ∀ i, ¬Reports path v i := by
  have htaken := taken_takeFinding path keys v
  generalize (takeFinding path keys v).1 = r at htaken ⊢
  cases htaken with
  | made h => exact .inl ⟨_, rfl, h⟩
  | malformed _ hnone _ => exact .inr ⟨⟨_, rfl⟩, hnone⟩
  | broken _ hbreaks => exact .inr ⟨⟨_, rfl⟩, fun _ hi => hi.not_breaks hbreaks⟩

theorem isUsable_iff (path : Text) : isUsable v = true ↔ ∃ i, Reports path v i := by
  have hpath {path path' : Text} : (∃ i, Reports path v i) → ∃ i, Reports path' v i := by
    rintro ⟨i, h⟩
    exact ⟨{ i with filePath := .text path' }, h.object, h.rule, h.category, h.severity, h.message,
      rfl, h.lineStart, h.lineEnd, h.effort, h.tags, h.component⟩
  rw [isUsable]
  obtain ⟨i, hmade, hi⟩ | ⟨⟨e, hnone⟩, hi⟩ := takeFinding_cases [] [] v
  · rw [hmade]
    exact ⟨fun _ => hpath ⟨i, hi⟩, fun _ => rfl⟩
  · rw [hnone]
    exact ⟨(fun h => nomatch h), fun h => absurd (hpath h) (not_exists.2 hi)⟩

theorem takeFinding_eq (path : Text) (keys : KeyFactory) (v : Value) :
    (firstLine? v = none ∧ ∃ e, takeFinding path keys v = (.error e, keys)) ∨
      ∃ n, firstLine? v = some n ∧ takeFinding path keys v =
        ((findingIssue path [] n v).map (·.withKey (.text (keys.next path n).1)),
          (keys.next path n).2) := by
  rw [takeFinding, firstLine?]
  cases firstLine v with
  | error e => exact .inl ⟨rfl, e, rfl⟩
  | ok n => exact .inr ⟨n, rfl, by rw [← findingIssue_eq]⟩

theorem takeFinding_of_firstLine {n : Int} (h : firstLine v = .ok n) (path : Text)
    (keys : KeyFactory) : takeFinding path keys v =
      (findingIssue path (keys.next path n).1 n v, (keys.next path n).2) := by
  rw [takeFinding, h]

/-- A finding takes a key if its first line can be read, and no other one. -/
theorem count_takeFinding (path : Text) (keys : KeyFactory) (v : Value) (n : Int) :
    (takeFinding path keys v).2.count (placeText path n) =
      keys.count (placeText path n) + if firstLine? v = some n then 1 else 0 := by
  obtain ⟨hline, e, htake⟩ | ⟨m, hline, htake⟩ := takeFinding_eq path keys v
  · rw [htake, hline, if_neg nofun]
    rfl
  · rw [htake, hline, count_next]
    by_cases h : n = m
    · rw [h, if_pos rfl, if_pos rfl]
    · have hplace : placeText path n ≠ placeText path m := fun heq => h (placeText_injective heq).2
      have hother : some m ≠ some n := fun heq => h (Option.some.inj heq).symm
      rw [if_neg hplace, if_neg hother, Nat.add_zero]

/-- The key of an issue on a line, of which so many have been counted before. -/
def keyOn (path : Text) (line : Int) (count : Nat) : Value :=
  .text (keyText (placeText path line) (count + 1))

theorem keyOn_inj {line : Int} {m n : Nat} : keyOn path line m = keyOn path line n ↔ m = n := by
  refine ⟨fun h => ?_, fun h => h ▸ rfl⟩
  have hnumber := (keyText_injective (Value.text.inj h)).2
  exact Nat.succ.inj hnumber

theorem firstLine?_of_reports {i : Issue} (h : Reports path v i) :
    firstLine? v = some (i.lineStart : Int) := by
  rw [firstLine?, firstLine_of_startsAt h.object h.lineStart]
  rfl

theorem exists_firstLine? (h : isUsable v = true) : ∃ n, firstLine? v = some n := by
  obtain ⟨i, hi⟩ := (isUsable_iff []).1 h
  exact ⟨_, firstLine?_of_reports hi⟩

/-- A finding that makes an issue makes the same one whatever keys are left, but for its key. -/
theorem takeFinding_of_isUsable (path : Text) (h : isUsable v = true) :
    ∃ i, Reports path v i ∧ ∀ keys, (takeFinding path keys v).1 =
      .ok (i.withKey (keyOn path i.lineStart (keys.count (placeText path i.lineStart)))) := by
  have hmade := (takeFinding_cases path [] v).resolve_right fun hnone =>
    not_exists.2 hnone.2 ((isUsable_iff path).1 h)
  obtain ⟨i, hi, hreports⟩ := hmade
  have hline := firstLine?_of_reports hreports
  refine ⟨i, hreports, fun keys => ?_⟩
  obtain ⟨hnone, -⟩ | ⟨n, hn, htake⟩ := takeFinding_eq path keys v
  · cases hline.symm.trans hnone
  · obtain ⟨hnone, -⟩ | ⟨m, hm, htake'⟩ := takeFinding_eq path [] v
    · cases hline.symm.trans hnone
    · obtain rfl := Option.some.inj (hline.symm.trans hn)
      obtain rfl := Option.some.inj (hline.symm.trans hm)
      rw [htake'] at hi
      rw [htake]
      cases hissue : findingIssue path [] (i.lineStart : Int) v with
      | error e => rw [hissue] at hi; cases hi
      | ok j =>
          rw [hissue] at hi
          have hsame (key : Value) : j.withKey key = i.withKey key :=
            congrArg (·.withKey key) (Except.ok.inj hi)
          exact congrArg Except.ok (hsame _)

theorem takeFinding_of_not_isUsable (path : Text) (keys : KeyFactory) (h : isUsable v = false) :
    ∃ e, (takeFinding path keys v).1 = .error e := by
  have hnone := (takeFinding_cases path keys v).resolve_left fun ⟨i, _, hi⟩ => by
    rw [(isUsable_iff path).2 ⟨i, hi⟩] at h
    cases h
  exact hnone.1

/-! ## Several findings -/

/-- The issues of some findings; those that make none are left out. -/
def issuesOf (path : Text) : KeyFactory → List Value → List Issue
  | _, [] => []
  | keys, v :: rest =>
    (takeFinding path keys v).1.toOption.toList ++ issuesOf path (takeFinding path keys v).2 rest

theorem issuesOf_of_isUsable (path : Text) (h : isUsable v = true) :
    ∃ i, Reports path v i ∧ ∀ keys rest, issuesOf path keys (v :: rest) =
      i.withKey (keyOn path i.lineStart (keys.count (placeText path i.lineStart))) ::
        issuesOf path (takeFinding path keys v).2 rest := by
  obtain ⟨i, hi, htake⟩ := takeFinding_of_isUsable path h
  refine ⟨i, hi, fun keys rest => ?_⟩
  rw [issuesOf, htake]
  rfl

theorem issuesOf_of_not_isUsable (path : Text) (keys : KeyFactory) (h : isUsable v = false)
    (rest : List Value) :
    issuesOf path keys (v :: rest) = issuesOf path (takeFinding path keys v).2 rest := by
  obtain ⟨e, htake⟩ := takeFinding_of_not_isUsable path keys h
  rw [issuesOf, htake]
  rfl

/-- The findings for a file make these issues, if the scan does not break off. -/
theorem eq_issuesOf {w w' : World σ} {issues : List Issue}
    (h : (takeFindings path keys vs).run w = (.ok (issues, keys₁), w')) :
    issues = issuesOf path keys vs := by
  induction vs generalizing keys issues w with
  | nil =>
      cases h
      rfl
  | cons v rest ih =>
      rw [takeFindings] at h
      rw [issuesOf]
      rcases hfinding : takeFinding path keys v with ⟨e | i, keys₂⟩
      · rw [hfinding] at h
        dsimp only at h ⊢
        split at h
        · rw [Act.run_bind_ok (World.run_say ..)] at h
          exact ih h
        · cases h
      · rw [hfinding] at h
        dsimp only at h ⊢
        rcases hrun : (takeFindings path keys₂ rest).run w with ⟨e | ⟨others, keys₃⟩, w₂⟩
        · rw [Act.run_bind_error hrun] at h
          cases h
        · rw [Act.run_bind_ok hrun] at h
          cases h
          exact congrArg (i :: ·) (ih hrun)

/-- But for their keys, the issues are those of the usable findings. -/
theorem map_withKey_issuesOf (path : Text) (keys keys₁ : KeyFactory) (key : Value) (vs : List Value) :
    (issuesOf path keys vs).map (·.withKey key) =
      (issuesOf path keys₁ (vs.filter isUsable)).map (·.withKey key) := by
  induction vs generalizing keys keys₁ with
  | nil => rfl
  | cons v rest ih =>
      cases h : isUsable v with
      | true =>
          obtain ⟨i, -, hissues⟩ := issuesOf_of_isUsable path h
          rw [List.filter_cons_of_pos h, hissues, hissues, List.map_cons, List.map_cons, ih]
          rfl
      | false =>
          rw [List.filter_cons_of_neg (by simp [h]), issuesOf_of_not_isUsable path keys h, ih]

/-- The issue of a usable finding is numbered behind all findings about its line that come before it,
usable or not. -/
theorem getElem?_issuesOf (path : Text) (keys : KeyFactory) (before behind : List Value)
    (h : isUsable v = true) :
    ∃ i, (issuesOf path keys (before ++ v :: behind))[before.countP isUsable]? = some i ∧
      Reports path v i ∧
      i.key = keyOn path i.lineStart (keys.count (placeText path i.lineStart) +
        before.countP fun u => firstLine? u = some (i.lineStart : Int)) := by
  induction before generalizing keys with
  | nil =>
      obtain ⟨i, hi, hissues⟩ := issuesOf_of_isUsable path h
      exact ⟨_, by rw [List.nil_append, hissues]; rfl, hi.withKey _, rfl⟩
  | cons u before ih =>
      obtain ⟨i, hget, hi, hkey⟩ := ih (takeFinding path keys u).2
      refine ⟨i, ?_, hi, ?_⟩
      · cases hu : isUsable u with
        | true =>
            obtain ⟨j, -, hissues⟩ := issuesOf_of_isUsable path hu
            rw [List.cons_append, hissues, List.countP_cons_of_pos hu, List.getElem?_cons_succ, hget]
        | false =>
            rw [List.cons_append, issuesOf_of_not_isUsable path keys hu,
              List.countP_cons_of_neg (by simp [hu]), hget]
      · rw [hkey, count_takeFinding, List.countP_cons]
        simp only [decide_eq_true_eq]
        congr 1
        omega

/-- The usable findings alone get other keys as soon as fewer were counted on a line of one of them, be
it from the beginning or because another one is left out. -/
theorem issuesOf_eq_filter_iff
    (hle : ∀ n : Int, keys₁.count (placeText path n) ≤ keys.count (placeText path n)) :
    issuesOf path keys vs = issuesOf path keys₁ (vs.filter isUsable) ↔
      vs.Pairwise (fun u v => ¬Displaces u v) ∧
        ∀ v ∈ vs, isUsable v = true → ∀ n, firstLine? v = some n →
          keys.count (placeText path n) = keys₁.count (placeText path n) := by
  induction vs generalizing keys keys₁ with
  | nil => simp [issuesOf]
  | cons v rest ih =>
      cases h : isUsable v with
      | true =>
          obtain ⟨i, hi, hissues⟩ := issuesOf_of_isUsable path h
          have hline := firstLine?_of_reports hi
          have hfirst : ∀ u ∈ rest, ¬Displaces v u := fun u _ hu => by rw [hu.1] at h; cases h
          have hkey (m n : Nat) : i.withKey (keyOn path i.lineStart m) =
              i.withKey (keyOn path i.lineStart n) ↔ m = n :=
            ⟨fun heq => keyOn_inj.1 (congrArg Issue.key heq), fun heq => by rw [heq]⟩
          rw [List.filter_cons_of_pos h, hissues, hissues, List.cons_eq_cons, hkey,
            ih (fun n => by simpa [count_takeFinding] using hle n), List.pairwise_cons,
            List.forall_mem_cons]
          simp only [count_takeFinding, Nat.add_right_cancel_iff]
          constructor
          · rintro ⟨hhere, hrest, hcounts⟩
            refine ⟨⟨hfirst, hrest⟩, fun _ n hn => ?_, hcounts⟩
            obtain rfl := Option.some.inj (hline.symm.trans hn)
            exact hhere
          · rintro ⟨⟨-, hrest⟩, hhere, hcounts⟩
            exact ⟨hhere h _ hline, hrest, hcounts⟩
      | false =>
          rw [List.filter_cons_of_neg (by simp [h]), issuesOf_of_not_isUsable path keys h,
            ih (fun n => by rw [count_takeFinding]; exact Nat.le_add_right_of_le (hle n)),
            List.pairwise_cons, List.forall_mem_cons]
          simp only [count_takeFinding]
          constructor
          · rintro ⟨hrest, hcounts⟩
            refine ⟨⟨fun u hu hdisplaces => ?_, hrest⟩, fun hv => ?_, fun u hu husable n hn => ?_⟩
            · obtain ⟨-, husable, hsame⟩ := hdisplaces
              obtain ⟨n, hn⟩ := exists_firstLine? husable
              have hcount := hcounts u hu husable n hn
              rw [if_pos (hsame.trans hn)] at hcount
              have hmore := hle n
              omega
            · rw [h] at hv
              cases hv
            · have hcount := hcounts u hu husable n hn
              have hmore := hle n
              omega
          · rintro ⟨⟨hfree, hrest⟩, -, hcounts⟩
            refine ⟨hrest, fun u hu husable n hn => ?_⟩
            rw [if_neg fun hv => hfree u hu ⟨h, husable, hv.trans hn.symm⟩]
            exact hcounts u hu husable n hn

/-! ## The findings for a file -/

theorem run_deepScan_of_ok {scanner : DeepScanner σ} {w w₁ : World σ} {findings : List Value}
    (h : (scanner path text).run w = (.ok findings, w₁)) :
    (deepScan scanner path text keys).run w = (takeFindings path keys findings).run w₁ := by
  rw [deepScan, Act.run_bind_ok (Act.run_caught_of_ne h (by simp))]

/-- If a model reports its usable findings only, the scan of the file makes the same issues, but for
their keys. The keys are the same just if no finding that is left out comes before a usable one about its
line: the issue of a usable finding is numbered behind all findings about its line that come before it,
and those that are left out are counted. -/
theorem deepScan_ignored {scanner usable : DeepScanner σ} {w w₁ w' u u₁ : World σ}
    {findings : List Value} {issues : List Issue}
    (hanswer : (scanner path text).run w = (.ok findings, w₁))
    (husable : (usable path text).run u = (.ok (findings.filter isUsable), u₁))
    (hscan : (deepScan scanner path text keys).run w = (.ok (issues, keys₁), w')) :
    (∃ issues' keys₂ u', (deepScan usable path text keys).run u = (.ok (issues', keys₂), u') ∧
        issues.map (·.withKey .null) = issues'.map (·.withKey .null) ∧
        (issues = issues' ↔ findings.Pairwise fun v v' => ¬Displaces v v')) ∧
      ∀ before v behind, findings = before ++ v :: behind → isUsable v = true →
        ∃ i, issues[before.countP isUsable]? = some i ∧ Reports path v i ∧
          i.key = keyOn path i.lineStart (keys.count (placeText path i.lineStart) +
            before.countP fun v' => firstLine? v' = some (i.lineStart : Int)) := by
  have hfree : ∀ v ∈ findings.filter isUsable, ¬Breaks v := by
    intro v hv
    obtain ⟨i, hi⟩ := (isUsable_iff path).1 (List.mem_filter.1 hv).2
    exact hi.not_breaks
  obtain ⟨issues', keys₂, u', hrun, -⟩ := @takeFindings_contained _ path _ hfree keys u₁
  rw [run_deepScan_of_ok hanswer] at hscan
  obtain rfl := eq_issuesOf hscan
  obtain rfl := eq_issuesOf hrun
  constructor
  · refine ⟨_, keys₂, u', (run_deepScan_of_ok husable).trans hrun, ?_, ?_⟩
    · exact map_withKey_issuesOf path keys keys .null findings
    · rw [issuesOf_eq_filter_iff fun n => Nat.le_refl _]
      exact and_iff_left fun v _ _ n _ => rfl
  · rintro before v behind rfl hv
    exact getElem?_issuesOf path keys before behind hv

/-- A model that reports the same findings for every file. -/
def reporting (findings : List Value) : DeepScanner σ := fun _ _ => return findings

/-- A finding about line one. -/
def plain : Value := .record [("line_start", .nat 1)]

/-- A finding about line one, of which it cannot be read where it ends. -/
def endless : Value := .record [("line_start", .nat 1), ("line_end", .text [0x78])]

/-- A world without files. -/
def nowhere : World Unit := { tree := ⟨.dir []⟩, extra := () }

theorem startsAt_one (h : lineIn v = .nat 1) : StartsAt v 1 :=
  ⟨h ▸ .whole 1, Numeral.fits_of_lt_million (n := 1) (by decide)⟩

theorem firstLine_plain : firstLine plain = .ok 1 :=
  firstLine_of_startsAt ⟨_, rfl⟩ (startsAt_one rfl)

theorem firstLine_endless : firstLine endless = .ok 1 :=
  firstLine_of_startsAt ⟨_, rfl⟩ (startsAt_one rfl)

/-- Behind the other finding, which is left out, the usable one gets the key with the number two. -/
theorem deepScan_ignored_endless :
    ∃ issues issues' keys keys' w w',
      (deepScan (reporting [endless, plain]) [0x61] [] []).run nowhere = (.ok (issues, keys), w) ∧
        (deepScan (reporting [plain]) [0x61] [] []).run nowhere = (.ok (issues', keys'), w') ∧
        issues.map (·.withKey .null) = issues'.map (·.withKey .null) ∧ issues ≠ issues' ∧
        ∃ i, issues[0]? = some i ∧ i.key = keyOn [0x61] 1 1 := by
  have hplain : isUsable plain = true := by
    rw [isUsable, takeFinding_of_firstLine firstLine_plain]
    rfl
  have hendless : isUsable endless = false := by
    rw [isUsable, takeFinding_of_firstLine firstLine_endless]
    rfl
  have husable : (reporting [plain] [0x61] []).run nowhere =
      (.ok ([endless, plain].filter isUsable), nowhere) := by
    rw [List.filter_cons_of_neg (by simp [hendless]), List.filter_cons_of_pos hplain]
    rfl
  obtain ⟨issues, keys, w, hscan⟩ : ∃ issues keys w,
      (deepScan (reporting [endless, plain]) [0x61] [] []).run nowhere = (.ok (issues, keys), w) := by
    rw [run_deepScan_of_ok (w := nowhere) rfl]
    simp only [takeFindings, takeFinding_of_firstLine firstLine_endless,
      takeFinding_of_firstLine firstLine_plain]
    exact ⟨_, _, _, rfl⟩
  obtain ⟨⟨issues', keys', w', hscan', hsame, hiff⟩, hkeys⟩ := deepScan_ignored rfl husable hscan
  have hsameLine : firstLine? endless = firstLine? plain := by
    rw [firstLine?, firstLine?, firstLine_endless, firstLine_plain]
  refine ⟨issues, issues', keys, keys', w, w', hscan, hscan', hsame, fun heq => ?_, ?_⟩
  · have hfree := (List.pairwise_cons.1 (hiff.1 heq)).1 plain (List.mem_singleton_self _)
    exact hfree ⟨hendless, hplain, hsameLine⟩
  · obtain ⟨i, hi, hreports, hkey⟩ := hkeys [endless] plain [] rfl hplain
    have hline := firstLine?_of_reports hreports
    have hread := firstLine_of_startsAt hreports.object hreports.lineStart
    have hone : (i.lineStart : Int) = 1 := Except.ok.inj (hread.symm.trans firstLine_plain)
    rw [List.countP_singleton, hendless] at hi
    rw [List.countP_singleton, hsameLine, hline, hone] at hkey
    exact ⟨i, hi, hkey⟩

end Scan

end Mend
