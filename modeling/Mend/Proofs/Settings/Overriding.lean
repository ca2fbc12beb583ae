import Mend.Proofs.Settings.Environment

/-!
# The command line goes before the environment

A setting that the command line gives does not depend on the variable that gives it otherwise. But the
environment is read as a whole first, and one that is refused is refused for every command.

## Main definitions

* `Arguments.Overrides` — the variables whose setting a command line gives.
* `Alike` — readings that end with the same fault, or with results that are alike.

## Main statements

* `SameBut.ofArguments_eq` — what is overridden makes no difference if it is of use.
* `Config.ofArguments_congr` — two environments that differ in what is overridden.
-/

namespace Mend

/-! ## Readings that end alike -/

/-- Both readings end with the same fault, or with results of which `R` holds. -/
inductive Alike {α : Type} (R : α → α → Prop) : Except Fault α → Except Fault α → Prop
  | ok {x y : α} (h : R x y) : Alike R (.ok x) (.ok y)
  | error (e : Fault) : Alike R (.error e) (.error e)

namespace Alike

variable {α β : Type} {R : α → α → Prop} {r r' : Except Fault α}

theorem of_eq (hR : ∀ x, R x x) (h : r = r') : Alike R r r' := by
  subst h
  cases r with
  | ok x => exact .ok (hR x)
  | error e => exact .error e

theorem bind {Q : β → β → Prop} {f f' : α → Except Fault β} (h : Alike R r r')
    (hf : ∀ x y, r = .ok x → r' = .ok y → R x y → Alike Q (f x) (f' y)) :
    Alike Q (r >>= f) (r' >>= f') := by
  cases h with
  | ok h => exact hf _ _ rfl rfl h
  | error e => exact .error e

theorem imp {Q : α → α → Prop} (h : Alike R r r') (hQ : ∀ x y, R x y → Q x y) : Alike Q r r' := by
  cases h with
  | ok h => exact .ok (hQ _ _ h)
  | error e => exact .error e

/-- What ends alike is the same if results are alike only if they are the same. -/
theorem eq (h : Alike Eq r r') : r = r' := by
  cases h with
  | ok h => rw [h]
  | error e => rfl

end Alike

/-- A value in place of a missing one matters only where there is none. -/
theorem getD_congr {α : Type} {o : Option α} {x y : α} (h : o.isSome ∨ x = y) : o.getD x = o.getD y := by
  rcases h with h | rfl
  · obtain ⟨a, rfl⟩ := Option.isSome_iff_exists.1 h
    rw [Option.getD_some, Option.getD_some]
  · rfl

/-! ## Limits -/

/-- Selectors are made of two limits alike if these are the same, or if both are allowed. -/
theorem Selectors.alike_make {categories : List Category} {severities : List Severity} {n n' : Int}
    (h : 1 ≤ n ∧ 1 ≤ n' ∨ n = n') :
    Alike (fun s s' => s.maxIssues = n.toNat ∧ s'.maxIssues = n'.toNat) (make categories severities n)
      (make categories severities n') := by
  rcases h with ⟨hpos, hpos'⟩ | rfl
  · rw [make, make, dif_pos (by omega), dif_pos (by omega)]
    exact .ok ⟨rfl, rfl⟩
  · rw [make]
    split
    · exact .ok ⟨rfl, rfl⟩
    · exact .error _

/-- What settings of the fix phase have of the draft that they are made of. -/
structure FixSettings.Keeps (f : FixSettings) (d : FixSettings.Draft) : Prop where
  maxAttempts : f.maxAttempts = d.maxAttempts.toNat
  runTests : f.runTests = d.runTests
  model : f.model = d.model

/-- Settings of the fix phase are made of two drafts alike if their limits are the same, or if both
numbers of attempts are allowed. -/
theorem FixSettings.alike_make {d d' : FixSettings.Draft} (htimeout : d.buildTimeout = d'.buildTimeout)
    (h : 1 ≤ d.maxAttempts ∧ 1 ≤ d'.maxAttempts ∨ d.maxAttempts = d'.maxAttempts) :
    Alike (fun f f' => f.Keeps d ∧ f'.Keeps d') (make d) (make d') := by
  have hiff : 1 ≤ d.maxAttempts.toNat ↔ 1 ≤ d'.maxAttempts.toNat := by omega
  by_cases hpos : 1 ≤ d.maxAttempts.toNat
  · rw [make, make, dif_pos hpos, dif_pos (hiff.1 hpos), htimeout]
    split
    · exact .error _
    · exact .ok ⟨⟨rfl, rfl, rfl⟩, ⟨rfl, rfl, rfl⟩⟩
  · rw [make, make, dif_neg hpos, dif_neg (mt hiff.2 hpos)]
    exact .error _

/-! ## Variables that are overridden -/

namespace Arguments

/-- Whether a command line names the scanner, the project and the branch. -/
def NamesScanner (a : Arguments) : Prop :=
  (given a.scannerUrl).isSome ∧ (given a.projectKey).isSome ∧ (given a.branch).isSome

/-- Whether a command line gives the setting that a variable is for. -/
def Overrides (a : Arguments) (mode : RunMode) (name : String) : Prop :=
  name = "MAX_ISSUES" ∧ a.maxIssues.isSome ∨
    (name = "SONAR_HOST_URL" ∨ name = "SONAR_PROJECT_KEY") ∧ a.NamesScanner ∨
    mode = .fix ∧
      (name = "MAX_FIX_ATTEMPTS" ∧ a.maxAttempts.isSome ∨
        name = "REMEDIATION_MODEL" ∧ (given a.model).isSome ∨ name = "RUN_TESTS" ∧ a.noTests)

section

variable {a : Arguments} {mode : RunMode} {E E' : Environment} {f f' : FixSettings}
  {known known' : Option ScannerSettings}

/-- The scanner of a command that names one does not depend on what is known else. -/
theorem scanner_congr (htoken : E.get? "SONAR_TOKEN" = E'.get? "SONAR_TOKEN")
    (h : a.NamesScanner ∨ known = known') : a.scanner E known = a.scanner E' known' := by
  rcases h with ⟨hurl, hkey, hbranch⟩ | rfl
  · obtain ⟨url, hurl⟩ := Option.isSome_iff_exists.1 hurl
    obtain ⟨projectKey, hkey⟩ := Option.isSome_iff_exists.1 hkey
    obtain ⟨branch, hbranch⟩ := Option.isSome_iff_exists.1 hbranch
    simp [scanner, hurl, hkey, hbranch, htoken]
  · rw [scanner, scanner, htoken]

/-- The settings of the fix phase of a command depend on what is known in nothing that the command
says itself. -/
theorem fix_congr (hattempts : a.maxAttempts.isSome ∨ f.maxAttempts = f'.maxAttempts)
    (htests : a.noTests ∨ f.runTests = f'.runTests)
    (hmodel : (given a.model).isSome ∨ f.model = f'.model) : a.fix f = a.fix f' := by
  have hattempts : a.maxAttempts.getD f.maxAttempts = a.maxAttempts.getD f'.maxAttempts :=
    getD_congr (hattempts.imp_right fun h => by rw [h])
  have htests : (f.runTests && !a.noTests) = (f'.runTests && !a.noTests) := by
    rcases htests with h | h <;> simp [h]
  have hmodel : ((given a.model).orElse fun _ => f.model) =
      (given a.model).orElse fun _ => f'.model := by
    rcases hmodel with h | h
    · obtain ⟨m, hm⟩ := Option.isSome_iff_exists.1 h
      rw [hm, Option.orElse_some, Option.orElse_some]
    · rw [h]
  simp only [fix, hattempts, htests, hmodel]

end

end Arguments

/-! ## The environment, part by part -/

section

variable {a : Arguments} {mode : RunMode} {E E' : Environment}

/-- Two environments that differ in variables only that a command line overrides, and whose values for
those are of use. -/
structure SameBut (a : Arguments) (mode : RunMode) (E E' : Environment) : Prop where
  same : ∀ name, ¬a.Overrides mode name → E.get? name = E'.get? name
  usable : ∀ name, a.Overrides mode name → E.IsUsable name ∧ E'.IsUsable name

namespace SameBut

theorem alike_scanner (h : SameBut a mode E E') :
    Alike (fun s s' => a.NamesScanner ∨ s = s') E.scanner E'.scanner := by
  by_cases hnames : a.NamesScanner
  · have husable := h.usable "SONAR_HOST_URL" (by simp [Arguments.Overrides, hnames])
    obtain ⟨s, hs⟩ := E.reads_scanner.exists_ok husable.1
    obtain ⟨s', hs'⟩ := E'.reads_scanner.exists_ok husable.2
    rw [hs, hs']
    exact .ok (.inl hnames)
  · refine .of_eq (fun _ => .inr rfl) (Environment.scanner_congr ?_ ?_ ?_ ?_) <;>
      exact h.same _ (by simp [Arguments.Overrides, hnames])

/-- A limit is the same, or it is of use in both environments and the command line overrides it. -/
theorem alike_limit (h : SameBut a mode E E') {name : String} {other : Int}
    (hlimit : ∀ E : Environment, E.IsUsable name → ∃ n, E.int name other = .ok n ∧ 1 ≤ n) :
    Alike (fun n n' => a.Overrides mode name ∧ 1 ≤ n ∧ 1 ≤ n' ∨ n = n') (E.int name other)
      (E'.int name other) := by
  by_cases hover : a.Overrides mode name
  · obtain ⟨husable, husable'⟩ := h.usable name hover
    obtain ⟨n, hn, hpos⟩ := hlimit E husable
    obtain ⟨n', hn', hpos'⟩ := hlimit E' husable'
    rw [hn, hn']
    exact .ok (.inl ⟨hover, hpos, hpos'⟩)
  · exact .of_eq (fun _ => .inr rfl) (Environment.int_congr (h.same name hover) other)

theorem alike_maxIssues (h : SameBut a mode E E') :
    Alike (fun n n' => a.Overrides mode "MAX_ISSUES" ∧ 1 ≤ n ∧ 1 ≤ n' ∨ n = n')
      (E.int "MAX_ISSUES" 500) (E'.int "MAX_ISSUES" 500) :=
  h.alike_limit fun _ husable => husable.maxIssues rfl

theorem alike_fix (h : SameBut a mode E E') :
    Alike (fun f f' => a.fixIn mode f = a.fixIn mode f') E.fix E'.fix := by
  cases mode with
  | plan =>
      refine .of_eq (fun _ => rfl) (Environment.fix_congr ?_ ?_ ?_) <;>
        exact h.same _ (by simp [Arguments.Overrides])
  | fix =>
      refine (h.alike_limit fun _ husable => husable.maxAttempts rfl).bind fun n n' _ _ hn => ?_
      refine Alike.imp (FixSettings.alike_make rfl ?_) ?_
      · exact hn.imp_left And.right
      intro f f' ⟨hf, hf'⟩
      refine Arguments.fix_congr ?_ ?_ ?_
      · rw [hf.maxAttempts, hf'.maxAttempts]
        rcases hn with ⟨hover, -⟩ | rfl
        · exact .inl (by simpa [Arguments.Overrides] using hover)
        · exact .inr rfl
      · rw [hf.runTests, hf'.runTests]
        by_cases htests : a.noTests
        · exact .inl htests
        · rw [h.same "RUN_TESTS" (by simp [Arguments.Overrides, htests])]
          exact .inr rfl
      · rw [hf.model, hf'.model]
        by_cases hmodel : (given a.model).isSome
        · exact .inl hmodel
        · right
          show E.given? _ = E'.given? _
          rw [Environment.given?_eq, Environment.given?_eq,
            h.same "REMEDIATION_MODEL" (by simp [Arguments.Overrides, hmodel])]

/-- A command makes the same of both environments. -/
theorem ofArguments_eq (h : SameBut a mode E E') :
    Config.ofArguments a mode E = Config.ofArguments a mode E' := by
  rw [Config.ofArguments_eq, Config.ofArguments_eq, Config.ofEnvironment_eq, Config.ofEnvironment_eq]
  simp only [bind_assoc, pure_bind]
  refine (h.alike_scanner.bind fun s s' _ _ hscanner => ?_).eq
  refine h.alike_maxIssues.bind fun n n' _ _ hn => ?_
  refine h.alike_fix.bind fun f f' _ _ hfix => ?_
  refine (Selectors.alike_make (hn.imp_left And.right)).bind fun ss ss' _ _ ⟨hss, hss'⟩ => ?_
  refine .of_eq (fun _ => rfl) (Config.settled_congr ?_ hfix ?_)
  · exact Arguments.scanner_congr (h.same _ (by simp [Arguments.Overrides])) hscanner
  · show a.maxIssues.getD ss.maxIssues = a.maxIssues.getD ss'.maxIssues
    rw [hss, hss']
    refine getD_congr (hn.imp ?_ ?_)
    · rintro ⟨hover, -⟩
      simpa [Arguments.Overrides] using hover
    · rintro rfl
      rfl

end SameBut

/-- What the command line says goes before the environment. Of two environments that differ only in
variables whose setting the command line gives, a command makes the same, as long as both have values
there that could be used; but an environment with a value of no use is refused as it is without a
command, although nothing depends on that value. -/
theorem Config.ofArguments_congr
    (hsame : ∀ name, ¬a.Overrides mode name → E.get? name = E'.get? name) :
    ((∀ name, a.Overrides mode name → E.IsUsable name ∧ E'.IsUsable name) →
      Config.ofArguments a mode E = Config.ofArguments a mode E') ∧
    ∀ name, a.Overrides mode name → ¬E.IsUsable name →
      ∃ fault, Config.ofEnvironment (.ofText a.projectDir) E = .error (.config fault) ∧
        Config.ofArguments a mode E = .error (.config fault) :=
  ⟨fun husable => SameBut.ofArguments_eq ⟨hsame, husable⟩,
    fun _ _ hnot => Config.refused_of_not_isUsable hnot⟩

end

/-- With the most findings on the command line, 7 in the environment counts for nothing, and `abc` is
refused. -/
theorem Config.ofArguments_congr_maxIssues :
    Config.ofArguments { maxIssues := some 5 } .plan [("MAX_ISSUES", "7")] =
        Config.ofArguments { maxIssues := some 5 } .plan [] ∧
      ∃ fault,
        Config.ofArguments { maxIssues := some 5 } .plan [("MAX_ISSUES", "abc")] =
          .error (.config fault) := by
  have hover : ∀ name, Arguments.Overrides { maxIssues := some 5 } .plan name ↔ name = "MAX_ISSUES" := by
    simp [Arguments.Overrides, Arguments.NamesScanner]
  have hsame : ∀ value : Text, ∀ name,
      ¬Arguments.Overrides { maxIssues := some 5 } .plan name →
        Environment.get? [("MAX_ISSUES", value)] name = Environment.get? [] name := by
    intro value name hname
    rw [hover] at hname
    exact (Environment.get?_cons "MAX_ISSUES" value [] name).trans (if_neg hname)
  constructor
  · refine (Config.ofArguments_congr (hsame "7")).1 fun name hname => ?_
    rw [hover] at hname
    subst hname
    exact ⟨⟨fun _ => ⟨7, rfl, by decide⟩, by simp, by simp⟩,
      ⟨fun _ => ⟨500, rfl, by decide⟩, by simp, by simp⟩⟩
  · have hnot : ¬Environment.IsUsable [("MAX_ISSUES", "abc")] "MAX_ISSUES" := by
      intro h
      obtain ⟨n, hn, -⟩ := h.maxIssues rfl
      have hfault : Environment.int [("MAX_ISSUES", "abc")] "MAX_ISSUES" 500 =
        .error (.config (.notInteger "MAX_ISSUES" "abc")) := rfl
      rw [hfault] at hn
      cases hn
    obtain ⟨fault, -, hrefused⟩ :=
      (Config.ofArguments_congr (hsame "abc")).2 "MAX_ISSUES" ((hover _).2 rfl) hnot
    exact ⟨fault, hrefused⟩

end Mend
