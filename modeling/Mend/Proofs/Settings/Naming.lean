import Mend.Proofs.Settings.Environment

/-!
# Two ways to name a scanner

A scanner and a project are named by two options or by two variables. Both ways lead to the same
settings but for the branch: the one that the environment gives counts only where the environment
names the scanner as well.

## Main definitions

* `Arguments.naming`, `Environment.naming` — the two ways.
* `Config.scannedBy` — the settings of the same job with another scanner.

## Main statements

* `Config.ofArguments_naming` — the settings that either way leads to, from those of a local scan.
-/

namespace Mend

/-- The second of two steps matters only on results of the first one. -/
theorem bind_congr_ok {ε α β : Type} {x : Except ε α} {f g : α → Except ε β}
    (h : ∀ a, x = .ok a → f a = g a) : x >>= f = x >>= g := by
  cases x with
  | error e => rfl
  | ok a => exact h a rfl

/-- The same command with these options for the scanner and the project. -/
def Arguments.naming (a : Arguments) (url projectKey : Option Text) : Arguments :=
  { a with scannerUrl := url, projectKey }

/-- The environment with variables that name a scanner and a project. -/
def Environment.naming (E : Environment) (url projectKey : Text) : Environment :=
  (Text.ofString "SONAR_HOST_URL", url) :: (Text.ofString "SONAR_PROJECT_KEY", projectKey) :: E

/-- The settings of the same job with another scanner. -/
def Config.scannedBy (c : Config) (s : ScannerSettings) : Config := { c with scanner := some s }

/-! ## Environments that name a scanner -/

namespace Environment

variable {E : Environment} {url projectKey : Text}

theorem get?_naming (E : Environment) (url projectKey : Text) (name : String) :
    (E.naming url projectKey).get? name =
      if name = "SONAR_HOST_URL" then some url
      else if name = "SONAR_PROJECT_KEY" then some projectKey else E.get? name := by
  rw [naming, get?_cons, get?_cons]

theorem scanner_naming (hurl : url ≠ []) (hkey : projectKey ≠ []) :
    (E.naming url projectKey).scanner =
      if isOnlySlashes url then .error (.config .emptyUrl)
      else .ok (some (.named url projectKey (E.get? "SONAR_TOKEN") (E.given? "SONAR_BRANCH"))) := by
  have hfoundUrl : (E.naming url projectKey).given? "SONAR_HOST_URL" = some url := by
    simp [given?_eq, get?_naming, given_of_ne_nil hurl]
  have hfoundKey : (E.naming url projectKey).given? "SONAR_PROJECT_KEY" = some projectKey := by
    simp [given?_eq, get?_naming, given_of_ne_nil hkey]
  rw [scanner_eq hfoundUrl hfoundKey]
  simp [given?_eq, get?_naming]

theorem int_naming (E : Environment) (url projectKey : Text) (other : Int) :
    (E.naming url projectKey).int "MAX_ISSUES" other = E.int "MAX_ISSUES" other :=
  int_congr (by simp [get?_naming]) other

theorem fix_naming (E : Environment) (url projectKey : Text) :
    (E.naming url projectKey).fix = E.fix := by
  apply fix_congr <;> simp [get?_naming]

end Environment

/-! ## Commands that name a scanner -/

namespace Arguments

variable {a : Arguments} {E : Environment} {url projectKey : Text}

@[simp] theorem fixIn_naming (a : Arguments) (url projectKey : Option Text) (mode : RunMode)
    (known : FixSettings) : (a.naming url projectKey).fixIn mode known = a.fixIn mode known := rfl

/-- The options go before what is known of a scanner. -/
theorem scanner_naming (hurl : url ≠ []) (hkey : projectKey ≠ []) :
    (a.naming (some url) (some projectKey)).scanner E none =
      if isOnlySlashes url then .error (.config .emptyUrl)
      else .ok (some (.named url projectKey (E.get? "SONAR_TOKEN") (given a.branch))) := by
  have hbranch : ((given a.branch).orElse fun _ => none) = given a.branch := by
    cases given a.branch <;> rfl
  simp only [scanner, naming, given_of_ne_nil hurl, given_of_ne_nil hkey, Option.orElse_some,
    Option.bind_none, hbranch, ScannerSettings.make_eq hkey]
  split <;> rfl

/-- Without options, a known scanner keeps its address and its project, and its branch unless an
option gives another one. -/
theorem scanner_known {branch : Option Text} (hslashes : isOnlySlashes url = false)
    (hkey : projectKey ≠ []) (token : Option Text) :
    (a.naming none none).scanner E (some (.named url projectKey token branch)) =
      .ok (some (.named url projectKey (E.get? "SONAR_TOKEN")
        ((given a.branch).orElse fun _ => branch))) := by
  have htrim : isOnlySlashes (url.trimRight (· == Path.slash)) = false :=
    (isOnlySlashes_trimRight url).trans hslashes
  simp only [scanner, naming, given_none, Option.orElse_none, Option.map_some, ScannerSettings.named,
    Option.bind_some]
  rw [ScannerSettings.make_eq hkey, if_neg (by simp [htrim])]
  simp only [ScannerSettings.named, Text.trimRight_trimRight]
  rfl

end Arguments

/-! ## The settings of a command that names a scanner -/

namespace Config

variable {a : Arguments} {mode : RunMode} {E : Environment} {url projectKey : Text}

/-- Whether settings can be made depends on no scanner. -/
theorem make_scannedBy (d : Draft) (s : ScannerSettings) :
    Config.make { d with scanner := some s } = (·.scannedBy s) <$> Config.make d := by
  simp only [Config.make, map_bind]
  refine bind_congr fun selectors => ?_
  split
  · rfl
  split
  · rfl
  split
  · rfl
  · rfl

theorem ofEnvironment_scannedBy {projectDir : Path} {s : ScannerSettings} {E' : Environment}
    (hnone : E.scanner = .ok none) (hsome : E'.scanner = .ok (some s))
    (hmaxIssues : E'.int "MAX_ISSUES" 500 = E.int "MAX_ISSUES" 500) (hfix : E'.fix = E.fix) :
    Config.ofEnvironment projectDir E' = (·.scannedBy s) <$> Config.ofEnvironment projectDir E := by
  rw [ofEnvironment_eq, ofEnvironment_eq, hnone, hsome, hmaxIssues, hfix]
  simp only [map_bind, map_pure]
  rfl

/-- What a command makes of known settings depends on its options for the scanner only in the scanner
that is found in the end. -/
theorem settled_scannedBy {E' : Environment} {known known' : Config} {s : ScannerSettings}
    (u k u' k' : Option Text) (hnone : (a.naming u k).scanner E known.scanner = .ok none)
    (hsome : (a.naming u' k').scanner E' known'.scanner = .ok (some s))
    (hselectors : known'.selectors = known.selectors) (hfix : known'.fix = known.fix) :
    settled (a.naming u' k') mode E' known' =
      (·.scannedBy s) <$> settled (a.naming u k) mode E known := by
  simp only [settled, hnone, hsome, hselectors, hfix, ok_bind, map_bind, Arguments.fixIn_naming]
  refine bind_congr fun fix => ?_
  refine bind_congr fun categories => ?_
  refine bind_congr fun severities => ?_
  rw [← make_scannedBy]
  rfl

/-- The settings that the environment gives have its scanner. -/
theorem scanner_of_ofEnvironment {projectDir : Path} {known : Config}
    (h : Config.ofEnvironment projectDir E = .ok known) : E.scanner = .ok known.scanner := by
  rw [ofEnvironment_eq] at h
  obtain ⟨scanner, hscanner, h⟩ := exists_of_bind_eq_ok h
  obtain ⟨n, -, h⟩ := exists_of_bind_eq_ok h
  obtain ⟨f, -, h⟩ := exists_of_bind_eq_ok h
  obtain ⟨selectors, -, h⟩ := exists_of_bind_eq_ok h
  obtain rfl := Except.ok.inj h
  exact hscanner

section

variable (hnone : E.scanner = .ok none)
include hnone

theorem scanner_eq_none_of_ofEnvironment {projectDir : Path} {known : Config}
    (h : Config.ofEnvironment projectDir E = .ok known) : known.scanner = none :=
  Except.ok.inj ((scanner_of_ofEnvironment h).symm.trans hnone)

/-- What a command makes of options that name a scanner, where the environment names none. -/
theorem ofArguments_options (a : Arguments) (mode : RunMode) (hurl : url ≠ [])
    (hkey : projectKey ≠ []) (hslashes : isOnlySlashes url = false) :
    ofArguments (a.naming (some url) (some projectKey)) mode E =
      (·.scannedBy (.named url projectKey (E.get? "SONAR_TOKEN") (given a.branch))) <$>
        ofArguments (a.naming none none) mode E := by
  rw [ofArguments_eq, ofArguments_eq, map_bind]
  refine bind_congr_ok fun known hknown => ?_
  have hlocal := scanner_eq_none_of_ofEnvironment hnone hknown
  refine settled_scannedBy _ _ _ _ ?_ ?_ rfl rfl
  · rw [hlocal]
    rfl
  · rw [hlocal, Arguments.scanner_naming hurl hkey, if_neg (by simp [hslashes])]

/-- What a command makes of variables that name a scanner. -/
theorem ofArguments_variables (a : Arguments) (mode : RunMode) (hurl : url ≠ [])
    (hkey : projectKey ≠ []) (hslashes : isOnlySlashes url = false) :
    ofArguments (a.naming none none) mode (E.naming url projectKey) =
      (·.scannedBy (.named url projectKey (E.get? "SONAR_TOKEN")
          ((given a.branch).orElse fun _ => E.given? "SONAR_BRANCH"))) <$>
        ofArguments (a.naming none none) mode E := by
  have hsome := Environment.scanner_naming (E := E) hurl hkey
  rw [if_neg (by simp [hslashes])] at hsome
  rw [ofArguments_eq, ofArguments_eq, map_bind,
    ofEnvironment_scannedBy hnone hsome (Environment.int_naming ..) (Environment.fix_naming ..),
    bind_map_left]
  refine bind_congr_ok fun known hknown => ?_
  have hlocal := scanner_eq_none_of_ofEnvironment hnone hknown
  refine settled_scannedBy _ _ _ _ ?_ ?_ rfl rfl
  · rw [hlocal]
    rfl
  · rw [scannedBy, Arguments.scanner_known hslashes hkey, Environment.get?_naming]
    simp

end

/-- Both ways agree on settings that differ in nothing but the branch just if the branch is the same. -/
theorem scannedBy_map_eq_iff {r : Except Fault Config} {token branch known : Option Text} :
    (·.scannedBy (.named url projectKey token branch)) <$> r =
        (·.scannedBy (.named url projectKey token (branch.orElse fun _ => known))) <$> r ↔
      branch ≠ none ∨ known = none ∨ ∃ e, r = .error e := by
  cases r with
  | error e => simp [Functor.map, Except.map]
  | ok c =>
      cases branch with
      | some branch => simp
      | none =>
          constructor
          · intro h
            have hscanner := congrArg Config.scanner (Except.ok.inj h)
            have hbranch := congrArg ScannerSettings.branch (Option.some.inj hscanner)
            exact .inr (.inl hbranch.symm)
          · rintro (h | rfl | ⟨e, h⟩)
            · exact absurd rfl h
            · rfl
            · cases h

/-- The settings of a command that names a scanner by options, and of one whose environment names it,
from those of a local scan, where the environment names no scanner otherwise. The options leave out
the branch that the environment gives, so that both ways agree just if it gives none, if an option
gives one, or if there are no settings at all. An address of slashes only is refused both ways; but
with options, what else is wrong with the environment is said first. -/
theorem ofArguments_naming (hurl : url ≠ []) (hkey : projectKey ≠ [])
    (hunnamed : E.given? "SONAR_HOST_URL" = none ∨ E.given? "SONAR_PROJECT_KEY" = none) :
    (isOnlySlashes url = false →
      ofArguments (a.naming (some url) (some projectKey)) mode E =
          (·.scannedBy (.named url projectKey (E.get? "SONAR_TOKEN") (given a.branch))) <$>
            ofArguments (a.naming none none) mode E ∧
        ofArguments (a.naming none none) mode (E.naming url projectKey) =
          (·.scannedBy (.named url projectKey (E.get? "SONAR_TOKEN")
              ((given a.branch).orElse fun _ => E.given? "SONAR_BRANCH"))) <$>
            ofArguments (a.naming none none) mode E ∧
        (ofArguments (a.naming (some url) (some projectKey)) mode E =
            ofArguments (a.naming none none) mode (E.naming url projectKey) ↔
          given a.branch ≠ none ∨ E.given? "SONAR_BRANCH" = none ∨
            ∃ e, ofArguments (a.naming none none) mode E = .error e)) ∧
    (isOnlySlashes url = true →
      ofArguments (a.naming (some url) (some projectKey)) mode E =
          (do
            let _ ← Config.ofEnvironment (.ofText a.projectDir) E
            .error (.config .emptyUrl)) ∧
        ofArguments (a.naming none none) mode (E.naming url projectKey) =
          .error (.config .emptyUrl)) := by
  have hnone : E.scanner = .ok none := Environment.scanner_eq_none hunnamed
  constructor
  · intro hslashes
    have hoptions := ofArguments_options hnone a mode hurl hkey hslashes
    have hvariables := ofArguments_variables hnone a mode hurl hkey hslashes
    refine ⟨hoptions, hvariables, ?_⟩
    rw [hoptions, hvariables]
    exact scannedBy_map_eq_iff
  · intro hslashes
    constructor
    · rw [ofArguments_eq]
      refine bind_congr_ok fun known hknown => ?_
      rw [settled, scanner_eq_none_of_ofEnvironment hnone hknown, Arguments.scanner_naming hurl hkey,
        if_pos hslashes]
      rfl
    · rw [ofArguments_eq, ofEnvironment_eq, Environment.scanner_naming hurl hkey, if_pos hslashes]
      rfl

/-- Of an environment that gives the branch `develop`, options make a scan of the main branch, and
variables one of `develop`. -/
theorem ofArguments_naming_branch :
    ofArguments { scannerUrl := some "http://s", projectKey := some "p" } .plan
        [("SONAR_BRANCH", "develop")] ≠
      ofArguments {} .plan
        [("SONAR_HOST_URL", "http://s"), ("SONAR_PROJECT_KEY", "p"), ("SONAR_BRANCH", "develop")] := by
  intro heq
  have hnames := @ofArguments_naming {} .plan [("SONAR_BRANCH", "develop")] "http://s" "p" (by decide)
    (by decide) (by decide)
  rcases (hnames.1 (by decide)).2.2.1 heq with h | h | ⟨e, h⟩
  · exact h rfl
  · cases h
  · cases h

end Config

end Mend
