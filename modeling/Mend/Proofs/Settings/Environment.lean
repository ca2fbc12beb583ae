import Mend.Settings.Environment
import Mend.Proofs.Json.Reading
import Mend.Proofs.Text.Trim

/-!
# What the environment says

The settings that the environment gives are put together from a few variables, each read on its own.
Where the value of one is of no use, the environment is refused with a fault of configuration, and so
is every command that is given in it.

## Main definitions

* `ScannerSettings.named` — the settings of a scanner that is given by its address and a project.
* `Environment.IsUsable` — whether the value of a variable can be used as what it is for.
* `Config.settled` — what a command makes of the settings that the environment gives.

## Main statements

* `Config.ofEnvironment_eq`, `Config.ofArguments_eq` — the parts that settings are made of.
* `Config.refused_of_not_isUsable` — a variable of no use is enough for a refusal.
-/

namespace Mend

/-- Whether a fault means that the settings are no good. -/
def Fault.isOfConfig : Fault → Bool
  | .config _ => true
  | _ => false

@[simp] theorem given_none : given none = none := rfl

theorem given_of_ne_nil {t : Text} (h : t ≠ []) : given (some t) = some t := by
  cases t with
  | nil => exact absurd rfl h
  | cons c rest => rfl

theorem ne_nil_of_given {o : Option Text} {t : Text} (h : given o = some t) : t ≠ [] := by
  cases o with
  | none => cases h
  | some u =>
      cases u with
      | nil => cases h
      | cons c rest =>
          cases h
          simp

/-! ## Scanners -/

/-- Whether nothing is left of an address when the slashes at its end are dropped. -/
def isOnlySlashes (url : Text) : Bool := (url.trimRight (· == Path.slash)).isEmpty

theorem isOnlySlashes_trimRight (url : Text) :
    isOnlySlashes (url.trimRight (· == Path.slash)) = isOnlySlashes url := by
  rw [isOnlySlashes, Text.trimRight_trimRight, isOnlySlashes]

namespace ScannerSettings

/-- The settings of a scanner that is given by its address and a project. -/
def named (url projectKey : Text) (token branch : Option Text) : ScannerSettings where
  url := url.trimRight (· == Path.slash)
  projectKey := projectKey
  token := token
  branch := branch
  pageSize := maxPageSize
  timeout := .real 30
  retries := 2
  one_le_pageSize := by decide
  pageSize_le := Nat.le_refl _

theorem make_eq {url projectKey : Text} (hkey : projectKey ≠ []) (token branch : Option Text) :
    make { url, projectKey, token, branch } =
      if isOnlySlashes url then .error (.config .emptyUrl)
      else .ok (named url projectKey token branch) := by
  have hpages : 1 ≤ maxPageSize := by decide
  have htime : (Number.real 30).isAtMostZero = false := by decide
  cases hurl : isOnlySlashes url <;> rw [isOnlySlashes] at hurl <;>
    simp [make, hurl, hkey, hpages, htime, named]

end ScannerSettings

/-! ## Single variables -/

namespace Environment

variable {E E' : Environment} {name : String}

theorem get?_cons (known : String) (value : Text) (E : Environment) (name : String) :
    get? ((Text.ofString known, value) :: E) name =
      if name = known then some value else E.get? name := by
  by_cases h : name = known
  · simp [get?, h]
  · have hne : (Text.ofString name == Text.ofString known) = false :=
      beq_false_of_ne fun heq => h (Text.ofString_injective heq)
    simp [get?, List.lookup_cons, hne, h]

theorem given?_eq (E : Environment) (name : String) : E.given? name = given (E.get? name) := rfl

/-- What is read of a variable depends on nothing but its value. -/
theorem int_congr (h : E.get? name = E'.get? name) (other : Int) :
    E.int name other = E'.int name other := by
  rw [int, int, given?_eq, given?_eq, h]

theorem reads_int (E : Environment) (name : String) (other : Int) :
    ReadsOr Fault.isOfConfig (∃ n, E.int name other = .ok n) (E.int name other) := by
  rw [int]
  split
  · exact ⟨_, rfl⟩
  · split
    · exact ⟨_, rfl⟩
    · exact ⟨nofun, rfl⟩

/-- The scanner depends on nothing but the four variables that are about it. -/
theorem scanner_congr (hurl : E.get? "SONAR_HOST_URL" = E'.get? "SONAR_HOST_URL")
    (hkey : E.get? "SONAR_PROJECT_KEY" = E'.get? "SONAR_PROJECT_KEY")
    (htoken : E.get? "SONAR_TOKEN" = E'.get? "SONAR_TOKEN")
    (hbranch : E.get? "SONAR_BRANCH" = E'.get? "SONAR_BRANCH") : E.scanner = E'.scanner := by
  simp only [scanner, given?_eq, hurl, hkey, htoken, hbranch]

/-- The settings of the fix phase depend on nothing but the three variables that are about it. -/
theorem fix_congr (hattempts : E.get? "MAX_FIX_ATTEMPTS" = E'.get? "MAX_FIX_ATTEMPTS")
    (htests : E.get? "RUN_TESTS" = E'.get? "RUN_TESTS")
    (hmodel : E.get? "REMEDIATION_MODEL" = E'.get? "REMEDIATION_MODEL") : E.fix = E'.fix := by
  simp only [fix, given?_eq, int_congr hattempts, htests, hmodel]

/-- An environment that names a scanner. -/
theorem scanner_eq {url projectKey : Text} (hurl : E.given? "SONAR_HOST_URL" = some url)
    (hkey : E.given? "SONAR_PROJECT_KEY" = some projectKey) :
    E.scanner = if isOnlySlashes url then .error (.config .emptyUrl)
      else .ok (some (.named url projectKey (E.get? "SONAR_TOKEN") (E.given? "SONAR_BRANCH"))) := by
  have hne : projectKey ≠ [] := ne_nil_of_given hkey
  rw [scanner, hurl, hkey]
  simp only [ScannerSettings.make_eq hne]
  split <;> rfl

/-- An environment that names no scanner. -/
theorem scanner_eq_none (h : E.given? "SONAR_HOST_URL" = none ∨ E.given? "SONAR_PROJECT_KEY" = none) :
    E.scanner = .ok none := by
  rw [scanner]
  split
  · rename_i hurl hkey
    rcases h with h | h <;> simp_all
  · rfl

/-- Whether the value of a variable can be used as what it is for: a limit is a number from one on,
and the address of a scanner, if a project is named as well, is more than slashes. -/
structure IsUsable (E : Environment) (name : String) : Prop where
  maxIssues : name = "MAX_ISSUES" → ∃ n, E.int name 500 = .ok n ∧ 1 ≤ n
  maxAttempts : name = "MAX_FIX_ATTEMPTS" → ∃ n, E.int name 3 = .ok n ∧ 1 ≤ n
  scanner : name = "SONAR_HOST_URL" ∨ name = "SONAR_PROJECT_KEY" →
    ∀ url, E.given? "SONAR_HOST_URL" = some url → E.given? "SONAR_PROJECT_KEY" ≠ none →
      isOnlySlashes url = false

/-- A scanner can be made of what the environment says. -/
theorem reads_scanner (E : Environment) :
    ReadsOr Fault.isOfConfig (E.IsUsable "SONAR_HOST_URL") E.scanner := by
  cases hurl : E.given? "SONAR_HOST_URL" with
  | none =>
      rw [scanner_eq_none (.inl hurl)]
      exact ⟨by simp, by simp, fun _ url h => by simp [hurl] at h⟩
  | some url =>
      cases hkey : E.given? "SONAR_PROJECT_KEY" with
      | none =>
          rw [scanner_eq_none (.inr hkey)]
          exact ⟨by simp, by simp, fun _ _ _ h => absurd hkey h⟩
      | some projectKey =>
          rw [scanner_eq hurl hkey]
          cases hslashes : isOnlySlashes url with
          | true =>
              refine ⟨fun h => ?_, rfl⟩
              have hnot := h.scanner (.inl rfl) url hurl (by simp [hkey])
              simp [hslashes] at hnot
          | false =>
              refine ⟨by simp, by simp, fun _ u hu _ => ?_⟩
              rw [← Option.some.inj (hurl.symm.trans hu), hslashes]

end Environment

/-! ## Limits -/

theorem Selectors.reads_make (categories : List Category) (severities : List Severity) (n : Int) :
    ReadsOr Fault.isOfConfig (1 ≤ n) (Selectors.make categories severities n) := by
  rw [Selectors.make]
  split
  · rename_i h
    show 1 ≤ n
    omega
  · exact ⟨by omega, rfl⟩

theorem FixSettings.reads_make (d : FixSettings.Draft) (htimeout : d.buildTimeout.isAtMostZero = false) :
    ReadsOr Fault.isOfConfig (1 ≤ d.maxAttempts) (FixSettings.make d) := by
  rw [FixSettings.make]
  split
  · rename_i h
    rw [if_neg (by simp [htimeout])]
    show 1 ≤ d.maxAttempts
    omega
  · exact ⟨by omega, rfl⟩

/-- The environment says how hard to try just if the number of attempts is of use. -/
theorem Environment.reads_fix (E : Environment) :
    ReadsOr Fault.isOfConfig (E.IsUsable "MAX_FIX_ATTEMPTS") E.fix := by
  have htimeout : (Number.real 900).isAtMostZero = false := by decide
  refine (E.reads_int "MAX_FIX_ATTEMPTS" 3).bind (fun h => ?_) fun n hn => ?_
  · obtain ⟨n, hn, -⟩ := h.maxAttempts rfl
    exact ⟨n, hn⟩
  · refine (FixSettings.reads_make _ htimeout).congr ⟨fun hpos => ?_, fun h => ?_⟩
    · exact ⟨by simp, fun _ => ⟨n, hn, hpos⟩, by simp⟩
    · obtain ⟨m, hm, hpos⟩ := h.maxAttempts rfl
      exact Except.ok.inj (hm.symm.trans hn) ▸ hpos

/-! ## Configurations -/

/-- The settings of the fix phase of a command, which are its own only where files are fixed. -/
def Arguments.fixIn (a : Arguments) (mode : RunMode) (known : FixSettings) :
    Except Fault FixSettings :=
  if mode == .fix then a.fix known else pure known

namespace Config

/-- Without a command, the settings are those of a plan of everything. -/
theorem ofEnvironment_eq (projectDir : Path) (E : Environment) :
    Config.ofEnvironment projectDir E = (do
      let scanner ← E.scanner
      let maxIssues ← E.int "MAX_ISSUES" 500
      let fix ← E.fix
      let selectors ← Selectors.make Category.all Severity.descending maxIssues
      return {
        projectDir, mode := .plan, scanner, localScan := {}, selectors, fix
        selectedKeys := none }) := rfl

/-- What a command makes of the settings that the environment gives. -/
def settled (a : Arguments) (mode : RunMode) (E : Environment) (known : Config) :
    Except Fault Config := do
  let scanner ← a.scanner E known.scanner
  let fix ← a.fixIn mode known.fix
  let selectedKeys := if mode == .fix then (given a.issues).map Arguments.keys else none
  let categories ← ((given a.categories).map Category.list).getD (.ok Category.all)
  let severities ← ((given a.severities).map Severity.list).getD (.ok Severity.descending)
  Config.make {
    projectDir := .ofText a.projectDir, mode, scanner, localScan := { deepScan := a.deepScan }
    categories, severities, maxIssues := a.maxIssues.getD known.selectors.maxIssues, fix
    selectedKeys }

theorem ofArguments_eq (a : Arguments) (mode : RunMode) (E : Environment) :
    Config.ofArguments a mode E =
      Config.ofEnvironment (.ofText a.projectDir) E >>= settled a mode E := by
  cases mode <;> rfl

/-- What a command makes of known settings depends on nothing but what it asks of them. -/
theorem settled_congr {a : Arguments} {mode : RunMode} {E E' : Environment} {known known' : Config}
    (hscanner : a.scanner E known.scanner = a.scanner E' known'.scanner)
    (hfix : a.fixIn mode known.fix = a.fixIn mode known'.fix)
    (hmaxIssues : a.maxIssues.getD known.selectors.maxIssues =
      a.maxIssues.getD known'.selectors.maxIssues) :
    settled a mode E known = settled a mode E' known' := by
  simp only [settled, hscanner, hfix, hmaxIssues]

/-- The environment gives settings just if all its variables are of use, and is refused otherwise. -/
theorem reads_ofEnvironment (projectDir : Path) (E : Environment) :
    ReadsOr Fault.isOfConfig (∀ name, E.IsUsable name) (Config.ofEnvironment projectDir E) := by
  rw [ofEnvironment_eq]
  refine E.reads_scanner.bind (fun h => h _) fun scanner hscanner => ?_
  refine (E.reads_int "MAX_ISSUES" 500).bind (fun h => ?_) fun n hn => ?_
  · obtain ⟨n, hn, -⟩ := (h _).maxIssues rfl
    exact ⟨n, hn⟩
  refine E.reads_fix.bind (fun h => h _) fun fix hfix => ?_
  refine (Selectors.reads_make _ _ n).bind (fun h => ?_) fun selectors hselectors => ?_
  · obtain ⟨m, hm, hpos⟩ := (h _).maxIssues rfl
    exact Except.ok.inj (hm.symm.trans hn) ▸ hpos
  have hpos : 1 ≤ n := (Selectors.reads_make ..).of_ok hselectors
  intro name
  exact {
    maxIssues := fun h => h ▸ ⟨n, hn, hpos⟩
    maxAttempts := fun h => h ▸ (E.reads_fix.of_ok hfix).maxAttempts rfl
    scanner := fun _ => (E.reads_scanner.of_ok hscanner).scanner (.inl rfl) }

/-- A variable of no use is enough for a refusal, whatever the command says. -/
theorem refused_of_not_isUsable {a : Arguments} {mode : RunMode} {E : Environment} {name : String}
    (h : ¬E.IsUsable name) :
    ∃ fault, Config.ofEnvironment (.ofText a.projectDir) E = .error (.config fault) ∧
      Config.ofArguments a mode E = .error (.config fault) := by
  have hreads := reads_ofEnvironment (.ofText a.projectDir) E
  rw [ofArguments_eq]
  cases hknown : Config.ofEnvironment (.ofText a.projectDir) E with
  | ok known => exact absurd (hreads.of_ok hknown name) h
  | error e =>
      rw [hknown] at hreads
      cases e with
      | config fault => exact ⟨fault, rfl, rfl⟩
      | _ => cases hreads.2

end Config

end Mend
