import Mend.Proofs.Plan.Requests
import Mend.Proofs.Scan.Identity
import Mend.Proofs.Settings.Environment
import Mend.Proofs.Text.Joined

/-!
# Keys on the command line

A command names the issues to fix by their keys, in a list between commas. The list is cut apart at
every comma, and blanks around a key are dropped, with no way to keep either. A key of a local scan
begins with the path of a file and ends with a number, so what cannot be listed are the keys of files
whose paths have a comma in them or begin with a blank; all others are found again, in whatever order
and however often they are listed.

## Main definitions

* `Arguments.IsListable` — whether a text can be one of the keys in a list.
* `Config.picking` — the settings of the same job for certain keys.

## Main statements

* `Config.ofArguments_issues` — what a list of keys makes of the settings of a command.
* `Arguments.strip_commaParts_join` — keys that can be listed are read back.
* `Plan.find_keys_join_picks`, `Plan.find_keys_join` — which issues a list of keys of a plan picks, and
  which lists pick exactly the issues that have these keys.
* `Scan.find_listed` — keys of a local scan on the command line.
-/

namespace Mend

open Value Text

/-! ## Keys in lists -/

namespace Arguments

variable {k t : Text} {ks : List Text}

/-- The keys that a list between commas can hold. -/
structure IsListable (k : Text) : Prop where
  comma_notMem : (0x2C : Code) ∉ k
  isBlank_head : ∀ c ∈ k.head?, isBlank c = false

theorem keys_eq (t : Text) :
    keys t = ((commaParts t).map Text.strip).eraseDups.map .text := by
  rw [← distinct_texts, keys, List.map_map]
  rfl

/-- Whatever is read of a list can be listed. -/
theorem isListable_of_mem (h : k ∈ (commaParts t).map Text.strip) : IsListable k := by
  obtain ⟨part, hpart, rfl⟩ := List.mem_map.1 h
  have hcomma : (0x2C : Code) ∉ part := Text.notMem_of_mem_splitOn (List.mem_filter.1 hpart).1
  exact ⟨fun h => hcomma ((Text.infix_trim isBlank part).subset h), fun c hc => Text.of_head?_trim hc⟩

/-- A key that can be listed is read back from every list that it is in, if it does not end with a
blank. -/
theorem mem_strip_commaParts_join (hk : k ∈ ks) (hlistable : IsListable k)
    (hends : k ≠ [] ∧ ∀ c ∈ k.getLast?, isBlank c = false) :
    k ∈ (commaParts (Text.join "," ks)).map Text.strip := by
  have hstrip : k.strip = k := Text.trim_eq_self hlistable.isBlank_head hends.2
  have hcut : k ∈ (Text.join "," ks).splitOn 0x2C := by
    have hown : k ∈ k.splitOn 0x2C := by
      rw [Text.splitOn_of_notMem hlistable.comma_notMem]
      exact List.mem_singleton_self k
    rw [show Text.join "," ks = Text.join [0x2C] ks from rfl,
      Text.splitOn_join_eq_flatMap (List.ne_nil_of_mem hk)]
    exact List.mem_flatMap.2 ⟨k, hk, hown⟩
  have hfilled : (!k.strip.isEmpty) = true := by
    rw [hstrip]
    simpa using hends.1
  exact List.mem_map.2 ⟨k, List.mem_filter.2 ⟨hcut, hfilled⟩, hstrip⟩

/-- Keys that can be listed are read back from their list, if they do not end with a blank. -/
theorem strip_commaParts_join (hne : ks ≠ []) (hlistable : ∀ k ∈ ks, IsListable k)
    (hends : ∀ k ∈ ks, k ≠ [] ∧ ∀ c ∈ k.getLast?, isBlank c = false) :
    (commaParts (Text.join "," ks)).map Text.strip = ks := by
  have hstrip : ∀ k ∈ ks, k.strip = k := fun k hk =>
    Text.trim_eq_self (hlistable k hk).isBlank_head (hends k hk).2
  have hcut : (Text.join "," ks).splitOn 0x2C = ks :=
    Text.splitOn_join hne fun k hk => (hlistable k hk).comma_notMem
  have hfilled : ks.filter (fun part => !part.strip.isEmpty) = ks := by
    rw [List.filter_eq_self]
    intro k hk
    rw [hstrip k hk]
    simpa using (hends k hk).1
  rw [commaParts, hcut, hfilled, List.map_congr_left hstrip, List.map_id']

end Arguments

/-! ## Settings for certain keys -/

namespace Config

/-- The settings of the same job for issues with these keys. -/
def picking (c : Config) (keys : List Value) : Config := { c with selectedKeys := some keys }

/-- Where files are fixed, whether settings can be made depends on no keys. -/
theorem make_picking {d : Draft} {keys : List Value} (hmode : d.mode = .fix)
    (hkeys : d.selectedKeys = some keys) :
    Config.make d = (·.picking keys) <$> Config.make { d with selectedKeys := none } := by
  simp only [Config.make, hmode, hkeys, map_bind]
  refine bind_congr fun selectors => ?_
  split
  · rfl
  split
  · rfl
  · rfl

/-- A list of keys has no effect on the settings but for the keys. -/
theorem ofArguments_issues (a : Arguments) (E : Environment) {t : Text} (ht : t ≠ []) :
    Config.ofArguments { a with issues := some t } .fix E =
      (·.picking (Arguments.keys t)) <$> Config.ofArguments { a with issues := none } .fix E := by
  rw [ofArguments_eq, ofArguments_eq, map_bind]
  refine bind_congr fun known => ?_
  simp only [settled, given_of_ne_nil ht, given_none, map_bind]
  refine bind_congr fun scanner => ?_
  refine bind_congr fun fix => ?_
  refine bind_congr fun categories => ?_
  refine bind_congr fun severities => ?_
  exact make_picking rfl rfl

/-- Without further options and variables, a list of keys makes settings for these keys. -/
theorem exists_ofArguments_issues {t : Text} (ht : t ≠ []) :
    ∃ c, Config.ofArguments { issues := some t } .fix [] = .ok c ∧
      c.selectedKeys = some (Arguments.keys t) := by
  have hissues := ofArguments_issues {} [] ht
  have hok : (Config.ofArguments {} .fix []).isOk = true := by decide +kernel
  obtain ⟨c, hsettings⟩ := exists_of_isOk hok
  refine ⟨c.picking (Arguments.keys t), ?_, rfl⟩
  rw [hissues, hsettings]
  rfl

end Config

/-! ## Keys of a local scan -/

namespace KeyFactory

/-- A key ends with a number, and so with no blank. -/
theorem ends_keyText (path : Text) (line : Int) (n : Nat) :
    keyText (placeText path line) n ≠ [] ∧
      ∀ c ∈ (keyText (placeText path line) n).getLast?, isBlank c = false := by
  have hmark {c : Code} (hc : c ∈ colon :: (Text.ofInt line ++ numberText n)) : isBlank c = false := by
    rcases List.mem_cons.1 hc with rfl | hc
    · decide
    rcases List.mem_append.1 hc with hc | hc
    · rcases mem_ofInt hc with rfl | hdigit
      · decide
      · exact isBlank_of_isAsciiDigit hdigit
    · unfold numberText at hc
      split at hc
      · cases hc
      · rcases List.mem_cons.1 hc with rfl | hdigit
        · decide
        · exact isBlank_of_isAsciiDigit (isAsciiDigit_of_mem_decimal n c hdigit)
  rw [keyText_placeText]
  refine ⟨by simp, fun c hc => hmark ?_⟩
  rw [List.getLast?_append_cons] at hc
  exact List.mem_of_mem_getLast? hc

end KeyFactory

namespace Plan

variable {p : Plan} {ks : List Text}

/-- A request for keys is answered if all keys of the plan are texts. -/
theorem exists_answers (htext : ∀ i ∈ p.all, i.key.IsText) (wanted : List Text) :
    ∃ s, p.find (some (wanted.map .text)) = .ok s ∧ s.Answers p wanted := by
  obtain ⟨unknown, hsorted, hunknown, hfind⟩ := exists_unknown p wanted
  rw [find?_isAtomic_eq_none htext] at hfind
  exact ⟨_, hfind, answers_answer hsorted hunknown⟩

/-- Of a plan whose issues all lie in files, a list of keys picks the issues of those that can be listed,
and no others of the issues that have these keys. -/
theorem find_keys_join_picks (htext : ∀ i ∈ p.all, i.key.IsText) (hlocated : p.unlocatable = [])
    (hks : ∀ k ∈ ks, ∃ i ∈ p.all, i.key = .text k)
    (hends : ∀ k ∈ ks, k ≠ [] ∧ ∀ c ∈ k.getLast?, isBlank c = false) :
    ∃ s, p.find (some (Arguments.keys (Text.join "," ks))) = .ok s ∧
      ∀ k ∈ ks, (∃ g ∈ s.groups, ∃ i ∈ g.issues, i.key = .text k) ↔ Arguments.IsListable k := by
  obtain ⟨s, hfind, hanswers⟩ :=
    exists_answers htext ((commaParts (Text.join "," ks)).map Text.strip).eraseDups
  rw [Arguments.keys_eq]
  refine ⟨s, hfind, fun k hk => ?_⟩
  have hread : k ∈ ((commaParts (Text.join "," ks)).map Text.strip).eraseDups ↔
      Arguments.IsListable k := by
    rw [List.mem_eraseDups]
    exact ⟨Arguments.isListable_of_mem, fun h => Arguments.mem_strip_commaParts_join hk h (hends k hk)⟩
  rw [← hread]
  constructor
  · rintro ⟨g, hg, i, hi, hkey⟩
    have he : (g.path, i) ∈ entries s.groups := mem_entries.2 ⟨g, hg, rfl, hi⟩
    rw [hanswers.located] at he
    obtain ⟨k', hk', hkey'⟩ := isRequested_iff.1 (List.mem_filter.1 he).2
    rwa [Value.text.inj (hkey.symm.trans hkey')]
  · intro hwanted
    obtain ⟨i, hi, hkey⟩ := hks k hk
    obtain ⟨names, hnames, -, hunknown⟩ := hanswers.unknown
    have hcovered := hanswers.covered k hwanted
    have hnowhere : Value.text k ∉ s.unlocatable := by
      simp [hanswers.unlocatable, hlocated]
    have hknown : Value.text k ∉ s.unknown := by
      rw [hnames]
      intro h
      obtain ⟨k', hk', hsame⟩ := List.mem_map.1 h
      exact ((hunknown k').1 hk').2 i hi (hkey.trans hsame.symm)
    obtain ⟨e, he, hkey⟩ := hcovered.resolve_right (by simp [hnowhere, hknown])
    obtain ⟨g, hg, -, hmem⟩ := mem_entries.1 he
    exact ⟨g, hg, e.2, hmem, hkey⟩

/-- Of a plan whose issues all lie in files, a list of keys picks the issues that have these keys, and
leaves no key over, just if each of the keys can be listed. -/
theorem find_keys_join (htext : ∀ i ∈ p.all, i.key.IsText) (hlocated : p.unlocatable = [])
    (hne : ks ≠ []) (hks : ∀ k ∈ ks, ∃ i ∈ p.all, i.key = .text k)
    (hends : ∀ k ∈ ks, k ≠ [] ∧ ∀ c ∈ k.getLast?, isBlank c = false) :
    (∃ s, p.find (some (Arguments.keys (Text.join "," ks))) = .ok s ∧ s.Answers p ks ∧
      s.unlocatable = [] ∧ s.unknown = []) ↔ ∀ k ∈ ks, Arguments.IsListable k := by
  constructor
  · rintro ⟨s, hfind, hanswers, hnowhere, hknown⟩ k hk
    obtain ⟨e, he, hkey⟩ : ∃ e ∈ entries s.groups, e.2.key = .text k := by
      have hcovered := hanswers.covered k hk
      simpa [hnowhere, hknown] using hcovered
    obtain ⟨g, hg, -, hmem⟩ := mem_entries.1 he
    obtain ⟨s', hfind', hpicks⟩ := find_keys_join_picks htext hlocated hks hends
    obtain rfl : s = s' := Except.ok.inj (hfind.symm.trans hfind')
    exact (hpicks k hk).1 ⟨g, hg, e.2, hmem, hkey⟩
  · intro hlistable
    obtain ⟨s, hfind, hanswers⟩ := exists_answers htext ks
    refine ⟨s, ?_, hanswers, ?_, ?_⟩
    · rw [Arguments.keys_eq, Arguments.strip_commaParts_join hne hlistable hends,
        find_congr p fun k => List.mem_eraseDups, hfind]
    · rw [hanswers.unlocatable, hlocated]
      rfl
    · obtain ⟨names, hnames, -, hunknown⟩ := hanswers.unknown
      rw [hnames, List.map_eq_nil_iff, List.eq_nil_iff_forall_not_mem]
      intro k hk
      obtain ⟨hmem, hnone⟩ := (hunknown k).1 hk
      obtain ⟨i, hi, hkey⟩ := hks k hmem
      exact hnone i hi hkey

end Plan

namespace Scan

variable {σ : Type} {s : LocalSettings} {projectDir : Path} {detectors : List Detector}
  {model : Option (DeepScanner σ)} {selectors : Selectors} {w w' : World σ} {r : ScanResult}
  {usedRemote : Bool} {p : Plan}

/-- The issues of a plan that is made from a local scan have keys from a factory, and lie in files. -/
theorem plan_of_fetchLocal (hproper : w.tree.IsProper)
    (hscan : ((fetchLocal s projectDir detectors model selectors).run w).1 = .ok r)
    (hplan : ((Plan.build r.issues r.facets usedRemote r.truncated).run w').1 = .ok p) :
    (∀ i ∈ p.all, ∃ path line n,
      i.key = .text (KeyFactory.keyText (KeyFactory.placeText path line) n)) ∧
    p.unlocatable = [] := by
  obtain ⟨⟨calls, hkeys⟩, hfiles⟩ := issues_of_fetchLocal hscan
  obtain rfl := Plan.eq_of_build hplan
  refine ⟨fun i hi => ?_, ?_⟩
  · have hmem : i.key ∈ r.issues.map (·.key) :=
      List.mem_map_of_mem (Plan.mem_of_mem_all_ofIssues hi)
    obtain ⟨key, hgiven, hkey⟩ := List.mem_map.1 (hkeys.subset hmem)
    obtain ⟨path, line, n, rfl, -⟩ := KeyFactory.exists_of_mem_given hgiven
    exact ⟨path, line, n, hkey.symm⟩
  · refine List.filter_eq_nil_iff.2 fun i hi => ?_
    obtain ⟨f, hf, hpath⟩ := hfiles i hi
    have hlocatable : i.isLocatable = true := by
      rw [Issue.isLocatable, hpath]
      simpa [isGiven] using path_ne_nil hproper hf
    simp [hlocatable]

/-- Keys of a plan that is made from a local scan, in a list on the command line. The list has no
effect on the settings but for the keys, so a command that is given one is refused just if it is
refused without. The issues that are picked are those with these keys, all of them in the order of the
plan, and no key is left over, just if none of the keys has a comma in it or begins with a blank. The
issue of such a key is not picked, those of the other keys in the list are. -/
theorem find_listed (hproper : w.tree.IsProper)
    (hscan : ((fetchLocal s projectDir detectors model selectors).run w).1 = .ok r)
    (hplan : ((Plan.build r.issues r.facets usedRemote r.truncated).run w').1 = .ok p)
    {ks : List Text} (hne : ks ≠ []) (hks : ∀ k ∈ ks, ∃ i ∈ p.all, i.key = .text k) :
    let listed := Arguments.keys (Text.join "," ks)
    (∀ (a : Arguments) (E : Environment),
      Config.ofArguments { a with issues := some (Text.join "," ks) } .fix E =
        (·.picking listed) <$> Config.ofArguments { a with issues := none } .fix E) ∧
    ((∃ picked, p.find (some listed) = .ok picked ∧ picked.Answers p ks ∧ picked.unlocatable = [] ∧
      picked.unknown = []) ↔ ∀ k ∈ ks, Arguments.IsListable k) ∧
    ∃ picked, p.find (some listed) = .ok picked ∧
      ∀ k ∈ ks, (∃ g ∈ picked.groups, ∃ i ∈ g.issues, i.key = .text k) ↔ Arguments.IsListable k := by
  intro listed
  obtain ⟨hkeys, hlocated⟩ := plan_of_fetchLocal hproper hscan hplan
  have hends : ∀ k ∈ ks, k ≠ [] ∧ ∀ c ∈ k.getLast?, isBlank c = false := by
    intro k hk
    obtain ⟨i, hi, hkey⟩ := hks k hk
    obtain ⟨path, line, n, hplace⟩ := hkeys i hi
    obtain rfl := Value.text.inj (hkey.symm.trans hplace)
    exact KeyFactory.ends_keyText path line n
  have htext : ∀ i ∈ p.all, i.key.IsText := fun i hi => by
    obtain ⟨path, line, n, hkey⟩ := hkeys i hi
    exact ⟨_, hkey⟩
  have hfilled : Text.join "," ks ≠ [] := Text.join_ne_nil hne fun k hk => (hends k hk).1
  exact ⟨fun a E => Config.ofArguments_issues a E hfilled,
    Plan.find_keys_join htext hlocated hne hks hends,
    Plan.find_keys_join_picks htext hlocated hks hends⟩

/-! ## Files with odd names -/

/-- A project with three files, in each of which the program ends itself. The name of one begins with a
blank, and that of another has a comma in it. -/
def oddTree : Tree :=
  ⟨.dir [(Text.ofString " C.java", .file ((Text.ofString "System.exit(1);").map (·.toUInt8))),
    (Text.ofString "A.java", .file ((Text.ofString "System.exit(1);").map (·.toUInt8))),
    (Text.ofString "a,b.java", .file ((Text.ofString "System.exit(1);").map (·.toUInt8)))]⟩

theorem isProper_oddTree : oddTree.IsProper := by
  refine .dir (by decide) ?_ ?_
  · rw [List.forall_mem_cons, List.forall_mem_cons, List.forall_mem_singleton]
    exact ⟨⟨by decide, by decide⟩, ⟨by decide, by decide⟩, by decide, by decide⟩
  · rw [List.forall_mem_cons, List.forall_mem_cons, List.forall_mem_singleton]
    exact ⟨.file _, .file _, .file _⟩

/-- What a scan of the project finds, and what is found for the keys that lists are read as. -/
theorem run_fetchLocal_oddTree :
    ∃ r p, ((fetchLocal thorough {} Detector.standard (none : Option (DeepScanner Unit)) {}).run
        { tree := oddTree, extra := () }).1 = .ok r ∧
      ((Plan.build r.issues r.facets false r.truncated).run ({ extra := () } : World Unit)).1 = .ok p ∧
      p.all.map (·.key) = [.str " C.java:1", .str "A.java:1", .str "a,b.java:1"] ∧
      p.find (some [.str "a", .str "b.java:1"]) =
        .ok { groups := [], unknown := [.str "a", .str "b.java:1"] } ∧
      p.find (some [.str "C.java:1"]) = .ok { groups := [], unknown := [.str "C.java:1"] } := by
  have hfiles : projectFiles thorough {} oddTree =
      [⟨Text.ofString " C.java", (Text.ofString "System.exit(1);").map (·.toUInt8)⟩,
        ⟨Text.ofString "A.java", (Text.ofString "System.exit(1);").map (·.toUInt8)⟩,
        ⟨Text.ofString "a,b.java", (Text.ofString "System.exit(1);").map (·.toUInt8)⟩] := by cbv
  -- Numerals are not computed by unfolding, so the one of the line is written out first.
  have hplace (path : Text) : KeyFactory.placeText path (1 : Nat) = path ++ Text.ofString ":1" := by
    have hline : Text.ofInt (1 : Nat) = Text.ofString "1" := Text.decimal_of_lt (by decide)
    rw [KeyFactory.placeText, hline]
    simp [Text.cat, Text.ofString]
  have hbuild (r : ScanResult) (h : (Plan.ofIssues r.issues r.facets false r.truncated).effort = 90) :
      ((Plan.build r.issues r.facets false r.truncated).run ({ extra := () } : World Unit)).1 =
        .ok (Plan.ofIssues r.issues r.facets false r.truncated) := by
    have hfits : Numeral.fits 90 = true := Numeral.fits_of_lt_million (n := 90) (by decide)
    rw [Plan.run_build, h, if_pos hfits]
  rw [fetchLocal, Act.run_bind_ok (Act.run_get _)]
  dsimp only
  rw [hfiles]
  refine ⟨_, _, rfl, hbuild _ rfl, ?_⟩
  simp only [hplace]
  exact ⟨rfl, rfl, rfl⟩

/-- The issue in the file with a plain name is picked by its key. -/
theorem find_listed_plain :
    oddTree.IsProper ∧ ∃ r p,
      ((fetchLocal thorough {} Detector.standard (none : Option (DeepScanner Unit)) {}).run
        { tree := oddTree, extra := () }).1 = .ok r ∧
      ((Plan.build r.issues r.facets false r.truncated).run ({ extra := () } : World Unit)).1 = .ok p ∧
      (∃ i ∈ p.all, i.key = .str "A.java:1") ∧
      ∃ c picked, Config.ofArguments { issues := some "A.java:1" } .fix [] = .ok c ∧
        p.find c.selectedKeys = .ok picked ∧ picked.Answers p ["A.java:1"] ∧
        picked.unlocatable = [] ∧ picked.unknown = [] := by
  obtain ⟨r, p, hscan, hplan, hkeys, -⟩ := run_fetchLocal_oddTree
  obtain ⟨i, hi, hkey⟩ : ∃ i ∈ p.all, i.key = .str "A.java:1" :=
    List.mem_map.1 (hkeys ▸ List.mem_cons_of_mem _ (List.mem_cons_self ..))
  have hks : ∀ k ∈ [Text.ofString "A.java:1"], ∃ i ∈ p.all, i.key = .text k :=
    List.forall_mem_singleton.2 ⟨i, hi, hkey⟩
  have hlistable : ∀ k ∈ [Text.ofString "A.java:1"], Arguments.IsListable k :=
    List.forall_mem_singleton.2 ⟨by decide, by decide⟩
  obtain ⟨picked, hfind, hpicked⟩ :=
    (find_listed isProper_oddTree hscan hplan (List.cons_ne_nil _ _) hks).2.1.2 hlistable
  obtain ⟨c, hc, hselected⟩ := Config.exists_ofArguments_issues (t := "A.java:1") (by decide)
  exact ⟨isProper_oddTree, r, p, hscan, hplan, ⟨i, hi, hkey⟩, c, picked, hc, hselected ▸ hfind, hpicked⟩

/-- The issues in the two other files are not picked by their keys. With a comma, the two halves of the
key are unknown; with a blank, what is left of it is. -/
theorem find_listed_odd :
    oddTree.IsProper ∧ ∃ r p,
      ((fetchLocal thorough {} Detector.standard (none : Option (DeepScanner Unit)) {}).run
        { tree := oddTree, extra := () }).1 = .ok r ∧
      ((Plan.build r.issues r.facets false r.truncated).run ({ extra := () } : World Unit)).1 = .ok p ∧
      (∃ i ∈ p.all, i.key = .str "a,b.java:1") ∧ (∃ i ∈ p.all, i.key = .str " C.java:1") ∧
      (∃ c, Config.ofArguments { issues := some (Text.join "," ["a,b.java:1"]) } .fix [] = .ok c ∧
        p.find c.selectedKeys = .ok { groups := [], unknown := [.str "a", .str "b.java:1"] }) ∧
      ∃ c, Config.ofArguments { issues := some (Text.join "," [" C.java:1"]) } .fix [] = .ok c ∧
        p.find c.selectedKeys = .ok { groups := [], unknown := [.str "C.java:1"] } := by
  obtain ⟨r, p, hscan, hplan, hkeys, hhalves, hrest⟩ := run_fetchLocal_oddTree
  refine ⟨isProper_oddTree, r, p, hscan, hplan, ?_, ?_, ?_, ?_⟩
  · exact List.mem_map.1 (hkeys ▸ List.mem_cons_of_mem _ (List.mem_cons_of_mem _ (List.mem_cons_self ..)))
  · exact List.mem_map.1 (hkeys ▸ List.mem_cons_self ..)
  · obtain ⟨c, hc, hselected⟩ :=
      Config.exists_ofArguments_issues (t := Text.join "," ["a,b.java:1"]) (by decide)
    have hread : (commaParts (Text.join "," ["a,b.java:1"])).map Text.strip =
        [Text.ofString "a", Text.ofString "b.java:1"] := by decide +kernel
    refine ⟨c, hc, ?_⟩
    rw [hselected, Arguments.keys_eq, hread]
    exact hhalves
  · obtain ⟨c, hc, hselected⟩ :=
      Config.exists_ofArguments_issues (t := Text.join "," [" C.java:1"]) (by decide)
    have hread : (commaParts (Text.join "," [" C.java:1"])).map Text.strip =
        [Text.ofString "C.java:1"] := by decide +kernel
    refine ⟨c, hc, ?_⟩
    rw [hselected, Arguments.keys_eq, hread]
    exact hrest

end Scan

end Mend
