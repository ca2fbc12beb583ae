import Mend.Proofs.Issue.Efforts
import Mend.Proofs.Scanner.Honest
import Mend.Proofs.Json.Written
import Mathlib

/-!
# Scanners that keep a catalogue

A scanner that keeps a catalogue of findings reads in the fields of a question which findings are
asked for, and answers with a document of the page. Whatever can be written in documents can be kept
in a catalogue, and such a scanner is honest about it. The library through which it is asked takes
every access and brings every answer back.

## Main definitions

* `Catalogue` — findings that can be kept.
* `Catalogue.server` — the scanner that keeps them.
* `shop` — a catalogue with as many findings as are wished for.

## Main statements

* `Catalogue.honest` — the scanner is honest about its catalogue.
* `Catalogue.exists_preflight` — and it is there for everybody who asks.
-/

namespace Mend

namespace Scanner

/-! ## Documents -/

/-- The document of a finding. -/
def Finding.document (f : Finding) : Value :=
  .record [
    ("key", .text f.key),
    ("rule", .text f.rule),
    ("type", .text f.category.name),
    ("severity", .text f.severity.name),
    ("message", .text f.message),
    ("component", .text f.component),
    ("textRange",
      .opt (fun l => .record [("startLine", .nat l.1), ("endLine", .nat l.2)]) f.lines),
    ("effort", .text (.cat [.decimal f.effort, "min"])),
    ("tags", .texts f.tags)]

/-- The document of a file. -/
def fileDocument (component path : Text) : Value :=
  .record [("qualifier", .str "FIL"), ("key", .text component), ("path", .text path)]

/-- The document that counts findings by a property. -/
def facetDocument {α : Type} [BEq α] (property : String) (name : α → Text) (all : List α)
    (value : Finding → α) (fs : List Finding) : Value :=
  .record [
    ("property", .str property),
    ("values", .list (all.map fun a =>
      .record [("val", .text (name a)), ("count", .nat (fs.countP (value · == a)))]))]

/-- The document that answers a search for some findings. -/
def answerDocument (fs : List Finding) (size number : Nat) : Value :=
  let shown := pageSlice fs size number
  .record [
    ("paging", .record [("total", .nat fs.length)]),
    ("issues", .list (shown.map (·.document))),
    ("components", .list (shown.filterMap fun f => f.path.map (fileDocument f.component))),
    ("facets", .list [
      facetDocument "severities" Severity.name Severity.descending (·.severity) fs,
      facetDocument "types" Category.name Category.all (·.category) fs])]

/-! ## Catalogues -/

/-- The findings that can be written in documents: their texts consist of characters, their lines are
counted from one, and their numbers are not too long. -/
structure Finding.IsSendable (f : Finding) : Prop where
  texts : ∀ t ∈ f.key :: f.rule :: f.message :: f.component :: f.path.getD [] :: f.tags,
    ∀ c ∈ t, Text.isScalar c = true
  lines : ∀ l, f.lines = some l → 1 ≤ l.1 ∧ l.1 ≤ l.2 ∧ Numeral.fits l.2 = true
  effort : Numeral.fits f.effort = true
  path : f.path ≠ some []

/-- Findings that a scanner can keep: no two have the same key, each can be written, and a component
is always the same file. -/
structure Catalogue where
  findings : List Finding
  distinct : (findings.map (·.key)).Nodup
  sendable : ∀ f ∈ findings, f.IsSendable
  located : ∀ f ∈ findings, ∀ g ∈ findings, f.component = g.component → f.path = g.path
  fits : Numeral.fits findings.length = true

/-- The names in a field, which stand between commas. -/
def namesIn (t : Option Text) : List Text := (t.getD []).splitOn 0x2C

/-- The number in a field. -/
def numberIn (t : Option Text) : Nat := Numeral.value ((t.getD []).map (· - 0x30))

/-- The findings that the fields of a question ask for. -/
def Catalogue.askedFor (k : Catalogue) (fields : List (Text × Value)) : List Finding :=
  k.findings.filter fun f => (namesIn (given fields "types")).elem f.category.name &&
    (namesIn (given fields "severities")).elem f.severity.name

/-- What a scanner says that is up and has the project. -/
def greeting : Value :=
  .record [("status", .str "UP"), ("version", .str "10.4"), ("valid", .bool true),
    ("component", .record [("name", .str "Shop")])]

/-- A reply that is a document. -/
def replyOf (url : Text) (d : Value) : Reply where
  url := url
  status := 200
  complaint? := none
  body := (Json.pretty d).flatMap Utf8.encodeCode
  depth := .least

/-- The document with which a scanner that keeps a catalogue answers a question. To everything but a
search it says that it is up and has the project. -/
def Catalogue.answerTo (k : Catalogue) (q : Question) : Value :=
  let fields := q.fields.getD []
  if q.resource == Text.ofString "/api/issues/search" then
    answerDocument (k.askedFor fields) (numberIn (given fields "ps")) (numberIn (given fields "p"))
  else greeting

/-- The scanner that keeps a catalogue. -/
def Catalogue.server (k : Catalogue) : Server Unit where
  refusal? _ := none
  answer a q state := (.reply (replyOf (a.url ++ q.resource) (k.answerTo q)), state)

/-! ## What the documents say -/

theorem describes_document {f : Finding} (h : f.IsSendable) : f.Describes f.document where
  key := (Value.field?_record ..).trans rfl
  rule := (Value.field?_record ..).trans rfl
  category := (Value.field?_record ..).trans rfl
  severity := (Value.field?_record ..).trans rfl
  message := (Value.field?_record ..).trans rfl
  component := (Value.field?_record ..).trans rfl
  lines := by
    have hline : f.document.field? "line" = none := (Value.field?_record ..).trans rfl
    cases hlines : f.lines with
    | none =>
        have hrange : f.document.field? "textRange" = some .null := by
          rw [Finding.document, hlines]
          exact (Value.field?_record ..).trans rfl
        exact .unknown ⟨⟨_, rfl⟩, .inr hrange⟩ ⟨⟨_, rfl⟩, .inl hline⟩
    | some l =>
        obtain ⟨hpos, hle, -⟩ := h.lines l hlines
        refine .range (r := .record [("startLine", .nat l.1), ("endLine", .nat l.2)]) ?_
          ((Value.field?_record ..).trans rfl) ((Value.field?_record ..).trans rfl) hpos hle
        rw [Finding.document, hlines]
        exact (Value.field?_record ..).trans rfl
  effort := .effort ((Value.field?_record ..).trans rfl) (by simp [Text.cat, Text.ofString])
    (Effort.minutes_decimal h.effort)
  tags := .inl ((Value.field?_record ..).trans rfl)

theorem isFile_fileDocument {component path : Text} (h : path ≠ []) :
    IsFile (fileDocument component path) component path where
  qualifier := (Value.field?_record ..).trans rfl
  key := (Value.field?_record ..).trans rfl
  filled := h
  path := (Value.field?_record ..).trans rfl

theorem isFacet_facetDocument {α : Type} [BEq α] {property : String} {name : α → Text} {all : List α}
    (hall : ∀ a, a ∈ all) (value : Finding → α) (fs : List Finding) :
    IsFacet (facetDocument property name all value fs) property name value fs where
  property := (Value.field?_record ..).trans rfl
  entries := by
    refine ⟨_, (Value.field?_record ..).trans rfl, fun e he => ?_, fun f _ => ?_⟩
    · obtain ⟨a, -, rfl⟩ := List.mem_map.1 he
      exact ⟨a, (Value.field?_record ..).trans rfl, (Value.field?_record ..).trans rfl⟩
    · exact ⟨_, List.mem_map_of_mem (hall (value f)), (Value.field?_record ..).trans rfl⟩

/-- The answer to a search shows the page. -/
theorem shows_answerDocument {fs : List Finding} (hsendable : ∀ f ∈ fs, f.IsSendable)
    (hlocated : ∀ f ∈ fs, ∀ g ∈ fs, f.component = g.component → f.path = g.path)
    (size number : Nat) (withFacets : Bool) :
    Reply.Shows (answerDocument fs size number) fs size number withFacets where
  total := .inl ⟨_, (Value.field?_record ..).trans rfl, (Value.field?_record ..).trans rfl⟩
  issues := by
    refine ⟨_, (Value.field?_record ..).trans rfl, ?_⟩
    rw [List.forall₂_map_left_iff, List.forall₂_same]
    exact fun f hf => describes_document (hsendable f (List.mem_of_mem_drop (List.mem_of_mem_take hf)))
  components := by
    have hmem {f : Finding} (hf : f ∈ pageSlice fs size number) : f ∈ fs :=
      List.mem_of_mem_drop (List.mem_of_mem_take hf)
    refine ⟨_, (Value.field?_record ..).trans rfl, fun v hv => ?_, fun f hf p => ⟨fun hp => ?_, ?_⟩⟩
    · obtain ⟨f, hf, hv⟩ := List.mem_filterMap.1 hv
      obtain ⟨p, hp, rfl⟩ := Option.map_eq_some_iff.1 hv
      refine .inr ⟨f.component, p, isFile_fileDocument ?_⟩
      rintro rfl
      exact (hsendable f (hmem hf)).path hp
    · refine ⟨_, List.mem_filterMap.2 ⟨f, hf, by rw [hp]; rfl⟩, isFile_fileDocument ?_⟩
      rintro rfl
      exact (hsendable f (hmem hf)).path hp
    · rintro ⟨v, hv, hfile⟩
      obtain ⟨g, hg, hv⟩ := List.mem_filterMap.1 hv
      obtain ⟨p', hp', rfl⟩ := Option.map_eq_some_iff.1 hv
      have hfilled : p' ≠ [] := by
        rintro rfl
        exact (hsendable g (hmem hg)).path hp'
      obtain ⟨hcomponent, rfl⟩ := hfile.unique (isFile_fileDocument hfilled)
      rw [hlocated f (hmem hf) g (hmem hg) hcomponent, hp']
  facets _ := by
    refine .inr ⟨_, (Value.field?_record ..).trans rfl, fun facet hfacet => ?_⟩
    rcases List.mem_pair.1 hfacet with rfl | rfl
    · exact .inr (isFacet_facetDocument (by intro s; cases s <;> decide) _ _)
    · exact .inl (isFacet_facetDocument (by intro c; cases c <;> decide) _ _)

/-! ## The documents can be written -/

theorem fits_of_le {m n : Nat} (hle : m ≤ n) (h : Numeral.fits n = true) : Numeral.fits m = true := by
  rw [Numeral.fits, decide_eq_true_iff] at h ⊢
  omega

theorem isPlain_text {t : Text} (h : ∀ c ∈ t, Text.isScalar c = true) (depth : Nat) :
    (Value.text t).IsPlain depth := .text h

theorem isPlain_str (s : String) (depth : Nat) : (Value.str s).IsPlain depth :=
  .text Text.isScalar_of_mem_ofString

theorem isPlain_nat {n : Nat} (h : Numeral.fits n = true) (depth : Nat) :
    (Value.nat n).IsPlain depth := .int h

theorem Finding.isPlain_document {f : Finding} (h : f.IsSendable) (depth : Nat) :
    f.document.IsPlain (depth + 2) := by
  have hlines : (Value.opt (fun l : Nat × Nat => .record
      [("startLine", .nat l.1), ("endLine", .nat l.2)]) f.lines).IsPlain (depth + 1) := by
    cases hl : f.lines with
    | none => exact .null
    | some l =>
        obtain ⟨-, hle, hfits⟩ := h.lines l hl
        refine Value.isPlain_record (by simp) ?_
        simp only [List.forall_mem_cons, List.not_mem_nil, false_implies, implies_true, and_true]
        exact ⟨isPlain_nat (fits_of_le hle hfits) _, isPlain_nat hfits _⟩
  have heffort : ∀ c ∈ Text.cat [.decimal f.effort, "min"], Text.isScalar c = true := by
    intro c hc
    simp only [Text.cat, List.flatten_cons, List.flatten_nil, List.append_nil, List.mem_append] at hc
    rcases hc with hc | hc
    · exact Text.isScalar_of_mem_decimal f.effort c hc
    · exact Text.isScalar_of_mem_ofString c hc
  have htags : (Value.texts f.tags).IsPlain (depth + 1) := by
    refine .list fun v hv => ?_
    obtain ⟨t, ht, rfl⟩ := List.mem_map.1 hv
    exact isPlain_text (h.texts t (by simp [ht])) _
  refine Value.isPlain_record (by simp) ?_
  simp only [List.forall_mem_cons, List.not_mem_nil, false_implies, implies_true, and_true]
  exact ⟨isPlain_text (h.texts _ (by simp)) _, isPlain_text (h.texts _ (by simp)) _,
    isPlain_text (Category.isScalar_name _) _, isPlain_text (Severity.isScalar_name _) _,
    isPlain_text (h.texts _ (by simp)) _, isPlain_text (h.texts _ (by simp)) _, hlines,
    isPlain_text heffort _, htags⟩

theorem isPlain_facetDocument {α : Type} [BEq α] (property : String) {name : α → Text}
    (hname : ∀ a, ∀ c ∈ name a, Text.isScalar c = true) (all : List α) (value : Finding → α)
    {fs : List Finding} (hfits : Numeral.fits fs.length = true) (depth : Nat) :
    (facetDocument property name all value fs).IsPlain (depth + 3) := by
  refine Value.isPlain_record (by simp) ?_
  simp only [List.forall_mem_cons, List.not_mem_nil, false_implies, implies_true, and_true]
  refine ⟨isPlain_str _ _, .list fun v hv => ?_⟩
  obtain ⟨a, -, rfl⟩ := List.mem_map.1 hv
  refine Value.isPlain_record (by simp) ?_
  simp only [List.forall_mem_cons, List.not_mem_nil, false_implies, implies_true, and_true]
  exact ⟨isPlain_text (hname a) _, isPlain_nat (fits_of_le List.countP_le_length hfits) _⟩

theorem isPlain_answerDocument {fs : List Finding} (hsendable : ∀ f ∈ fs, f.IsSendable)
    (hfits : Numeral.fits fs.length = true) (size number depth : Nat) :
    (answerDocument fs size number).IsPlain (depth + 5) := by
  have hmem {f : Finding} (hf : f ∈ pageSlice fs size number) : f.IsSendable :=
    hsendable f (List.mem_of_mem_drop (List.mem_of_mem_take hf))
  have hpaging : (Value.record [("total", .nat fs.length)]).IsPlain (depth + 4) := by
    refine Value.isPlain_record (by simp) ?_
    simpa using isPlain_nat hfits _
  have hissues : (Value.list ((pageSlice fs size number).map (·.document))).IsPlain (depth + 4) := by
    refine .list fun v hv => ?_
    obtain ⟨f, hf, rfl⟩ := List.mem_map.1 hv
    exact Finding.isPlain_document (hmem hf) (depth + 1)
  have hfiles : (Value.list ((pageSlice fs size number).filterMap
      fun f => f.path.map (fileDocument f.component))).IsPlain (depth + 4) := by
    refine .list fun v hv => ?_
    obtain ⟨f, hf, hv⟩ := List.mem_filterMap.1 hv
    obtain ⟨p, hp, rfl⟩ := Option.map_eq_some_iff.1 hv
    refine Value.isPlain_record (by simp) ?_
    simp only [List.forall_mem_cons, List.not_mem_nil, false_implies, implies_true, and_true]
    exact ⟨isPlain_str _ _, isPlain_text ((hmem hf).texts _ (by simp)) _,
      isPlain_text ((hmem hf).texts p (by simp [hp])) _⟩
  refine Value.isPlain_record (by simp) ?_
  simp only [List.forall_mem_cons, List.not_mem_nil, false_implies, implies_true, and_true]
  refine ⟨hpaging, hissues, hfiles, .list fun facet hfacet => ?_⟩
  rcases List.mem_pair.1 hfacet with rfl | rfl
  · exact isPlain_facetDocument _ Severity.isScalar_name _ _ hfits _
  · exact isPlain_facetDocument _ Category.isScalar_name _ _ hfits _

theorem isPlain_greeting (depth : Nat) : greeting.IsPlain (depth + 2) := by
  refine Value.isPlain_record (by simp) ?_
  simp only [List.forall_mem_cons, List.not_mem_nil, false_implies, implies_true, and_true]
  refine ⟨isPlain_str _ _, isPlain_str _ _, .bool true, Value.isPlain_record (by simp) ?_⟩
  simpa using isPlain_str _ _

/-- The document of a reply is read from its body. -/
theorem value_replyOf (url : Text) {d : Value} (h : d.IsPlain Json.Depth.least) :
    (replyOf url d).value = .ok (some d) := by
  have htext : Json.textOfBytes? (replyOf url d).body = some (Json.pretty d) :=
    Json.textOfBytes?_encoded (Json.isWritten_prettyAt h 0)
  rw [Reply.value, htext]
  dsimp only
  rw [replyOf, Json.read_pretty h]

/-! ## The scanner is honest -/

theorem Catalogue.askedFor_eq (k : Catalogue) {fields : List (Text × Value)} {q : Query} {page : Nat}
    {withFacets : Bool} (h : Asks fields q page withFacets) :
    k.askedFor fields = q.matching k.findings := by
  obtain ⟨types, htypes, hcategories⟩ := h.categories
  obtain ⟨names, hnames, hseverities⟩ := h.severities
  refine List.filter_congr fun f _ => ?_
  rw [Query.wants, htypes, hnames, Bool.eq_iff_iff, Bool.and_eq_true, Bool.and_eq_true]
  simp only [List.elem_iff]
  exact and_congr (hcategories f.category) (hseverities f.severity)

theorem numberIn_decimal (n : Nat) : numberIn (some (.decimal n)) = n := Numeral.value_decimal n

/-- A scanner that keeps a catalogue is honest about it. -/
theorem Catalogue.honest (k : Catalogue) (s : ScannerSettings) :
    Honest k.server s k.findings where
  distinct := k.distinct
  answers fields state q size page withFacets hasks _ _ hsize _ _ := by
    have hmatching : ∀ f ∈ q.matching k.findings, f ∈ k.findings := fun f hf =>
      (List.mem_filter.1 hf).1
    have hsendable : ∀ f ∈ q.matching k.findings, f.IsSendable := fun f hf =>
      k.sendable f (hmatching f hf)
    have hps : numberIn (given fields "ps") = size := by
      rw [hasks.size, hsize]
      exact numberIn_decimal size
    have hp : numberIn (given fields "p") = page := by
      rw [hasks.page]
      exact numberIn_decimal page
    have hanswer : k.answerTo ⟨"/api/issues/search", some fields⟩ =
        answerDocument (q.matching k.findings) size page := by
      rw [answerTo, if_pos (beq_self_eq_true _), Option.getD_some, k.askedFor_eq hasks, hps, hp]
    refine ⟨_, rfl, rfl, rfl, _, value_replyOf _ ?_, ?_⟩
    · rw [hanswer]
      exact isPlain_answerDocument hsendable (fits_of_le (List.length_filter_le ..) k.fits) size page 5
    · rw [hanswer]
      exact shows_answerDocument hsendable
        (fun f hf g hg => k.located f (hmatching f hf) g (hmatching g hg)) size page withFacets

/-! ## The scanner is there -/

theorem run_unlessDown_ok {S α : Type} {a : Act S α} {s s' : S} {x : α} (h : a.run s = (.ok x, s')) :
    (unlessDown a).run s = (.ok (.ok x), s') := by
  have hattempt : a.attempt.run s = (.ok (.ok x), s') := by rw [Act.run_attempt, h]
  rw [unlessDown, Act.run_bind_ok hattempt]
  rfl

/-- Whoever asks for anything but a search is greeted. -/
theorem Catalogue.run_get_greeting (k : Catalogue) (c : Client) (resource : Text)
    (fields : Option (List (Text × Value))) (hresource : resource ≠ Text.ofString "/api/issues/search")
    (w : World Unit) :
    ∃ reply w', (c.get k.server resource fields).run w = (.ok reply, w') ∧ reply.status = 200 ∧
      ∀ refuse, reply.document refuse = .ok greeting := by
  have hanswer : k.answerTo ⟨resource, fields⟩ = greeting := by
    rw [answerTo, if_neg (by simpa using hresource)]
  have hreply : (k.server.answer (.ofSettings c.settings) ⟨resource, fields⟩ w.extra).1 =
      .reply (replyOf (c.settings.url ++ resource) (k.answerTo ⟨resource, fields⟩)) := rfl
  obtain ⟨w', hget⟩ := run_get w hreply
  refine ⟨_, w', hget, rfl, fun refuse => ?_⟩
  rw [hanswer, Reply.document, value_replyOf _ (isPlain_greeting 8)]
  rfl

/-- The scanner is up, and it accepts everybody. -/
theorem Catalogue.run_connection (k : Catalogue) (c : Client) (w : World Unit) :
    ∃ w', (c.connection k.server).run w = (.ok (.up (.str "10.4")), w') := by
  obtain ⟨status, w₁, hget₁, hstatus, hgreeting⟩ :=
    k.run_get_greeting c "/api/system/status" none (by decide) w
  obtain ⟨validation, w₂, hget₂, hvalidation, hgreeting'⟩ :=
    k.run_get_greeting c "/api/authentication/validate" none (by decide) w₁
  have hup : (c.systemStatus k.server).run w = (.ok greeting, w₁) := by
    rw [Client.systemStatus, Act.run_bind_ok hget₁]
    simp only [hstatus, hgreeting]
    rfl
  have haccepted : (c.isAccepted k.server).run w₁ = (.ok true, w₂) := by
    rw [Client.isAccepted, Act.run_bind_ok hget₂]
    simp only [hvalidation, hgreeting']
    rfl
  have hsame : ((greeting.field? "status").getD .null).same (.str "UP") = true := Value.same_text ..
  refine ⟨w₂, ?_⟩
  rw [Client.connection, Act.run_bind_ok (run_unlessDown_ok hup)]
  simp only [hsame, if_true]
  rw [Act.run_bind_ok (run_unlessDown_ok haccepted)]
  rfl

/-- The scanner has the project. -/
theorem Catalogue.run_project (k : Catalogue) (c : Client) (key : Text) (w : World Unit) :
    ∃ w', (c.project k.server key).run w = (.ok (.found (.str "Shop")), w') := by
  obtain ⟨reply, w', hget, hstatus, hgreeting⟩ :=
    k.run_get_greeting c "/api/components/show" (some [("component", .text key)]) (by decide) w
  refine ⟨w', ?_⟩
  rw [Client.project, Act.run_bind_ok hget]
  simp only [hstatus, hgreeting]
  rfl

/-- What is asked before a search finds the scanner up and the project there. -/
theorem Catalogue.exists_preflight (k : Catalogue) (c : Client) (w : World Unit) :
    ∃ name w', (c.preflight k.server).run w = (.ok name, w') := by
  obtain ⟨w₁, hconnection⟩ := k.run_connection c w
  rw [Client.preflight, Act.run_bind_ok hconnection]
  dsimp only
  rw [Act.run_bind_ok (World.run_say ..)]
  obtain ⟨w₂, hfound⟩ := k.run_project c c.settings.projectKey _
  rw [Act.run_bind_ok hfound]
  exact ⟨_, _, rfl⟩

/-! ## A shop

A project whose findings are alike but for their keys, lines and severities. -/

/-- How to ask for the findings of the shop. -/
def shopSettings (pageSize : Nat) (h : 1 ≤ pageSize ∧ pageSize ≤ maxPageSize) : ScannerSettings where
  url := "http:\x2f/sonar.test"
  projectKey := "shop"
  token := some "squ_test"
  branch := some "main"
  pageSize := pageSize
  timeout := .real 30
  retries := 2
  one_le_pageSize := h.1
  pageSize_le := h.2

/-- A severity for each number. -/
def shopSeverity (i : Nat) : Severity :=
  match i % 5 with
  | 0 => .blocker
  | 1 => .critical
  | 2 => .major
  | 3 => .minor
  | _ => .info

/-- A finding for each number. -/
def shopFinding (i : Nat) : Finding where
  key := .decimal i
  rule := "java:S106"
  category := .codeSmell
  severity := shopSeverity i
  message := "Use a logger"
  component := "shop:Shop.java"
  path := some "Shop.java"
  lines := some (i + 1, i + 2)
  effort := 5
  tags := ["bad-practice"]

/-- The shop with so many findings. -/
def shop (n : Nat) (h : n ≤ resultWindow) : Catalogue where
  findings := (List.range n).map shopFinding
  distinct := by
    rw [List.map_map]
    exact List.nodup_range.map fun i j hij => by
      rw [← Numeral.value_decimal i, ← Numeral.value_decimal j]
      exact congrArg (fun t : Text => Numeral.value (t.map (· - 0x30))) hij
  sendable f hf := by
    obtain ⟨i, hi, rfl⟩ := List.mem_map.1 hf
    have hlast : i + 2 ≤ resultWindow + 1 := by
      have := List.mem_range.1 hi
      omega
    refine ⟨?_, ?_, Numeral.fits_of_lt_million (by simp [shopFinding]),
      by simp [shopFinding, Text.ofString]⟩
    · simp only [shopFinding, List.forall_mem_cons]
      exact ⟨Text.isScalar_of_mem_decimal i, Text.isScalar_of_mem_ofString,
        Text.isScalar_of_mem_ofString, Text.isScalar_of_mem_ofString, Text.isScalar_of_mem_ofString,
        Text.isScalar_of_mem_ofString, by simp⟩
    · rintro l ⟨⟩
      exact ⟨by simp, by simp, Numeral.fits_of_lt_million (Nat.lt_of_le_of_lt hlast (by decide))⟩
  located f hf g hg _ := by
    obtain ⟨i, -, rfl⟩ := List.mem_map.1 hf
    obtain ⟨j, -, rfl⟩ := List.mem_map.1 hg
    rfl
  fits := by
    rw [List.length_map, List.length_range]
    exact Numeral.fits_of_lt_million (Nat.lt_of_le_of_lt h (by decide))

end Scanner

end Mend
