import Mend.Proofs.Json.Atoms

/-!
# Documents read back

A document without fractions, whose texts consist of characters and whose objects have each name
once, is read back from the text that it is written as. The text is ASCII on lines.

## Main definitions

* `Value.IsPlain` — such documents, with a bound on how deep they are nested.

## Main statements

* `Json.readsBack_of_isPlain` — plain documents are read back, whatever follows them.
-/

namespace Mend

/-- The documents without fractions, whose texts consist of characters and whose objects have each
name once, nested at most so deep. -/
inductive Value.IsPlain : Nat → Value → Prop
  | null {depth : Nat} : IsPlain depth .null
  | bool {depth : Nat} (b : Bool) : IsPlain depth (.bool b)
  | int {depth : Nat} {n : Int} (fits : Numeral.fits n = true) : IsPlain depth (.num (.int n))
  | text {depth : Nat} {t : Text} (characters : ∀ c ∈ t, Text.isScalar c = true) :
      IsPlain depth (.text t)
  | list {depth : Nat} {vs : List Value} (items : ∀ v ∈ vs, IsPlain depth v) :
      IsPlain (depth + 1) (.list vs)
  | obj {depth : Nat} {fs : List (Text × Value)} (distinct : (fs.map (·.1)).Nodup)
      (names : ∀ f ∈ fs, ∀ c ∈ f.1, Text.isScalar c = true) (values : ∀ f ∈ fs, IsPlain depth f.2) :
      IsPlain (depth + 1) (.obj fs)

theorem Value.put_of_notMem {k : Text} {fs : List (Text × Value)} (h : k ∉ fs.map (·.1)) (v : Value) :
    Value.put k v fs = fs ++ [(k, v)] := by
  induction fs with
  | nil => rfl
  | cons f fs ih =>
      simp only [List.map_cons, List.mem_cons, not_or] at h
      rw [Value.put, if_neg (by simpa using h.1), ih h.2]
      rfl

theorem Value.foldl_put_of_nodup (fs kept : List (Text × Value))
    (h : ((kept ++ fs).map (·.1)).Nodup) :
    fs.foldl (fun kept (k, v) => Value.put k v kept) kept = kept ++ fs := by
  induction fs generalizing kept with
  | nil => simp
  | cons f fs ih =>
      have hnot : f.1 ∉ kept.map (·.1) := by
        intro hmem
        rw [List.map_append, List.map_cons] at h
        exact (List.nodup_append.1 h).2.2 f.1 hmem f.1 (List.mem_cons_self ..) rfl
      have hput : Value.put f.1 f.2 kept = kept ++ [f] := Value.put_of_notMem hnot f.2
      show fs.foldl _ (Value.put f.1 f.2 kept) = _
      rw [hput, ih _ (by simpa using h), List.append_assoc]
      rfl

/-- Fields with distinct names are all kept. -/
theorem Value.ofPairs_of_nodup {fs : List (Text × Value)} (h : (fs.map (·.1)).Nodup) :
    Value.ofPairs fs = fs :=
  Value.foldl_put_of_nodup fs [] h

namespace Json

/-! ## Blanks -/

theorem skip_cons {c : Code} (h : isSpace c = false) (t : Text) : skip (c :: t) = c :: t :=
  List.dropWhile_cons_of_neg (by simp [h])

theorem skip_newLine (depth : Nat) (t : Text) : skip (newLine depth ++ t) = skip t := by
  refine List.dropWhile_append_of_pos fun c hc => ?_
  rcases List.mem_cons.1 hc with rfl | hc
  · rfl
  · rw [List.eq_of_mem_replicate hc]
    rfl

theorem endsNumeral_newLine (depth : Nat) (t : Text) : EndsNumeral (newLine depth ++ t) :=
  endsNumeral_cons (by decide) (by decide) (by decide) (by decide)

theorem endsNumeral_comma (t : Text) : EndsNumeral (0x2C :: t) :=
  endsNumeral_cons (by decide) (by decide) (by decide) (by decide)

/-! ## What is written -/

/-- What a document begins with when it is written: neither a blank nor the end of a list. -/
theorem exists_prettyAt_eq_cons {depth : Nat} {v : Value} (h : v.IsPlain depth) (k : Nat) :
    ∃ c t, prettyAt k v = c :: t ∧ isSpace c = false ∧ c ≠ 0x5D := by
  cases h with
  | null => exact ⟨_, _, rfl, by decide, by decide⟩
  | bool b => cases b <;> exact ⟨_, _, rfl, by decide, by decide⟩
  | @int _ n _ =>
      cases n with
      | ofNat n =>
          obtain ⟨d, ds, hds, hdigit, -⟩ := Text.exists_decimal_eq_cons n
          rw [Text.isAsciiDigit_iff] at hdigit
          refine ⟨d, ds, by rw [prettyAt, numeral, Text.ofInt, hds], ?_, by rintro rfl; simp at hdigit⟩
          grind [isSpace]
      | negSucc n => exact ⟨_, _, by rw [prettyAt, numeral, Text.ofInt], by decide, by decide⟩
  | text => exact ⟨_, _, by rw [prettyAt, quoted]; rfl, by decide, by decide⟩
  | @list _ vs _ =>
      cases vs with
      | nil => exact ⟨_, _, by rw [prettyAt]; rfl, by decide, by decide⟩
      | cons v vs => exact ⟨_, _, by rw [prettyAt]; rfl, by decide, by decide⟩
  | @obj _ fs _ _ _ =>
      cases fs with
      | nil => exact ⟨_, _, by rw [prettyAt], by decide, by decide⟩
      | cons f fs => exact ⟨_, _, by rw [prettyAt]; rfl, by decide, by decide⟩

theorem skip_prettyAt {depth : Nat} {v : Value} (h : v.IsPlain depth) (k : Nat) (t : Text) :
    skip (prettyAt k v ++ t) = prettyAt k v ++ t := by
  obtain ⟨c, u, hu, hspace, -⟩ := exists_prettyAt_eq_cons h k
  rw [hu]
  exact skip_cons hspace _

/-! ## Single values -/

theorem value_quoted {t : Text} (ht : ∀ c ∈ t, Text.isScalar c = true) {size : Nat}
    (hsize : t.length < size) (fuel depth : Nat) (rest : Text) :
    value size (fuel + 1) depth (quoted t ++ rest) = .ok (.text t, rest) := by
  have hopen : quoted t ++ rest = 0x22 :: (t.flatMap escape ++ 0x22 :: rest) := by simp [quoted]
  rw [hopen, value, string_flatMap_escape ht hsize]

/-- Whether a text starts with a digit, or with a minus sign and a digit. -/
def startsNumeral : Text → Bool
  | c :: d :: _ => Text.isAsciiDigit c || (c == 0x2D && Text.isAsciiDigit d)
  | [c] => Text.isAsciiDigit c
  | [] => false

theorem startsNumeral_ofInt (n : Int) (rest : Text) : startsNumeral (Text.ofInt n ++ rest) = true := by
  cases n with
  | ofNat n =>
      obtain ⟨d, ds, hds, hdigit, -⟩ := Text.exists_decimal_eq_cons n
      rw [Text.ofInt, hds, List.cons_append]
      cases ds ++ rest <;> simp [startsNumeral, hdigit]
  | negSucc n =>
      obtain ⟨d, ds, hds, hdigit, -⟩ := Text.exists_decimal_eq_cons (n + 1)
      rw [Text.ofInt, hds]
      simp [startsNumeral, hdigit]

/-- No word starts as a numeral does. -/
theorem find?_words_of_startsNumeral {t : Text} (h : startsNumeral t = true) :
    words.find? (fun (w, _) => w.isPrefixOf t) = none := by
  have hwords : ∀ w ∈ words.map (·.1), 2 ≤ w.length ∧ startsNumeral w = false := by decide
  rw [List.find?_eq_none]
  rintro ⟨w, v⟩ hw hmatch
  obtain ⟨rest, rfl⟩ := List.isPrefixOf_iff_prefix.1 hmatch
  obtain ⟨hlength, hstart⟩ := hwords w (List.mem_map_of_mem hw)
  have happend : startsNumeral (w ++ rest) = startsNumeral w :=
    match w, hlength with
    | _ :: _ :: _, _ => rfl
  rw [happend, hstart] at h
  cases h

theorem value_ofInt {n : Int} (hfits : Numeral.fits n = true) (size fuel depth : Nat) {rest : Text}
    (hrest : EndsNumeral rest) :
    value size (fuel + 1) depth (Text.ofInt n ++ rest) = .ok (.num (.int n), rest) := by
  have hstart := startsNumeral_ofInt n rest
  have hother {c : Code} (hc : ∀ t, startsNumeral (c :: t) = false) (t : Text) :
      Text.ofInt n ++ rest ≠ c :: t := by
    intro h
    rw [h, hc] at hstart
    cases hstart
  rw [value]
  · rw [find?_words_of_startsNumeral hstart, number_ofInt hfits hrest]
  -- A numeral starts neither as a string nor as an object or a list.
  all_goals exact hother fun t => by cases t <;> rfl

theorem value_word {w : Text} {v : Value} (h : (w, v) ∈ [(Text.ofString "null", Value.null),
      (Text.ofString "true", .bool true), (Text.ofString "false", .bool false)])
    (size fuel depth : Nat) (rest : Text) :
    value size (fuel + 1) depth (w ++ rest) = .ok (v, rest) := by
  simp only [List.mem_cons, Prod.mk.injEq, List.not_mem_nil, or_false] at h
  obtain ⟨rfl, rfl⟩ | ⟨rfl, rfl⟩ | ⟨rfl, rfl⟩ := h <;> rfl

/-! ## Lists and objects -/

/-- Whether a value, written inside so many lists and objects, is read back wherever it stands, if as
many further lists and objects as `depth` says are allowed and strings are shorter than `size`. -/
def ReadsBack (size depth k : Nat) (v : Value) : Prop :=
  ∀ (fuel : Nat) (rest : Text), (prettyAt k v).length ≤ fuel → EndsNumeral rest →
    value size fuel depth (prettyAt k v ++ rest) = .ok (v, rest)

theorem endsNumeral_prettyItems (k j : Nat) (vs : List Value) (rest : Text) :
    EndsNumeral (prettyItems k vs ++ (newLine j ++ 0x5D :: rest)) := by
  cases vs with
  | nil => exact endsNumeral_newLine j _
  | cons v vs => exact endsNumeral_comma _

/-- The items of a list are read back, up to its end. -/
theorem items_pretty {size depth d k : Nat} (j : Nat) {v : Value} {vs : List Value}
    (hplain : ∀ w ∈ v :: vs, w.IsPlain d) (hread : ∀ w ∈ v :: vs, ReadsBack size depth k w)
    (fuel : Nat) (hfuel : (prettyAt k v ++ prettyItems k vs).length < fuel) (rest : Text)
    (acc : List Value) :
    items size fuel depth (prettyAt k v ++ (prettyItems k vs ++ (newLine j ++ 0x5D :: rest))) acc =
      .ok (.list (acc.reverse ++ v :: vs), rest) := by
  induction vs generalizing v fuel acc with
  | nil =>
      obtain ⟨fuel, rfl⟩ : ∃ n, fuel = n + 1 := ⟨fuel - 1, by omega⟩
      rw [List.length_append] at hfuel
      have hvalue := hread v (List.mem_cons_self ..) fuel _ (by omega)
        (endsNumeral_prettyItems k j [] rest)
      rw [items, hvalue]
      simp [prettyItems, skip_newLine, skip_cons (c := 0x5D) (by decide)]
  | cons w vs ih =>
      obtain ⟨fuel, rfl⟩ : ∃ n, fuel = n + 1 := ⟨fuel - 1, by omega⟩
      have hlength : (prettyAt k v ++ prettyItems k (w :: vs)).length =
          (prettyAt k v).length + 1 + (newLine k).length + (prettyAt k w ++ prettyItems k vs).length := by
        simp [prettyItems]
        omega
      have hvalue := hread v (List.mem_cons_self ..) fuel _ (by omega)
        (endsNumeral_prettyItems k j (w :: vs) rest)
      rw [items, hvalue]
      simp only [prettyItems, List.append_assoc, List.cons_append, List.nil_append,
        skip_cons (c := 0x2C) (by decide), skip_newLine]
      rw [skip_prettyAt (hplain w (by simp)), ih (fun x hx => hplain x (List.mem_cons_of_mem v hx))
        (fun x hx => hread x (List.mem_cons_of_mem v hx)) fuel (by omega)]
      simp

/-- How an object goes on behind a field. -/
def behindField (size fuel depth : Nat) (t : Text) (acc : List (Text × Value)) : Read Value :=
  match skip t with
  | 0x7D :: rest => .ok (.obj (Value.ofPairs acc.reverse), rest)
  | 0x2C :: rest => fields size fuel depth (skip rest) acc
  | rest => stop rest .expectedComma

/-- A field as it is written inside so many lists and objects. -/
def prettyField (k : Nat) (f : Text × Value) : Text := quoted f.1 ++ 0x3A :: 0x20 :: prettyAt k f.2

theorem fields_prettyField {size depth d k : Nat} {f : Text × Value}
    (hname : ∀ c ∈ f.1, Text.isScalar c = true) (hplain : f.2.IsPlain d)
    (hread : ReadsBack size depth k f.2) {fuel : Nat} (hfuel : (prettyField k f).length ≤ fuel)
    (hsize : (prettyField k f).length ≤ size) {rest : Text} (hrest : EndsNumeral rest)
    (acc : List (Text × Value)) :
    fields size (fuel + 1) depth (prettyField k f ++ rest) acc =
      behindField size fuel depth rest (f :: acc) := by
  have hshorter := length_le_length_flatMap_escape f.1
  have hlength : (prettyField k f).length =
      (f.1.flatMap escape).length + (prettyAt k f.2).length + 4 := by
    simp only [prettyField, quoted, List.length_append, List.length_cons, List.length_nil]
    omega
  have hstring := string_flatMap_escape hname (show f.1.length < size by omega)
    (0x3A :: 0x20 :: (prettyAt k f.2 ++ rest))
  have hvalue := hread fuel rest (by omega) hrest
  have hopen : prettyField k f ++ rest =
      0x22 :: (f.1.flatMap escape ++ 0x22 :: 0x3A :: 0x20 :: (prettyAt k f.2 ++ rest)) := by
    simp [prettyField, quoted]
  have hskip : skip (0x20 :: (prettyAt k f.2 ++ rest)) = prettyAt k f.2 ++ rest :=
    skip_prettyAt hplain k rest
  rw [hopen, fields, hstring]
  simp only [skip_cons (c := 0x3A) (by decide), hskip, hvalue]
  rfl

theorem endsNumeral_prettyFields (k j : Nat) (fs : List (Text × Value)) (rest : Text) :
    EndsNumeral (prettyFields k fs ++ (newLine j ++ 0x7D :: rest)) := by
  cases fs with
  | nil => exact endsNumeral_newLine j _
  | cons f fs => exact endsNumeral_comma _

theorem prettyFields_cons (k : Nat) (f : Text × Value) (fs : List (Text × Value)) :
    prettyFields k (f :: fs) = 0x2C :: (newLine k ++ (prettyField k f ++ prettyFields k fs)) := by
  simp [prettyFields, prettyField]

theorem skip_prettyField (k : Nat) (f : Text × Value) (t : Text) :
    skip (prettyField k f ++ t) = prettyField k f ++ t :=
  skip_cons (c := 0x22) (by decide) _

/-- The fields of an object are read back, up to its end. -/
theorem fields_pretty {size depth d k : Nat} (j : Nat) {f : Text × Value} {fs : List (Text × Value)}
    (hnames : ∀ g ∈ f :: fs, ∀ c ∈ g.1, Text.isScalar c = true)
    (hplain : ∀ g ∈ f :: fs, g.2.IsPlain d) (hread : ∀ g ∈ f :: fs, ReadsBack size depth k g.2)
    (fuel : Nat) (hfuel : (prettyField k f ++ prettyFields k fs).length < fuel)
    (hsize : (prettyField k f ++ prettyFields k fs).length ≤ size) (rest : Text)
    (acc : List (Text × Value)) :
    fields size fuel depth (prettyField k f ++ (prettyFields k fs ++ (newLine j ++ 0x7D :: rest))) acc =
      .ok (.obj (Value.ofPairs (acc.reverse ++ f :: fs)), rest) := by
  induction fs generalizing f fuel acc with
  | nil =>
      obtain ⟨fuel, rfl⟩ : ∃ n, fuel = n + 1 := ⟨fuel - 1, by omega⟩
      rw [List.length_append] at hfuel hsize
      rw [fields_prettyField (hnames f (by simp)) (hplain f (by simp)) (hread f (by simp)) (by omega)
        (by omega) (endsNumeral_prettyFields k j [] rest)]
      simp [behindField, prettyFields, skip_newLine, skip_cons (c := 0x7D) (by decide)]
  | cons g fs ih =>
      obtain ⟨fuel, rfl⟩ : ∃ n, fuel = n + 1 := ⟨fuel - 1, by omega⟩
      have hlength : (prettyField k f ++ prettyFields k (g :: fs)).length = (prettyField k f).length +
          1 + (newLine k).length + (prettyField k g ++ prettyFields k fs).length := by
        rw [prettyFields_cons]
        simp
        omega
      rw [fields_prettyField (hnames f (by simp)) (hplain f (by simp)) (hread f (by simp)) (by omega)
        (by omega) (endsNumeral_prettyFields k j (g :: fs) rest)]
      rw [prettyFields_cons, behindField]
      simp only [List.append_assoc, List.cons_append, skip_cons (c := 0x2C) (by decide), skip_newLine]
      rw [skip_prettyField, ih (fun x hx => hnames x (List.mem_cons_of_mem f hx))
        (fun x hx => hplain x (List.mem_cons_of_mem f hx))
        (fun x hx => hread x (List.mem_cons_of_mem f hx)) fuel (by omega) (by omega)]
      simp

/-! ## All values -/

theorem length_prettyAt_list (k : Nat) (v : Value) (vs : List Value) :
    (prettyAt k (.list (v :: vs))).length =
      (prettyAt (k + 1) v ++ prettyItems (k + 1) vs).length + 2 * k + 2 * k + 6 := by
  simp only [prettyAt, newLine, List.length_append, List.length_cons, List.length_nil,
    List.length_replicate]
  omega

theorem prettyAt_obj (k : Nat) (f : Text × Value) (fs : List (Text × Value)) :
    prettyAt k (.obj (f :: fs)) = 0x7B :: (newLine (k + 1) ++ (prettyField (k + 1) f ++
      (prettyFields (k + 1) fs ++ (newLine k ++ [0x7D])))) := by
  simp [prettyAt, prettyField]

theorem length_prettyAt_obj (k : Nat) (f : Text × Value) (fs : List (Text × Value)) :
    (prettyAt k (.obj (f :: fs))).length =
      (prettyField (k + 1) f ++ prettyFields (k + 1) fs).length + 2 * k + 2 * k + 6 := by
  rw [prettyAt_obj]
  simp only [newLine, List.length_append, List.length_cons, List.length_nil, List.length_replicate]
  omega

theorem length_prettyItems_le {k : Nat} {v : Value} {vs : List Value} (h : v ∈ vs) :
    (prettyAt k v).length ≤ (prettyItems k vs).length := by
  induction vs with
  | nil => cases h
  | cons w vs ih =>
      simp only [prettyItems, List.length_append, List.length_cons]
      rcases List.mem_cons.1 h with rfl | h
      · omega
      · have := ih h
        omega

/-- An item is written shorter than its list. -/
theorem length_item_lt {k : Nat} {v : Value} {vs : List Value} (h : v ∈ vs) :
    (prettyAt (k + 1) v).length < (prettyAt k (.list vs)).length := by
  cases vs with
  | nil => cases h
  | cons w vs =>
      rw [length_prettyAt_list, List.length_append]
      rcases List.mem_cons.1 h with rfl | h
      · omega
      · have := length_prettyItems_le (k := k + 1) h
        omega

theorem length_prettyFields_le {k : Nat} {f : Text × Value} {fs : List (Text × Value)} (h : f ∈ fs) :
    (prettyField k f).length ≤ (prettyFields k fs).length := by
  induction fs with
  | nil => cases h
  | cons g fs ih =>
      rw [prettyFields_cons]
      simp only [List.length_append, List.length_cons]
      rcases List.mem_cons.1 h with rfl | h
      · omega
      · have := ih h
        omega

/-- The value of a field is written shorter than its object. -/
theorem length_field_lt {k : Nat} {f : Text × Value} {fs : List (Text × Value)} (h : f ∈ fs) :
    (prettyAt (k + 1) f.2).length < (prettyAt k (.obj fs)).length := by
  have hvalue : (prettyAt (k + 1) f.2).length ≤ (prettyField (k + 1) f).length := by
    simp only [prettyField, List.length_append, List.length_cons]
    omega
  cases fs with
  | nil => cases h
  | cons g fs =>
      rw [length_prettyAt_obj, List.length_append]
      rcases List.mem_cons.1 h with rfl | h
      · omega
      · have := length_prettyFields_le (k := k + 1) h
        omega

theorem exists_fuel {d : Nat} {v : Value} (h : v.IsPlain d) {k fuel : Nat}
    (hfuel : (prettyAt k v).length ≤ fuel) : ∃ n, fuel = n + 1 := by
  obtain ⟨c, t, ht, -⟩ := exists_prettyAt_eq_cons h k
  rw [ht, List.length_cons] at hfuel
  exact ⟨fuel - 1, by omega⟩

theorem readsBack_list {size depth d k : Nat} {vs : List Value} (hplain : ∀ v ∈ vs, v.IsPlain d)
    (hread : ∀ v ∈ vs, ReadsBack size depth (k + 1) v) : ReadsBack size (depth + 1) k (.list vs) := by
  intro fuel rest hfuel _
  obtain ⟨fuel, rfl⟩ := exists_fuel (.list hplain) hfuel
  cases vs with
  | nil => rfl
  | cons v vs =>
      rw [length_prettyAt_list] at hfuel
      have hitems := items_pretty k hplain hread fuel (by omega) rest []
      obtain ⟨c, t, ht, hspace, hend⟩ := exists_prettyAt_eq_cons (hplain v (by simp)) (k + 1)
      rw [ht] at hitems
      simp only [prettyAt, ht, List.append_assoc, List.cons_append, List.nil_append]
      rw [value, if_neg (by omega), skip_newLine, skip_cons hspace]
      split
      case h_1 heq => exact absurd (List.cons.inj heq).1 hend
      case h_2 => simpa using hitems

theorem readsBack_obj {size depth d k : Nat} {fs : List (Text × Value)}
    (hdistinct : (fs.map (·.1)).Nodup) (hnames : ∀ f ∈ fs, ∀ c ∈ f.1, Text.isScalar c = true)
    (hplain : ∀ f ∈ fs, f.2.IsPlain d) (hread : ∀ f ∈ fs, ReadsBack size depth (k + 1) f.2)
    (hsize : (prettyAt k (.obj fs)).length < size) : ReadsBack size (depth + 1) k (.obj fs) := by
  intro fuel rest hfuel _
  obtain ⟨fuel, rfl⟩ := exists_fuel (.obj hdistinct hnames hplain) hfuel
  cases fs with
  | nil => rfl
  | cons f fs =>
      rw [length_prettyAt_obj] at hfuel hsize
      have hfields := fields_pretty k hnames hplain hread fuel (by omega) (by omega) rest []
      rw [prettyAt_obj]
      simp only [List.append_assoc, List.cons_append, List.nil_append]
      rw [value, if_neg (by omega), skip_newLine, skip_prettyField]
      split
      case h_1 heq => exact absurd (List.cons.inj heq).1 (by decide)
      case h_2 => simpa [Value.ofPairs_of_nodup hdistinct] using hfields

/-- A plain value is read back wherever it stands. -/
theorem readsBack_of_isPlain {d : Nat} {v : Value} (h : v.IsPlain d) {size depth : Nat}
    (hdepth : d ≤ depth) (k : Nat) (hsize : (prettyAt k v).length < size) :
    ReadsBack size depth k v := by
  induction h generalizing depth k with
  | null =>
      intro fuel rest hfuel _
      obtain ⟨fuel, rfl⟩ := exists_fuel (d := 0) .null hfuel
      rw [prettyAt]
      exact value_word (by simp) size fuel depth rest
  | bool b =>
      intro fuel rest hfuel _
      obtain ⟨fuel, rfl⟩ := exists_fuel (d := 0) (.bool b) hfuel
      cases b <;>
      · rw [prettyAt]
        exact value_word (by simp) size fuel depth rest
  | int fits =>
      intro fuel rest hfuel hrest
      obtain ⟨fuel, rfl⟩ := exists_fuel (d := 0) (.int fits) hfuel
      exact value_ofInt fits size fuel depth hrest
  | @text _ t characters =>
      intro fuel rest hfuel _
      obtain ⟨fuel, rfl⟩ := exists_fuel (d := 0) (.text characters) hfuel
      have hshorter := length_le_length_flatMap_escape t
      have hlength : (quoted t).length = (t.flatMap escape).length + 2 := by simp [quoted]
      rw [prettyAt] at hsize ⊢
      exact value_quoted characters (by omega) fuel depth rest
  | @list d vs items ih =>
      obtain ⟨depth, rfl⟩ : ∃ n, depth = n + 1 := ⟨depth - 1, by omega⟩
      exact readsBack_list items fun v hv =>
        ih v hv (by omega) (k + 1) (Nat.lt_trans (length_item_lt hv) hsize)
  | @obj d fs distinct names values ih =>
      obtain ⟨depth, rfl⟩ : ∃ n, depth = n + 1 := ⟨depth - 1, by omega⟩
      refine readsBack_obj distinct names values (fun f hf => ?_) hsize
      exact ih f hf (by omega) (k + 1) (Nat.lt_trans (length_field_lt hf) hsize)

end Json

end Mend
