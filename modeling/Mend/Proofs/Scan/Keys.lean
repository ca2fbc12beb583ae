import Mend.Scan.Keys
import Mend.Proofs.Number.Numeral

/-!
# Keys name places

A key is the text of a place, with a number behind it for all findings at the place but the first.
Paths are not escaped in it, but neither a line nor a number has a colon, so the last colon of a key
tells where its path ends, whatever the path looks like. No number is given out twice for a place, so
no key is given out twice.

## Main definitions

* `KeyFactory.given`, `KeyFactory.after` — the keys for some lines of files, and what is left behind.
* `KeyFactory.placeOf` — the file and the line that a key names.

## Main statements

* `KeyFactory.keyText_injective` — a key tells its place and its number.
* `KeyFactory.map_placeOf_given`, `KeyFactory.nodup_given` — keys name places, and are distinct.
* `KeyFactory.count_after` — giving out keys for one file leaves the numbers of other files alone.
-/

namespace Mend

namespace KeyFactory

/-- The mark before the line in a key. -/
abbrev colon : Code := 0x3A

/-- The mark before the number in a key. -/
abbrev hash : Code := 0x23

/-! ## Giving out keys -/

/-- The keys that a factory gives out for some lines of files, in order. -/
def given : KeyFactory → List (Text × Int) → List Text
  | _, [] => []
  | keys, (path, line) :: rest => (keys.next path line).1 :: given (keys.next path line).2 rest

/-- A factory after it has given out keys for some lines of files. -/
def after : KeyFactory → List (Text × Int) → KeyFactory
  | keys, [] => keys
  | keys, (path, line) :: rest => after (keys.next path line).2 rest

theorem given_append (keys : KeyFactory) (calls more : List (Text × Int)) :
    keys.given (calls ++ more) = keys.given calls ++ (keys.after calls).given more := by
  induction calls generalizing keys with
  | nil => rfl
  | cons call rest ih => exact congrArg ((keys.next call.1 call.2).1 :: ·) (ih _)

theorem after_append (keys : KeyFactory) (calls more : List (Text × Int)) :
    keys.after (calls ++ more) = (keys.after calls).after more := by
  induction calls generalizing keys with
  | nil => rfl
  | cons call rest ih => exact ih _

@[simp] theorem count_nil (place : Text) : count [] place = 0 := rfl

theorem count_cons (place other : Text) (n : Nat) (keys : KeyFactory) :
    count ((place, n) :: keys) other = if other = place then n else keys.count other := by
  by_cases h : other = place
  · subst h
    simp [count]
  · have hne : (other == place) = false := beq_false_of_ne h
    simp [count, List.lookup_cons, hne, h]

theorem count_note (keys : KeyFactory) (place other : Text) (n : Nat) :
    (keys.note place n).count other = if other = place then n else keys.count other := by
  induction keys with
  | nil => exact count_cons ..
  | cons entry rest ih =>
      obtain ⟨first, m⟩ := entry
      by_cases hfirst : first = place
      · subst hfirst
        rw [note, if_pos (beq_self_eq_true first), count_cons, count_cons]
        split <;> rfl
      · rw [note, if_neg (by simpa using hfirst), count_cons, count_cons, ih]
        by_cases h : other = first
        · subst h
          rw [if_pos rfl, if_neg hfirst, if_pos rfl]
        · rw [if_neg h, if_neg h]

/-- Giving out a key counts it for its place. -/
theorem count_next (keys : KeyFactory) (path other : Text) (line : Int) :
    (keys.next path line).2.count other =
      if other = placeText path line then keys.count other + 1 else keys.count other := by
  rw [next, nextAt, count_note]
  split
  · rename_i h
    rw [h]
  · rfl

/-! ## Reading keys -/

/-- The whole number that a numeral stands for, with a minus sign before a negative one. -/
def lineOf : Text → Int
  | 0x2D :: digits => -(Numeral.value (digits.map (· - 0x30)) : Int)
  | digits => Numeral.value (digits.map (· - 0x30))

/-- The file and the line that a key names: the line stands behind the last colon, and ends before the
number if there is one. -/
def placeOf (key : Text) : Text × Int :=
  let behind := (key.reverse.takeWhile (· != colon)).reverse
  (((key.reverse.dropWhile (· != colon)).drop 1).reverse, lineOf (behind.takeWhile (· != hash)))

theorem mem_ofInt {n : Int} {c : Code} (h : c ∈ Text.ofInt n) :
    c = 0x2D ∨ Text.isAsciiDigit c = true := by
  cases n with
  | ofNat n => exact .inr (Text.isAsciiDigit_of_mem_decimal n c h)
  | negSucc n =>
      rcases List.mem_cons.1 h with hminus | hdigit
      · exact .inl hminus
      · exact .inr (Text.isAsciiDigit_of_mem_decimal (n + 1) c hdigit)

theorem lineOf_ofInt (n : Int) : lineOf (Text.ofInt n) = n := by
  cases n with
  | ofNat n =>
      obtain ⟨d, ds, hd, hdigit, -⟩ := Text.exists_decimal_eq_cons n
      have hvalue := Numeral.value_decimal n
      rw [Text.isAsciiDigit_iff] at hdigit
      show lineOf (Text.decimal n) = n
      rw [hd] at hvalue ⊢
      unfold lineOf
      split
      · rename_i heq
        cases heq
        exact absurd hdigit.1 (by decide)
      · rw [hvalue]
  | negSucc n =>
      show -(Numeral.value ((Text.decimal (n + 1)).map (· - 0x30)) : Int) = Int.negSucc n
      rw [Numeral.value_decimal]
      rfl

/-- What stands in a key behind its line. -/
def numberText (n : Nat) : Text := if n = 1 then [] else hash :: Text.decimal n

theorem keyText_placeText (path : Text) (line : Int) (n : Nat) :
    keyText (placeText path line) n = path ++ colon :: (Text.ofInt line ++ numberText n) := by
  have hplace : placeText path line = path ++ colon :: Text.ofInt line := by
    simp [placeText, Text.cat, Text.ofString]
  have hkey : keyText (placeText path line) n = placeText path line ++ numberText n := by
    unfold keyText numberText
    split
    · exact (List.append_nil _).symm
    · simp [Text.cat, Text.ofString]
  rw [hkey, hplace, List.append_assoc, List.cons_append]

theorem ne_of_mem_ofInt {line : Int} {c : Code} (h : c ∈ Text.ofInt line) : c ≠ colon ∧ c ≠ hash := by
  rcases mem_ofInt h with rfl | hdigit
  · decide
  · rw [Text.isAsciiDigit_iff] at hdigit
    constructor <;> rintro rfl <;> revert hdigit <;> decide

theorem colon_notMem_numberText (n : Nat) : colon ∉ numberText n := by
  unfold numberText
  split
  · exact List.not_mem_nil
  · intro h
    rcases List.mem_cons.1 h with hmark | hdigit
    · exact absurd hmark (by decide)
    · exact absurd (Text.isAsciiDigit_of_mem_decimal n colon hdigit) (by decide)

/-- A key names its place, whatever its path and its number. -/
theorem placeOf_keyText (path : Text) (line : Int) (n : Nat) :
    placeOf (keyText (placeText path line) n) = (path, line) := by
  have hbehind : ∀ c ∈ (Text.ofInt line ++ numberText n).reverse, (c != colon) = true := by
    intro c hc
    rcases List.mem_append.1 (List.mem_reverse.1 hc) with hc | hc
    · simpa using (ne_of_mem_ofInt hc).1
    · simpa using ne_of_mem_of_not_mem hc (colon_notMem_numberText n)
  have hline : ∀ c ∈ Text.ofInt line, (c != hash) = true := fun c hc => by
    simpa using (ne_of_mem_ofInt hc).2
  have hnumber : (numberText n).takeWhile (· != hash) = [] := by
    unfold numberText
    split <;> simp
  rw [keyText_placeText, placeOf, List.reverse_append, List.reverse_cons, List.append_assoc,
    List.takeWhile_append_of_pos hbehind, List.dropWhile_append_of_pos hbehind]
  simp [List.takeWhile_append_of_pos hline, hnumber, lineOf_ofInt]

/-- A place tells its file and its line. -/
theorem placeText_injective {path path' : Text} {line line' : Int}
    (h : placeText path line = placeText path' line') : path = path' ∧ line = line' := by
  have hplace := congrArg (fun place => placeOf (keyText place 1)) h
  simpa only [placeOf_keyText, Prod.mk.injEq] using hplace

theorem numberText_injective {n m : Nat} (h : numberText n = numberText m) : n = m := by
  unfold numberText at h
  split at h <;> split at h
  · rename_i hn hm
    rw [hn, hm]
  · cases h
  · cases h
  · have hvalue := congrArg (fun t : Text => Numeral.value (t.map (· - 0x30))) (List.cons.inj h).2
    rwa [Numeral.value_decimal, Numeral.value_decimal] at hvalue

/-- A key tells its place and its number. -/
theorem keyText_injective {path path' : Text} {line line' : Int} {n m : Nat}
    (h : keyText (placeText path line) n = keyText (placeText path' line') m) :
    (path = path' ∧ line = line') ∧ n = m := by
  have hplace := congrArg placeOf h
  rw [placeOf_keyText, placeOf_keyText, Prod.mk.injEq] at hplace
  obtain ⟨rfl, rfl⟩ := hplace
  rw [keyText_placeText, keyText_placeText] at h
  have htail := (List.cons.inj (List.append_cancel_left h)).2
  exact ⟨⟨rfl, rfl⟩, numberText_injective (List.append_cancel_left htail)⟩

/-! ## What a factory gives out -/

/-- A factory numbers the findings at a place on from those that it has counted. -/
theorem exists_of_mem_given {keys : KeyFactory} {calls : List (Text × Int)} {key : Text}
    (h : key ∈ keys.given calls) :
    ∃ path line n, key = keyText (placeText path line) n ∧ keys.count (placeText path line) < n := by
  induction calls generalizing keys with
  | nil => cases h
  | cons call rest ih =>
      rcases List.mem_cons.1 h with rfl | hrest
      · exact ⟨call.1, call.2, _, rfl, Nat.lt_succ_self _⟩
      · obtain ⟨path, line, n, rfl, hlt⟩ := ih hrest
        refine ⟨path, line, n, rfl, Nat.lt_of_le_of_lt ?_ hlt⟩
        rw [count_next]
        split
        · exact Nat.le_succ _
        · exact Nat.le_refl _

/-- The keys that a factory gives out name the lines that it gives them out for. -/
theorem map_placeOf_given (keys : KeyFactory) (calls : List (Text × Int)) :
    (keys.given calls).map placeOf = calls := by
  induction calls generalizing keys with
  | nil => rfl
  | cons call rest ih =>
      rw [given, List.map_cons, ih, next, nextAt, placeOf_keyText]

/-- No key is given out twice. -/
theorem nodup_given (keys : KeyFactory) (calls : List (Text × Int)) : (keys.given calls).Nodup := by
  induction calls generalizing keys with
  | nil => exact List.nodup_nil
  | cons call rest ih =>
      refine List.nodup_cons.2 ⟨fun hmem => ?_, ih _⟩
      -- A key that comes later for the same place has a higher number.
      obtain ⟨path, line, n, hkey, hlt⟩ := exists_of_mem_given hmem
      obtain ⟨⟨rfl, rfl⟩, hn⟩ := keyText_injective hkey
      rw [count_next, if_pos rfl] at hlt
      omega

/-- Giving out keys for other files leaves the numbers of a file alone. -/
theorem count_after {calls : List (Text × Int)} {path : Text} (h : ∀ call ∈ calls, call.1 ≠ path)
    (keys : KeyFactory) (line : Int) :
    (keys.after calls).count (placeText path line) = keys.count (placeText path line) := by
  induction calls generalizing keys with
  | nil => rfl
  | cons call rest ih =>
      have hother : placeText path line ≠ placeText call.1 call.2 := fun heq =>
        h call (List.mem_cons_self ..) (placeText_injective heq).1.symm
      rw [after, ih (fun other hmem => h other (List.mem_cons_of_mem _ hmem)), count_next,
        if_neg hother]

end KeyFactory

end Mend
