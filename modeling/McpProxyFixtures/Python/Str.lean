import Mathlib.Data.List.Nodup

/-!
# Python string, list and dictionary primitives

The fixtures are Python, and their string handling goes through a handful of `str`
methods and through dictionaries built from key/value pairs (JSON objects, form bodies,
query strings and the constant tables).  This module fixes those operations on Lean
strings, whose characters are Unicode scalar values, so that the handlers of later
modules read as the source does.

Main results:

- Theorem {lit}`dictGet_append_singleton`: a later pair overrides every earlier pair for
  the same key, as a Python dictionary display or comprehension does.
- Theorem {lit}`pySplit_pyJoin`: `s.split(c)` undoes `c.join(parts)` when no part contains
  `c`.
- Theorem {lit}`pyStrip_eq_self`: `strip` leaves a string alone when neither end is
  whitespace.
-/

namespace McpProxyFixtures
namespace Python

/-! ## Dictionaries built from pairs -/

/-- `dict(pairs).get(k)`: a later pair for the same key replaces an earlier one. -/
def dictGet {α β : Type} [DecidableEq α] (pairs : List (α × β)) (k : α) : Option β :=
  pairs.reverse.lookup k

@[simp]
theorem dictGet_nil {α β : Type} [DecidableEq α] (k : α) : dictGet ([] : List (α × β)) k = none :=
  rfl

/-- The last pair for a key decides the lookup. -/
theorem dictGet_append_singleton {α β : Type} [DecidableEq α] (pairs : List (α × β))
    (k k' : α) (v : β) :
    dictGet (pairs ++ [(k', v)]) k = if k = k' then some v else dictGet pairs k := by
  by_cases h : k = k'
  · simp [dictGet, List.lookup_cons, h]
  · simp [dictGet, List.lookup_cons, h, beq_false_of_ne h]

/-- A key found in a dictionary comes from one of its pairs. -/
theorem dictGet_mem {α β : Type} [DecidableEq α] {pairs : List (α × β)} {k : α} {v : β}
    (h : dictGet pairs k = some v) : (k, v) ∈ pairs := by
  obtain ⟨l₁, l₂, hl, -⟩ := List.lookup_eq_some_iff.mp h
  exact List.mem_reverse.mp (hl ▸ List.mem_append_right _ (List.mem_cons_self _ _))

/-- `k in d`: a key is found exactly when some pair has it. -/
theorem dictGet_isSome_iff {α β : Type} [DecidableEq α] {pairs : List (α × β)} {k : α} :
    (dictGet pairs k).isSome ↔ k ∈ pairs.map Prod.fst := by
  rw [dictGet, ← List.mem_reverse, ← List.map_reverse]
  induction pairs.reverse with
  | nil => simp
  | cons p ps ih =>
    by_cases h : k = p.1
    · simp [List.lookup_cons, h]
    · simp [List.lookup_cons, h, beq_false_of_ne h, ih]

/-- With distinct keys, every pair is found under its key. -/
theorem dictGet_of_mem {α β : Type} [DecidableEq α] {pairs : List (α × β)} {k : α} {v : β}
    (hnodup : (pairs.map Prod.fst).Nodup) (h : (k, v) ∈ pairs) : dictGet pairs k = some v := by
  rw [dictGet]
  rw [← List.nodup_reverse, ← List.map_reverse] at hnodup
  rw [← List.mem_reverse] at h
  generalize pairs.reverse = ps at hnodup h
  induction ps with
  | nil => cases h
  | cons p ps ih =>
    rw [List.map_cons, List.nodup_cons] at hnodup
    rcases List.mem_cons.mp h with rfl | h
    · simp [List.lookup_cons]
    · have hne : k ≠ p.1 := fun hk => hnodup.1 (hk ▸ List.mem_map_of_mem Prod.fst h)
      rw [List.lookup_cons, beq_false_of_ne hne]
      exact ih hnodup.2 h

/-! ## Splitting, joining and stripping -/

/-- `s.split(sep)` for a one-character separator: every occurrence splits, so adjacent
separators leave empty parts and the empty string splits into one empty part. -/
def pySplit (s : String) (sep : Char) : List String :=
  (s.data.splitOn sep).map String.mk

/-- `sep.join(parts)`. -/
def pyJoin (sep : String) (parts : List String) : String :=
  ⟨sep.data.intercalate (parts.map String.data)⟩

/-- `str.isspace` on one character (`Py_UNICODE_ISSPACE`): the characters of
bidirectional class WS, B or S, and those of category Zs. -/
def isSpace (c : Char) : Bool :=
  let n := c.toNat
  (0x09 ≤ n && n ≤ 0x0D) || (0x1C ≤ n && n ≤ 0x20) || n == 0x85 || n == 0xA0 ||
    n == 0x1680 || (0x2000 ≤ n && n ≤ 0x200A) || n == 0x2028 || n == 0x2029 ||
    n == 0x202F || n == 0x205F || n == 0x3000

/-- `s.strip()`: whitespace removed from both ends. -/
def pyStrip (s : String) : String :=
  ⟨((s.data.dropWhile isSpace).reverse.dropWhile isSpace).reverse⟩

/-- `s.lstrip(c)` for a single character `c`. -/
def pyLstrip (s : String) (c : Char) : String :=
  ⟨s.data.dropWhile (· == c)⟩

/-- `s.upper()`: every character is replaced by its full upper-case mapping.  ASCII
letters map to their capitals and other ASCII characters to themselves; the Unicode
table `upperNonAscii` gives the mapping of every other character, possibly several
characters long (`'ß'` becomes `"SS"`). -/
def pyUpper (upperNonAscii : Char → List Char) (s : String) : String :=
  ⟨s.data.flatMap fun c => if c.toNat < 128 then [c.toUpper] else upperNonAscii c⟩

/-- `s.lower()`: every character is replaced by its full lower-case mapping, given beyond
ASCII by the Unicode table `lowerNonAscii`. -/
def pyLower (lowerNonAscii : Char → List Char) (s : String) : String :=
  ⟨s.data.flatMap fun c => if c.toNat < 128 then [c.toLower] else lowerNonAscii c⟩

/-- Splitting on the separator undoes joining with it. -/
theorem pySplit_pyJoin {parts : List String} {sep : Char}
    (hsep : ∀ p ∈ parts, sep ∉ p.data) (hne : parts ≠ []) :
    pySplit (pyJoin ⟨[sep]⟩ parts) sep = parts := by
  have hmap : ∀ l ∈ parts.map String.data, sep ∉ l := by
    simpa using hsep
  simp only [pySplit, pyJoin, List.splitOn_intercalate _ sep hmap (by simpa using hne),
    List.map_map]
  exact List.map_id'' (fun _ => rfl) parts

/-- A character of `sep.join(parts)` is a character of the separator or of a part. -/
theorem mem_intercalate {α : Type} {sep : List α} {ls : List (List α)} {c : α}
    (h : c ∈ sep.intercalate ls) : c ∈ sep ∨ ∃ l ∈ ls, c ∈ l := by
  induction ls with
  | nil => simp [List.intercalate] at h
  | cons l ls ih =>
    cases ls with
    | nil => exact .inr ⟨l, List.mem_singleton_self l, by simpa [List.intercalate] using h⟩
    | cons l' ls =>
      simp only [List.intercalate, List.intersperse_cons_cons, List.flatten_cons,
        List.mem_append] at h ih
      rcases h with h | h | h
      · exact .inr ⟨l, List.mem_cons_self _ _, h⟩
      · exact .inl h
      · rcases ih h with h | ⟨l'', hl'', h⟩
        · exact .inl h
        · exact .inr ⟨l'', List.mem_cons_of_mem _ hl'', h⟩

/-- Dropping leading whitespace changes nothing when the first character is not
whitespace. -/
theorem dropWhile_isSpace_of_head {l : List Char}
    (h : ∀ c ∈ l.head?, isSpace c = false) : l.dropWhile isSpace = l := by
  cases l with
  | nil => rfl
  | cons c l => simp [List.dropWhile_cons, h c rfl]

/-- `strip` leaves a string alone when neither end is whitespace. -/
theorem pyStrip_eq_self {s : String} (hhead : ∀ c ∈ s.data.head?, isSpace c = false)
    (hlast : ∀ c ∈ s.data.getLast?, isSpace c = false) : pyStrip s = s := by
  have hrev : ∀ c ∈ s.data.reverse.head?, isSpace c = false := by
    simpa [List.head?_reverse] using hlast
  simp only [pyStrip, dropWhile_isSpace_of_head hhead, dropWhile_isSpace_of_head hrev,
    List.reverse_reverse]

/-- Joining two or more parts: the first, the separator, then the join of the rest. -/
theorem pyJoin_cons_cons_data (sep p q : String) (qs : List String) :
    (pyJoin sep (p :: q :: qs)).data = p.data ++ (sep.data ++ (pyJoin sep (q :: qs)).data) :=
  rfl

/-- `sep.join(parts)` starts with its first part. -/
theorem pyJoin_cons_data (sep p : String) (ps : List String) :
    ∃ rest, (pyJoin sep (p :: ps)).data = p.data ++ rest := by
  cases ps with
  | nil => exact ⟨[], by simp [pyJoin, List.intercalate]⟩
  | cons q qs => exact ⟨_, pyJoin_cons_cons_data sep p q qs⟩

/-- `sep.join(parts)` ends with its last part. -/
theorem pyJoin_concat_data (sep p : String) (ps : List String) :
    ∃ init, (pyJoin sep (ps ++ [p])).data = init ++ p.data := by
  induction ps with
  | nil => exact ⟨[], by simp [pyJoin, List.intercalate]⟩
  | cons q qs ih =>
    obtain ⟨init, hinit⟩ := ih
    obtain ⟨r, rs, hr⟩ : ∃ r rs, qs ++ [p] = r :: rs :=
      List.exists_cons_of_ne_nil (List.append_ne_nil_of_right_ne_nil _ (List.cons_ne_nil _ _))
    refine ⟨q.data ++ (sep.data ++ init), ?_⟩
    rw [List.cons_append, hr, pyJoin_cons_cons_data, ← hr, hinit]
    simp only [List.append_assoc]

/-- `strip` leaves `sep.join(parts)` alone when the parts are non-empty and hold no
whitespace. -/
theorem pyStrip_pyJoin {sep : String} {parts : List String}
    (hparts : ∀ p ∈ parts, p.data ≠ [] ∧ ∀ c ∈ p.data, isSpace c = false) :
    pyStrip (pyJoin sep parts) = pyJoin sep parts := by
  rcases parts with _ | ⟨p, ps⟩
  · rfl
  obtain ⟨rest, hfirst⟩ := pyJoin_cons_data sep p ps
  obtain ⟨init, last, hconcat⟩ := (List.eq_nil_or_concat (p :: ps)).resolve_left (List.cons_ne_nil _ _)
  rw [List.concat_eq_append] at hconcat
  obtain ⟨init', hlast⟩ := pyJoin_concat_data sep last init
  have hp := hparts p (List.mem_cons_self _ _)
  have hl := hparts last (hconcat ▸ List.mem_concat_self _ _)
  refine pyStrip_eq_self (fun c hc => hp.2 c ?_) (fun c hc => hl.2 c ?_)
  · rw [hfirst, List.head?_append_of_ne_nil _ hp.1] at hc
    exact List.mem_of_mem_head? hc
  · rw [hconcat, hlast, List.getLast?_append_of_ne_nil _ hl.1] at hc
    exact List.mem_of_mem_getLast? hc

/-- `upper` maps ASCII characters one by one. -/
theorem pyUpper_of_ascii (upperNonAscii : Char → List Char) {l : List Char}
    (h : ∀ c ∈ l, c.toNat < 128) : pyUpper upperNonAscii ⟨l⟩ = ⟨l.map Char.toUpper⟩ := by
  show String.mk (l.flatMap _) = _
  congr 1
  induction l with
  | nil => rfl
  | cons c l ih =>
    rw [List.flatMap_cons, if_pos (h c (List.mem_cons_self _ _)), List.singleton_append,
      ih fun c hc => h c (List.mem_cons_of_mem _ hc), List.map_cons]

/-- `upper` leaves a string alone whose characters are ASCII and their own capitals. -/
theorem pyUpper_eq_self (upperNonAscii : Char → List Char) {s : String}
    (h : ∀ c ∈ s.data, c.toNat < 128 ∧ c.toUpper = c) : pyUpper upperNonAscii s = s := by
  obtain ⟨l⟩ := s
  rw [pyUpper_of_ascii upperNonAscii fun c hc => (h c hc).1]
  exact congrArg String.mk
    ((List.map_congr_left fun c hc => (h c hc).2).trans (List.map_id' l))

/-- `lower` maps ASCII characters one by one. -/
theorem pyLower_of_ascii (lowerNonAscii : Char → List Char) {l : List Char}
    (h : ∀ c ∈ l, c.toNat < 128) : pyLower lowerNonAscii ⟨l⟩ = ⟨l.map Char.toLower⟩ := by
  show String.mk (l.flatMap _) = _
  congr 1
  induction l with
  | nil => rfl
  | cons c l ih =>
    rw [List.flatMap_cons, if_pos (h c (List.mem_cons_self _ _)), List.singleton_append,
      ih fun c hc => h c (List.mem_cons_of_mem _ hc), List.map_cons]

/-- `s.lower().strip()`, the key the fixture servers look names up under. -/
def pyLowerStrip (lowerNonAscii : Char → List Char) (s : String) : String :=
  pyStrip (pyLower lowerNonAscii s)

/-- A name that `lower().strip()` treats letter by letter: its characters are ASCII, and
neither end is whitespace once lowered. -/
def AsciiName (s : String) : Prop :=
  (∀ c ∈ s.data, c.toNat < 128) ∧ (∀ c ∈ s.data.head?, isSpace c.toLower = false) ∧
    ∀ c ∈ s.data.getLast?, isSpace c.toLower = false

instance : DecidablePred AsciiName := fun _ => inferInstanceAs (Decidable (_ ∧ _ ∧ _))

/-- For an ASCII name `lower().strip()` only lowers the letters. -/
theorem pyLowerStrip_of_asciiName (lowerNonAscii : Char → List Char) {s : String}
    (h : AsciiName s) : pyLowerStrip lowerNonAscii s = ⟨s.data.map Char.toLower⟩ := by
  obtain ⟨hascii, hhead, hlast⟩ := h
  rw [pyLowerStrip, pyLower_of_ascii lowerNonAscii hascii]
  refine pyStrip_eq_self (fun c hc => ?_) (fun c hc => ?_)
  · rw [List.head?_map, Option.mem_def, Option.map_eq_some'] at hc
    obtain ⟨c, hc, rfl⟩ := hc
    exact hhead c hc
  · rw [List.getLast?_map, Option.mem_def, Option.map_eq_some'] at hc
    obtain ⟨c, hc, rfl⟩ := hc
    exact hlast c hc

/-- `lower().strip()` leaves an ASCII name alone whose letters are already lower case. -/
theorem pyLowerStrip_eq_self (lowerNonAscii : Char → List Char) {s : String}
    (h : AsciiName s) (hlower : s.data.map Char.toLower = s.data) :
    pyLowerStrip lowerNonAscii s = s := by
  rw [pyLowerStrip_of_asciiName lowerNonAscii h, hlower]

/-! ## Lists -/

/-- `xs[i]` for an integer index: a negative index counts from the end, and `none` stands
where Python raises `IndexError`. -/
def pyGetItem {α : Type} (xs : List α) (i : Int) : Option α :=
  if 0 ≤ i then xs[i.toNat]? else if -(xs.length : Int) ≤ i then xs[(xs.length + i).toNat]? else none

/-- A slice bound as CPython adjusts it: a negative bound counts from the end, then the
bound is clamped to `0 .. len`. -/
def sliceBound (len : Nat) (i : Int) : Nat :=
  if i < 0 then (len + i).toNat else min i.toNat len

/-- `xs[start:stop]`. -/
def pySlice {α : Type} (xs : List α) (start stop : Int) : List α :=
  (xs.drop (sliceBound xs.length start)).take (sliceBound xs.length stop - sliceBound xs.length start)

theorem pyGetItem_of_nonneg {α : Type} (xs : List α) (i : Nat) : pyGetItem xs i = xs[i]? := by
  rw [pyGetItem, if_pos (by omega)]
  rfl

theorem pyGetItem_of_neg {α : Type} (xs : List α) {i : Nat} (hi : 0 < i) (hle : i ≤ xs.length) :
    pyGetItem xs (-(i : Int)) = xs[xs.length - i]? := by
  rw [pyGetItem, if_neg (by omega), if_pos (by omega)]
  congr 1
  omega

/-- Index `i` reads entry `k` when it names `k` from the front or from the end. -/
theorem pyGetItem_eq_getElem {α : Type} (xs : List α) {i : Int} {k : Nat} (hk : k < xs.length)
    (hi : i = k ∨ i = k - xs.length) : pyGetItem xs i = some xs[k] := by
  rcases hi with rfl | rfl
  · rw [pyGetItem_of_nonneg, List.getElem?_eq_getElem hk]
  · rw [pyGetItem, if_neg (by omega), if_pos (by omega),
      show (xs.length + (k - xs.length : Int)).toNat = k by omega, List.getElem?_eq_getElem hk]

theorem pyGetItem_eq_none {α : Type} (xs : List α) {i : Int} (hi : i < -(xs.length : Int)) :
    pyGetItem xs i = none := by
  rw [pyGetItem, if_neg (by omega), if_neg (by omega)]

/-- A slice between two bounds inside the list. -/
theorem pySlice_of_le {α : Type} (xs : List α) {start stop : Nat} (hstop : stop ≤ xs.length) :
    pySlice xs start stop = (xs.drop start).take (stop - start) := by
  have h1 : sliceBound xs.length start = min start xs.length := by
    rw [sliceBound, if_neg (by omega)]
    rfl
  have h2 : sliceBound xs.length stop = stop := by
    rw [sliceBound, if_neg (by omega), Int.toNat_ofNat, Nat.min_eq_left hstop]
  rw [pySlice, h1, h2]
  by_cases h : start ≤ xs.length
  · rw [Nat.min_eq_left h]
  · rw [Nat.min_eq_right (by omega), List.drop_of_length_le (by omega),
      List.drop_of_length_le (by omega), List.take_nil, List.take_nil]

/-- Indexing reads positions only, so it commutes with mapping the entries. -/
theorem pyGetItem_map {α β : Type} (f : α → β) (xs : List α) (i : Int) :
    pyGetItem (xs.map f) i = (pyGetItem xs i).map f := by
  simp only [pyGetItem, List.length_map, List.getElem?_map]
  split_ifs <;> rfl

/-- Slicing reads positions only, so it commutes with mapping the entries. -/
theorem pySlice_map {α β : Type} (f : α → β) (xs : List α) (start stop : Int) :
    pySlice (xs.map f) start stop = (pySlice xs start stop).map f := by
  rw [pySlice, pySlice, List.length_map, List.map_take, List.map_drop]

/-- `xs[:n]`: Python clamps the end of a slice to the list. -/
theorem pySlice_zero {α : Type} (xs : List α) (n : Nat) : pySlice xs 0 n = xs.take n := by
  have h0 : sliceBound xs.length 0 = 0 := by
    rw [sliceBound, if_neg (by omega)]
    simp
  have hn : sliceBound xs.length n = min n xs.length := by
    rw [sliceBound, if_neg (by omega)]
    rfl
  rw [pySlice, h0, hn, List.drop_zero, Nat.sub_zero]
  by_cases h : n ≤ xs.length
  · rw [Nat.min_eq_left h]
  · rw [Nat.min_eq_right (by omega), List.take_of_length_le le_rfl,
      List.take_of_length_le (by omega)]

end Python
end McpProxyFixtures
