import McpProxyFixtures.Python.Str

/-!
# Python's `int(s, 16)` and `format(n, "02X")`

`int(s, 16)` (`PyLong_FromUnicodeObject`) first maps every non-ASCII whitespace
character to a space and every non-ASCII decimal digit to its ASCII digit, then parses
the result with `PyLong_FromString`: leading ASCII whitespace, an optional sign, an
optional `0x` prefix followed by at most one underscore, base-16 digits with single
underscores between them, and trailing ASCII whitespace.  Anything else raises
`ValueError`, which is `none` here.  `format(n, "02X")` writes `n` in upper-case
hexadecimal, zero-padded to two digits.

Main results:

- Theorem {lit}`intBase16_hexPair`: two ASCII hexadecimal digits read as their value.
- Theorem {lit}`format02X_digits`: below 256, `format(n, "02X")` writes two upper-case
  ASCII hexadecimal digits whose base-16 value is `n`, so that `int(_, 16)` reads `n` back.
-/

namespace McpProxyFixtures
namespace Python

/-! ## Parsing -/

/-- `Py_ISSPACE`: the ASCII whitespace of C's `isspace`. -/
def isAsciiSpace (c : Char) : Bool :=
  c = ' ' || c = '\t' || c = '\n' || c = '\x0b' || c = '\x0c' || c = '\r'

/-- `_PyLong_DigitValue`: the value of an ASCII digit or letter, 37 for anything else. -/
def digitValue (c : Char) : Nat :=
  if '0' ≤ c ∧ c ≤ '9' then c.toNat - 48
  else if 'a' ≤ c ∧ c ≤ 'z' then c.toNat - 87
  else if 'A' ≤ c ∧ c ≤ 'Z' then c.toNat - 55
  else 37

/-- `_PyUnicode_TransformDecimalAndSpaceToASCII` on one character; `decimalValue` is
`Py_UNICODE_TODECIMAL`, the Unicode table of decimal digits.  A character it cannot map
becomes `?`, which no later step accepts. -/
def transformDecimalAndSpace (decimalValue : Char → Option Nat) (c : Char) : Char :=
  if c.toNat < 127 then c
  else if isSpace c then ' '
  else
    match decimalValue c with
    | some d => Char.ofNat (48 + d)
    | none => '?'

/-- The digit loop after the first digit: an underscore must stand between two digits.
Returns the value read and what follows the digits. -/
def readDigitsFrom (acc : Nat) : List Char → Option (Nat × List Char)
  | '_' :: c :: rest =>
    if digitValue c < 16 then readDigitsFrom (acc * 16 + digitValue c) rest else none
  | c :: rest =>
    if digitValue c < 16 then readDigitsFrom (acc * 16 + digitValue c) rest
    else some (acc, c :: rest)
  | [] => some (acc, [])

/-- The digits of a base-16 literal: a digit first, then the loop. -/
def readDigits : List Char → Option (Nat × List Char)
  | c :: rest => if digitValue c < 16 then readDigitsFrom (digitValue c) rest else none
  | [] => none

/-- The optional sign. -/
def readSign : List Char → Int × List Char
  | '+' :: rest => (1, rest)
  | '-' :: rest => (-1, rest)
  | cs => (1, cs)

/-- The optional `0x` or `0X` prefix of base 16, and one underscore after it. -/
def dropHexPrefix : List Char → List Char
  | '0' :: x :: rest =>
    if x = 'x' ∨ x = 'X' then
      match rest with
      | '_' :: rest' => rest'
      | rest' => rest'
    else '0' :: x :: rest
  | cs => cs

/-- `int(s, 16)`; `none` where it raises `ValueError`. -/
def intBase16 (decimalValue : Char → Option Nat) (s : String) : Option Int :=
  let cs := (s.data.map (transformDecimalAndSpace decimalValue)).dropWhile isAsciiSpace
  match readDigits (dropHexPrefix (readSign cs).2) with
  | some (value, rest) => if rest.all isAsciiSpace then some ((readSign cs).1 * value) else none
  | none => none

/-! ## Formatting -/

/-- `format(n, "02X")` for `n ≥ 0`. -/
def format02X (n : Nat) : String :=
  let digits := (Nat.toDigits 16 n).map Char.toUpper
  ⟨List.replicate (2 - digits.length) '0' ++ digits⟩

/-- The ASCII hexadecimal digits, `[0-9A-Fa-f]`. -/
def asciiHexDigits : List Char :=
  "0123456789abcdefABCDEF".data

/-! ## Properties -/

theorem transformDecimalAndSpace_of_lt (decimalValue : Char → Option Nat) {c : Char}
    (h : c.toNat < 127) : transformDecimalAndSpace decimalValue c = c := by
  rw [transformDecimalAndSpace, if_pos h]

/-- Facts about each ASCII hexadecimal digit. -/
theorem asciiHexDigits_facts :
    ∀ c ∈ asciiHexDigits, c.toNat < 127 ∧ isAsciiSpace c = false ∧ digitValue c < 16 ∧
      c ≠ '+' ∧ c ≠ '-' ∧ c ≠ '_' ∧ (Nat.digitChar (digitValue c)).toUpper = c.toUpper := by
  decide

/-- The upper-case digit of every value below 16 reads back as that value. -/
theorem digitValue_digitChar_toUpper : ∀ d < 16, digitValue (Nat.digitChar d).toUpper = d ∧
    (Nat.digitChar d).toUpper ∈ asciiHexDigits ∧
    (Nat.digitChar d).toUpper.toUpper = (Nat.digitChar d).toUpper := by
  decide

/-- `Nat.toDigits 16` below 256: one digit, or two. -/
theorem toDigits_sixteen {n : Nat} (h : n < 256) :
    Nat.toDigits 16 n =
      if n < 16 then [Nat.digitChar n] else [Nat.digitChar (n / 16), Nat.digitChar (n % 16)] := by
  have hstep : ∀ fuel m ds, Nat.toDigitsCore 16 (fuel + 1) m ds =
      if m / 16 = 0 then Nat.digitChar (m % 16) :: ds
      else Nat.toDigitsCore 16 fuel (m / 16) (Nat.digitChar (m % 16) :: ds) := fun _ _ _ => rfl
  show Nat.toDigitsCore 16 (n + 1) n [] = _
  rw [hstep]
  by_cases hn : n < 16
  · simp [Nat.div_eq_of_lt hn, Nat.mod_eq_of_lt hn, hn]
  · obtain ⟨k, rfl⟩ : ∃ k, n = k + 1 := ⟨n - 1, by omega⟩
    have h1 : (k + 1) / 16 ≠ 0 := by omega
    have h2 : (k + 1) / 16 / 16 = 0 := by omega
    have h3 : (k + 1) / 16 % 16 = (k + 1) / 16 := Nat.mod_eq_of_lt (by omega)
    simp [h1, hstep, h2, h3, hn]

/-- `format(n, "02X")` below 256: the upper-case digits of `n / 16` and `n % 16`. -/
theorem format02X_of_lt {n : Nat} (h : n < 256) :
    format02X n = ⟨[(Nat.digitChar (n / 16)).toUpper, (Nat.digitChar (n % 16)).toUpper]⟩ := by
  by_cases hn : n < 16
  · simp [format02X, toDigits_sixteen h, hn, Nat.div_eq_of_lt hn, Nat.mod_eq_of_lt hn]
    rfl
  · simp [format02X, toDigits_sixteen h, hn]

/-- The two digits `format(n, "02X")` writes below 256: upper-case ASCII hexadecimal
digits whose base-16 value is `n`. -/
theorem format02X_digits {n : Nat} (h : n < 256) :
    ∃ x y, format02X n = ⟨[x, y]⟩ ∧ x ∈ asciiHexDigits ∧ y ∈ asciiHexDigits ∧
      x.toUpper = x ∧ y.toUpper = y ∧ 16 * digitValue x + digitValue y = n := by
  obtain ⟨hx1, hx2, hx3⟩ := digitValue_digitChar_toUpper (n / 16) (by omega)
  obtain ⟨hy1, hy2, hy3⟩ := digitValue_digitChar_toUpper (n % 16) (by omega)
  exact ⟨_, _, format02X_of_lt h, hx2, hy2, hx3, hy3, by omega⟩

/-- Two ASCII hexadecimal digits read as their base-16 value. -/
theorem intBase16_hexPair (decimalValue : Char → Option Nat) {a b : Char}
    (ha : a ∈ asciiHexDigits) (hb : b ∈ asciiHexDigits) :
    intBase16 decimalValue ⟨[a, b]⟩ = some ((16 * digitValue a + digitValue b : Nat) : Int) := by
  obtain ⟨ha1, ha2, ha3, ha4, ha5, -, -⟩ := asciiHexDigits_facts a ha
  obtain ⟨hb1, hb2, hb3, -, -, hb6, -⟩ := asciiHexDigits_facts b hb
  have hprefix : dropHexPrefix [a, b] = [a, b] := by
    unfold dropHexPrefix
    split
    · next x rest h =>
      obtain ⟨rfl, rfl, rfl⟩ : a = '0' ∧ b = x ∧ rest = [] := by simpa using h
      rw [if_neg (fun hx => by rcases hx with rfl | rfl <;> exact absurd hb (by decide))]
    · rfl
  have hsign : readSign [a, b] = (1, [a, b]) := by
    unfold readSign
    split <;> simp_all
  simp only [intBase16, List.map_cons, List.map_nil, transformDecimalAndSpace_of_lt _ ha1,
    transformDecimalAndSpace_of_lt _ hb1, List.dropWhile_cons, ha2, Bool.false_eq_true, if_false,
    hsign, hprefix, readDigits, if_pos ha3, readDigitsFrom, if_pos hb3]
  simp
  omega

end Python
end McpProxyFixtures
