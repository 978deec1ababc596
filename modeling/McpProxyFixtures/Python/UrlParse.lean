import McpProxyFixtures.Python.Str

/-!
# Percent-encoding: `urllib.parse` and the form parser

The OAuth mock builds its redirect with `urllib.parse.urlencode`, whose values go through
`quote_plus`, and Starlette writes the `location` header with `quote`.  This module
models those encoders octet by octet as CPython does: the UTF-8 octets of the text, each
written as itself when safe and as `%XX` otherwise.  To read a query back it gives the
`application/x-www-form-urlencoded` parser a client uses: split on `&`, split at the first
`=`, `+` to a space, percent-decode, strict UTF-8 decode.

Main results:

- Theorem {lit}`utf8Decode_utf8Encode`: strict UTF-8 decoding inverts encoding.
- Theorem {lit}`quotePlus_eq_flatMap`: the two branches of `quote_plus` write every octet
  on its own.
- Theorem {lit}`decodeComponent_quotePlus`: the form parser reads back what `quote_plus`
  wrote, for every string.
- Theorem {lit}`formDecode_urlencode`: the form parser inverts `urlencode` on every list of
  string pairs.
- Theorems {lit}`quote_append` and {lit}`quote_eq_self`: `quote` works character by
  character and leaves safe ASCII text alone.
-/

namespace McpProxyFixtures
namespace Python

/-- A code point below the surrogates is its own character. -/
theorem toNat_ofNat_of_valid {n : Nat} (h : n.isValidChar) : (Char.ofNat n).toNat = n := by
  rw [Char.ofNat, dif_pos h]
  rfl

/-! ## UTF-8 -/

/-- The UTF-8 octets of one character. -/
def utf8EncodeChar (c : Char) : List Nat :=
  let n := c.toNat
  if n < 0x80 then [n]
  else if n < 0x800 then [0xC0 + n / 0x40, 0x80 + n % 0x40]
  else if n < 0x10000 then [0xE0 + n / 0x1000, 0x80 + n / 0x40 % 0x40, 0x80 + n % 0x40]
  else [0xF0 + n / 0x40000, 0x80 + n / 0x1000 % 0x40, 0x80 + n / 0x40 % 0x40, 0x80 + n % 0x40]

/-- `s.encode("utf-8")`. -/
def utf8Encode (s : List Char) : List Nat :=
  s.flatMap utf8EncodeChar

/-- A continuation octet, `10xxxxxx`. -/
def isCont (b : Nat) : Bool :=
  0x80 ≤ b && b < 0xC0

/-- Strict UTF-8 decoding as a machine over the octets.  Between characters `owed` is
zero; inside a sequence it counts the continuation octets still to come, `acc` holds the
bits read so far and `least` is the smallest value the sequence may encode, so that
overlong forms are refused.  Any ill-formed input decodes to `none`. -/
def utf8DecodeFrom : Nat → Nat → Nat → List Nat → Option (List Char)
  | 0, _, _, [] => some []
  | _ + 1, _, _, [] => none
  | 0, _, _, b :: rest =>
    if b < 0x80 then (Char.ofNat b :: ·) <$> utf8DecodeFrom 0 0 0 rest
    else if b < 0xC2 then none
    else if b < 0xE0 then utf8DecodeFrom 1 (b - 0xC0) 0x80 rest
    else if b < 0xF0 then utf8DecodeFrom 2 (b - 0xE0) 0x800 rest
    else if b < 0xF5 then utf8DecodeFrom 3 (b - 0xF0) 0x10000 rest
    else none
  | k + 1, acc, least, b :: rest =>
    if isCont b then
      if k = 0 then
        if least ≤ acc * 0x40 + (b - 0x80) ∧ (acc * 0x40 + (b - 0x80)).isValidChar then
          (Char.ofNat (acc * 0x40 + (b - 0x80)) :: ·) <$> utf8DecodeFrom 0 0 0 rest
        else none
      else utf8DecodeFrom k (acc * 0x40 + (b - 0x80)) least rest
    else none

/-- `bytes.decode("utf-8")` with strict errors. -/
def utf8Decode (bs : List Nat) : Option (List Char) :=
  utf8DecodeFrom 0 0 0 bs

@[simp]
theorem utf8Encode_nil : utf8Encode [] = [] :=
  rfl

@[simp]
theorem utf8Encode_cons (c : Char) (s : List Char) :
    utf8Encode (c :: s) = utf8EncodeChar c ++ utf8Encode s :=
  List.flatMap_cons c s _

@[simp]
theorem utf8Encode_append (s t : List Char) :
    utf8Encode (s ++ t) = utf8Encode s ++ utf8Encode t :=
  List.flatMap_append s t _

/-- An ASCII character is the single octet of its code. -/
theorem utf8EncodeChar_of_lt {c : Char} (h : c.toNat < 0x80) : utf8EncodeChar c = [c.toNat] := by
  simp [utf8EncodeChar, h]

/-- Every octet of an encoding is below 256, and only an ASCII character writes one below
0x80. -/
theorem utf8EncodeChar_bounds {c : Char} {b : Nat} (hb : b ∈ utf8EncodeChar c) :
    b < 0x100 ∧ (b < 0x80 → b = c.toNat) := by
  have hc := c.valid
  simp only [Nat.isValidChar, Char.toNat] at hc ⊢
  simp only [utf8EncodeChar, Char.toNat] at hb
  split_ifs at hb <;> simp only [List.mem_cons, List.mem_singleton, List.not_mem_nil,
    or_false] at hb <;> omega

/-! ### Steps of the decoding machine -/

section DecodeSteps

variable {b acc least : Nat} (rest : List Nat)

theorem utf8DecodeFrom_ascii (h : b < 0x80) :
    utf8DecodeFrom 0 0 0 (b :: rest) = (Char.ofNat b :: ·) <$> utf8DecodeFrom 0 0 0 rest := by
  simp [utf8DecodeFrom, h]

theorem utf8DecodeFrom_lead2 (h1 : 0xC2 ≤ b) (h2 : b < 0xE0) :
    utf8DecodeFrom 0 0 0 (b :: rest) = utf8DecodeFrom 1 (b - 0xC0) 0x80 rest := by
  simp only [utf8DecodeFrom]
  rw [if_neg (by omega), if_neg (by omega), if_pos h2]

theorem utf8DecodeFrom_lead3 (h1 : 0xE0 ≤ b) (h2 : b < 0xF0) :
    utf8DecodeFrom 0 0 0 (b :: rest) = utf8DecodeFrom 2 (b - 0xE0) 0x800 rest := by
  simp only [utf8DecodeFrom]
  rw [if_neg (by omega), if_neg (by omega), if_neg (by omega), if_pos h2]

theorem utf8DecodeFrom_lead4 (h1 : 0xF0 ≤ b) (h2 : b < 0xF5) :
    utf8DecodeFrom 0 0 0 (b :: rest) = utf8DecodeFrom 3 (b - 0xF0) 0x10000 rest := by
  simp only [utf8DecodeFrom]
  rw [if_neg (by omega), if_neg (by omega), if_neg (by omega), if_neg (by omega), if_pos h2]

theorem utf8DecodeFrom_cont {k : Nat} (h1 : 0x80 ≤ b) (h2 : b < 0xC0) :
    utf8DecodeFrom (k + 2) acc least (b :: rest)
      = utf8DecodeFrom (k + 1) (acc * 0x40 + (b - 0x80)) least rest := by
  simp [utf8DecodeFrom, isCont, h1, h2]

theorem utf8DecodeFrom_last (h1 : 0x80 ≤ b) (h2 : b < 0xC0)
    (hleast : least ≤ acc * 0x40 + (b - 0x80)) (hvalid : (acc * 0x40 + (b - 0x80)).isValidChar) :
    utf8DecodeFrom 1 acc least (b :: rest)
      = (Char.ofNat (acc * 0x40 + (b - 0x80)) :: ·) <$> utf8DecodeFrom 0 0 0 rest := by
  simp only [utf8DecodeFrom, isCont]
  rw [if_pos (by simp only [Bool.and_eq_true, decide_eq_true_eq]; omega), if_pos trivial,
    if_pos ⟨hleast, hvalid⟩]

end DecodeSteps

/-- A continuation octet `0x80 + y % 0x40` carries the low six bits of `y`. -/
theorem contOctet_facts (y : Nat) :
    0x80 ≤ 0x80 + y % 0x40 ∧ 0x80 + y % 0x40 < 0xC0 ∧ 0x80 + y % 0x40 - 0x80 = y % 0x40 :=
  ⟨Nat.le_add_right _ _, by omega, Nat.add_sub_cancel_left _ _⟩

/-- Six more bits: the base-64 digits above `k`, then the digit at `k`. -/
theorem div_mul_sixtyFour_add (m k : Nat) : m / (k * 0x40) * 0x40 + m / k % 0x40 = m / k := by
  rw [← Nat.div_div_eq_div_mul, Nat.div_add_mod']

/-- Decoding one encoded character consumes exactly its octets. -/
theorem utf8Decode_encodeChar_append (c : Char) (rest : List Nat) :
    utf8Decode (utf8EncodeChar c ++ rest) = (c :: ·) <$> utf8Decode rest := by
  have hvalid : c.toNat.isValidChar := c.valid
  -- the last octet of a sequence whose bits add up to `c`
  have hlast : ∀ {acc least n : Nat}, acc * 0x40 + n % 0x40 = c.toNat → least ≤ c.toNat →
      utf8DecodeFrom 1 acc least ((0x80 + n % 0x40) :: rest) =
        (c :: ·) <$> utf8DecodeFrom 0 0 0 rest := by
    intro acc least n hn hleast
    obtain ⟨hc1, hc2, hbits⟩ := contOctet_facts n
    rw [utf8DecodeFrom_last _ hc1 hc2 (by rw [hbits, hn]; exact hleast)
      (by rw [hbits, hn]; exact hvalid), hbits, hn, Char.ofNat_toNat]
  unfold utf8Decode
  by_cases h1 : c.toNat < 0x80
  · simp only [utf8EncodeChar, h1, if_true, List.singleton_append]
    rw [utf8DecodeFrom_ascii _ h1, Char.ofNat_toNat]
  by_cases h2 : c.toNat < 0x800
  · simp only [utf8EncodeChar, h1, h2, if_false, if_true, List.cons_append, List.nil_append]
    rw [utf8DecodeFrom_lead2 _ (by omega) (by omega), Nat.add_sub_cancel_left]
    exact hlast (Nat.div_add_mod' _ _) (by omega)
  have h12 : c.toNat / 0x1000 * 0x40 + c.toNat / 0x40 % 0x40 = c.toNat / 0x40 :=
    div_mul_sixtyFour_add c.toNat 0x40
  by_cases h3 : c.toNat < 0x10000
  · simp only [utf8EncodeChar, h1, h2, h3, if_false, if_true, List.cons_append, List.nil_append]
    obtain ⟨hc1, hc2, hbits⟩ := contOctet_facts (c.toNat / 0x40)
    rw [utf8DecodeFrom_lead3 _ (by omega) (by omega), Nat.add_sub_cancel_left,
      utf8DecodeFrom_cont _ hc1 hc2, hbits]
    exact hlast (by rw [h12, Nat.div_add_mod']) (by omega)
  · have h4 : c.toNat < 0x110000 := by
      have h := hvalid
      simp only [Nat.isValidChar] at h
      omega
    have h18 : c.toNat / 0x40000 * 0x40 + c.toNat / 0x1000 % 0x40 = c.toNat / 0x1000 :=
      div_mul_sixtyFour_add c.toNat 0x1000
    simp only [utf8EncodeChar, h1, h2, h3, if_false, List.cons_append, List.nil_append]
    obtain ⟨hc1, hc2, hbits⟩ := contOctet_facts (c.toNat / 0x1000)
    obtain ⟨hc1', hc2', hbits'⟩ := contOctet_facts (c.toNat / 0x40)
    rw [utf8DecodeFrom_lead4 _ (by omega) (by omega), Nat.add_sub_cancel_left,
      utf8DecodeFrom_cont _ hc1 hc2, hbits, utf8DecodeFrom_cont _ hc1' hc2', hbits']
    exact hlast (by rw [h18, h12, Nat.div_add_mod']) (by omega)

/-- Strict UTF-8 decoding inverts encoding. -/
theorem utf8Decode_utf8Encode (s : List Char) : utf8Decode (utf8Encode s) = some s := by
  induction s with
  | nil => rfl
  | cons c s ih => rw [utf8Encode_cons, utf8Decode_encodeChar_append, ih]; rfl

/-! ## Percent-encoding -/

/-- `_ALWAYS_SAFE`: the ASCII letters and digits and `_.-~`, never quoted. -/
def alwaysSafe (b : Nat) : Bool :=
  (0x41 ≤ b && b ≤ 0x5A) || (0x61 ≤ b && b ≤ 0x7A) || (0x30 ≤ b && b ≤ 0x39) ||
    b == 0x5F || b == 0x2E || b == 0x2D || b == 0x7E

/-- An upper-case hex digit, as `'%{:02X}'.format` writes it. -/
def hexDigit (d : Nat) : Char :=
  Char.ofNat (if d < 10 then 0x30 + d else 0x37 + d)

/-- One octet as `quote_from_bytes` writes it: the character itself when the octet is
always safe or an ASCII character of `safe`, and `%XX` otherwise. -/
def quoteOctet (safe : List Char) (b : Nat) : List Char :=
  if alwaysSafe b || safe.any (fun c => c.toNat < 0x80 && c.toNat == b) then [Char.ofNat b]
  else ['%', hexDigit (b / 16), hexDigit (b % 16)]

/-- `quote(s, safe)`: the UTF-8 octets of `s`, each written by `quoteOctet`. -/
def quote (safe s : String) : String :=
  ⟨(utf8Encode s.data).flatMap (quoteOctet safe.data)⟩

/-- `quote_plus(s, safe)`: a string without a space is quoted as `quote` does; otherwise
the space joins `safe` and every space of the result becomes `+`. -/
def quotePlus (safe s : String) : String :=
  if ' ' ∉ s.data then quote safe s
  else ⟨(quote (safe ++ " ") s).data.map fun c => if c = ' ' then '+' else c⟩

/-- `urlencode(query)` for string keys and values, with its defaults `quote_via=quote_plus`
and `safe=''`. -/
def urlencode (query : List (String × String)) : String :=
  pyJoin "&" (query.map fun kv => quotePlus "" kv.1 ++ "=" ++ quotePlus "" kv.2)

/-- How `quote_plus` with `safe=''` writes one octet. -/
def quotePlusOctet (b : Nat) : List Char :=
  if b = 0x20 then ['+'] else quoteOctet [] b

theorem toNat_hexDigit {d : Nat} (hd : d < 16) :
    (hexDigit d).toNat = if d < 10 then 0x30 + d else 0x37 + d :=
  toNat_ofNat_of_valid (by split <;> (simp only [Nat.isValidChar]; omega))

/-- The octet `0x20` is written as a space only when a space is safe. -/
theorem quoteOctet_ne_space {safe : List Char} {b : Nat} (hb : b < 0x100) (hne : b ≠ 0x20) :
    ' ' ∉ quoteOctet safe b := by
  have hsp : ∀ d, d < 16 → hexDigit d ≠ ' ' := fun d hd h => by
    have := congrArg Char.toNat h
    rw [toNat_hexDigit hd] at this
    split at this <;> simp at this <;> omega
  unfold quoteOctet
  split
  · intro h
    have := congrArg Char.toNat (List.mem_singleton.mp h)
    rw [@toNat_ofNat_of_valid b (by simp only [Nat.isValidChar]; omega)] at this
    exact hne (by simpa using this.symm)
  · simp only [List.mem_cons, List.not_mem_nil, or_false, not_or]
    exact ⟨by decide, fun h => hsp _ (by omega) h.symm, fun h => hsp _ (by omega) h.symm⟩

/-- The two branches of `quote_plus` agree: every octet is written on its own, a space as
`+`. -/
theorem quotePlus_eq_flatMap (s : String) :
    quotePlus "" s = ⟨(utf8Encode s.data).flatMap quotePlusOctet⟩ := by
  unfold quotePlus
  split
  · next hsp =>
    refine congrArg String.mk (List.flatMap_congr fun b hb => ?_)
    obtain ⟨c, hc, hbc⟩ := List.mem_flatMap.mp hb
    have hne : b ≠ 0x20 := by
      intro h
      obtain ⟨-, hlt⟩ := utf8EncodeChar_bounds hbc
      have hc' : c = ' ' := by
        rw [← Char.ofNat_toNat c, ← hlt (by omega), h]
      exact hsp (hc' ▸ hc)
    simp [quotePlusOctet, hne]
  · simp only [quote, List.map_flatMap]
    refine congrArg String.mk (List.flatMap_congr fun b hb => ?_)
    obtain ⟨c, -, hbc⟩ := List.mem_flatMap.mp hb
    have hb256 := (utf8EncodeChar_bounds hbc).1
    by_cases h20 : b = 0x20
    · subst h20
      rfl
    · have hq : quoteOctet (("" : String) ++ " ").data b = quoteOctet [] b := by
        simp [quoteOctet, h20, Ne.symm h20]
      rw [hq, quotePlusOctet, if_neg h20]
      refine (List.map_congr_left fun c hc => ?_).trans (List.map_id _)
      rw [if_neg (by rintro rfl; exact quoteOctet_ne_space hb256 h20 hc)]
      rfl

/-! ## Reading a form body back -/

/-- `+` read as a space, as the form parser does before percent-decoding. -/
def plusToSpace (bs : List Nat) : List Nat :=
  bs.map fun b => if b = 0x2B then 0x20 else b

/-- An ASCII hex digit octet. -/
def isHexDigit (b : Nat) : Bool :=
  (0x30 ≤ b && b ≤ 0x39) || (0x41 ≤ b && b ≤ 0x46) || (0x61 ≤ b && b ≤ 0x66)

/-- The value of a hex digit octet. -/
def hexValue (b : Nat) : Nat :=
  if b ≤ 0x39 then b - 0x30 else if b ≤ 0x46 then b - 0x37 else b - 0x57

/-- What percent-decoding holds back: nothing, a `%`, or a `%` and one hex digit, until
it is known whether they begin an escape. -/
inductive Held where
  | nothing
  | percent
  | percentHex (h : Nat)

/-- The octets a held prefix stands for when it turns out not to be an escape. -/
def Held.octets : Held → List Nat
  | .nothing => []
  | .percent => [0x25]
  | .percentHex h => [0x25, h]

/-- Percent-decoding as a machine over the octets: `%` and two hex digits become one
octet; every other octet, a `%` without two hex digits after it included, is kept, and
decoding goes on at the octet after that `%`. -/
def percentDecodeFrom : Held → List Nat → List Nat
  | held, [] => held.octets
  | .nothing, b :: rest =>
    if b = 0x25 then percentDecodeFrom .percent rest else b :: percentDecodeFrom .nothing rest
  | .percent, b :: rest =>
    if isHexDigit b then percentDecodeFrom (.percentHex b) rest
    else 0x25 :: if b = 0x25 then percentDecodeFrom .percent rest
      else b :: percentDecodeFrom .nothing rest
  | .percentHex h, b :: rest =>
    if isHexDigit b then (16 * hexValue h + hexValue b) :: percentDecodeFrom .nothing rest
    else 0x25 :: h :: if b = 0x25 then percentDecodeFrom .percent rest
      else b :: percentDecodeFrom .nothing rest

/-- Percent-decoding of a whole octet string. -/
def percentDecode (bs : List Nat) : List Nat :=
  percentDecodeFrom .nothing bs

/-- One name or value of a form body: its UTF-8 octets with `+` read as a space,
percent-decoded, then decoded as UTF-8. -/
def decodeComponent (s : List Char) : Option String :=
  String.mk <$> utf8Decode (percentDecode (plusToSpace (utf8Encode s)))

/-- A form sequence split at its first `=` into name and value; without `=` the value is
empty. -/
def splitAtEquals (seq : List Char) : List Char × List Char :=
  (seq.takeWhile (· != '='), (seq.dropWhile (· != '=')).drop 1)

/-- One sequence of a form body, decoded into its name and value. -/
def decodePair (seq : List Char) : Option (String × String) := do
  let name ← decodeComponent (splitAtEquals seq).1
  let value ← decodeComponent (splitAtEquals seq).2
  pure (name, value)

/-- The `application/x-www-form-urlencoded` parser: split on `&`, skip empty sequences,
split each at its first `=`, and decode both halves. -/
def formDecode (input : String) : Option (List (String × String)) :=
  ((input.data.splitOn '&').filter (fun seq => !seq.isEmpty)).mapM decodePair

@[simp]
theorem plusToSpace_append (s t : List Nat) :
    plusToSpace (s ++ t) = plusToSpace s ++ plusToSpace t :=
  List.map_append _ _ _

theorem percentDecode_cons_of_ne {b : Nat} (hb : b ≠ 0x25) (rest : List Nat) :
    percentDecode (b :: rest) = b :: percentDecode rest := by
  simp [percentDecode, percentDecodeFrom, hb]

theorem percentDecode_escape {h l : Nat} (hh : isHexDigit h) (hl : isHexDigit l)
    (rest : List Nat) :
    percentDecode (0x25 :: h :: l :: rest) = (16 * hexValue h + hexValue l) :: percentDecode rest := by
  simp [percentDecode, percentDecodeFrom, hh, hl]

/-- What `hexDigit` writes is an always-safe hex digit, read back to its value, and never
`+`. -/
theorem hexDigit_octet {d : Nat} (hd : d < 16) :
    (hexDigit d).toNat < 0x80 ∧ (hexDigit d).toNat ≠ 0x2B ∧ isHexDigit (hexDigit d).toNat ∧
      hexValue (hexDigit d).toNat = d ∧ alwaysSafe (hexDigit d).toNat := by
  revert d
  decide

/-- The form parser reads one octet back from what `quote_plus` wrote for it. -/
theorem percentDecode_quotePlusOctet {b : Nat} (hb : b < 0x100) (rest : List Nat) :
    percentDecode (plusToSpace (utf8Encode (quotePlusOctet b)) ++ rest)
      = b :: percentDecode rest := by
  unfold quotePlusOctet
  split
  · subst b
    rfl
  · next h20 =>
    unfold quoteOctet
    split
    · next hsafe =>
      have hs : alwaysSafe b := by simpa using hsafe
      simp only [alwaysSafe, Bool.or_eq_true, Bool.and_eq_true, decide_eq_true_eq,
        beq_iff_eq] at hs
      have hval := @toNat_ofNat_of_valid b (by simp only [Nat.isValidChar]; omega)
      rw [utf8Encode_cons, utf8EncodeChar_of_lt (by omega), hval]
      simp only [utf8Encode_nil, List.append_nil, plusToSpace, List.map_cons, List.map_nil,
        List.singleton_append]
      rw [if_neg (by omega), percentDecode_cons_of_ne (by omega)]
    · have hhi : b / 16 < 16 := by omega
      obtain ⟨h1, h2, h3, h4, -⟩ := hexDigit_octet hhi
      obtain ⟨l1, l2, l3, l4, -⟩ := hexDigit_octet (Nat.mod_lt b (by decide : 16 > 0))
      have hpct : utf8EncodeChar '%' = [0x25] := rfl
      simp only [utf8Encode_cons, hpct, utf8EncodeChar_of_lt h1, utf8EncodeChar_of_lt l1,
        utf8Encode_nil, List.singleton_append, List.append_nil, plusToSpace, List.map_cons,
        List.map_nil, List.cons_append, List.nil_append, if_neg h2, if_neg l2]
      rw [if_neg (by decide), percentDecode_escape h3 l3, h4, l4]
      congr 1
      omega

/-- Percent-decoding inverts `quote_plus` on any octets below 256. -/
theorem percentDecode_quotePlus_octets (bs : List Nat) (hbs : ∀ b ∈ bs, b < 0x100) :
    percentDecode (plusToSpace (utf8Encode (bs.flatMap quotePlusOctet))) = bs := by
  induction bs with
  | nil => rfl
  | cons b bs ih =>
    rw [List.flatMap_cons, utf8Encode_append, plusToSpace_append,
      percentDecode_quotePlusOctet (hbs b (List.mem_cons_self _ _)),
      ih (fun x hx => hbs x (List.mem_cons_of_mem _ hx))]

/-- The form parser reads back what `quote_plus` wrote, for every string. -/
theorem decodeComponent_quotePlus (s : String) : decodeComponent (quotePlus "" s).data = some s := by
  have hbs : ∀ b ∈ utf8Encode s.data, b < 0x100 := fun b hb => by
    obtain ⟨c, -, hc⟩ := List.mem_flatMap.mp hb
    exact (utf8EncodeChar_bounds hc).1
  rw [quotePlus_eq_flatMap, decodeComponent, percentDecode_quotePlus_octets _ hbs,
    utf8Decode_utf8Encode]
  rfl

/-! ## What the encoders write -/

/-- `quote_plus` writes only always-safe characters, `+` and `%`. -/
theorem quotePlus_char {s : String} {c : Char} (hc : c ∈ (quotePlus "" s).data) :
    alwaysSafe c.toNat ∨ c = '+' ∨ c = '%' := by
  rw [quotePlus_eq_flatMap] at hc
  obtain ⟨b, hb, hcb⟩ := List.mem_flatMap.mp hc
  obtain ⟨c0, -, hb0⟩ := List.mem_flatMap.mp hb
  have hb256 := (utf8EncodeChar_bounds hb0).1
  unfold quotePlusOctet quoteOctet at hcb
  split_ifs at hcb with h20 hsafe
  · exact .inr (.inl (List.mem_singleton.mp hcb))
  · have hs : alwaysSafe b := by simpa using hsafe
    rw [List.mem_singleton.mp hcb, @toNat_ofNat_of_valid b (by simp only [Nat.isValidChar]; omega)]
    exact .inl hs
  · simp only [List.mem_cons, List.not_mem_nil, or_false] at hcb
    rcases hcb with rfl | rfl | rfl
    · exact .inr (.inr rfl)
    all_goals exact .inl (hexDigit_octet (by omega)).2.2.2.2

theorem quotePlus_ne_amp (s : String) : '&' ∉ (quotePlus "" s).data := fun h => by
  rcases quotePlus_char h with h | h | h <;> revert h <;> decide

theorem quotePlus_ne_equals (s : String) : '=' ∉ (quotePlus "" s).data := fun h => by
  rcases quotePlus_char h with h | h | h <;> revert h <;> decide

/-- The sequence `urlencode` writes for one pair. -/
def encodePair (kv : String × String) : List Char :=
  (quotePlus "" kv.1).data ++ '=' :: (quotePlus "" kv.2).data

theorem urlencode_data (query : List (String × String)) :
    (urlencode query).data = ['&'].intercalate (query.map encodePair) := by
  simp only [urlencode, pyJoin, List.map_map, Function.comp_def, String.data_append]
  congr 1
  exact List.map_congr_left fun kv _ => by simp [encodePair]

/-- `urlencode` writes only always-safe characters, `+`, `%`, `=` and `&`. -/
theorem urlencode_char {query : List (String × String)} {c : Char}
    (hc : c ∈ (urlencode query).data) :
    alwaysSafe c.toNat ∨ c = '+' ∨ c = '%' ∨ c = '=' ∨ c = '&' := by
  rw [urlencode_data] at hc
  rcases mem_intercalate hc with h | ⟨l, hl, h⟩
  · exact .inr (.inr (.inr (.inr (List.mem_singleton.mp h))))
  · obtain ⟨kv, -, rfl⟩ := List.mem_map.mp hl
    simp only [encodePair, List.mem_append, List.mem_cons] at h
    rcases h with h | rfl | h
    · rcases quotePlus_char h with h | h | h
      · exact .inl h
      · exact .inr (.inl h)
      · exact .inr (.inr (.inl h))
    · exact .inr (.inr (.inr (.inl rfl)))
    · rcases quotePlus_char h with h | h | h
      · exact .inl h
      · exact .inr (.inl h)
      · exact .inr (.inr (.inl h))

theorem splitAtEquals_encodePair (kv : String × String) :
    splitAtEquals (encodePair kv) = ((quotePlus "" kv.1).data, (quotePlus "" kv.2).data) := by
  have hk : ∀ c ∈ (quotePlus "" kv.1).data, (c != '=') = true := by
    intro c hc
    simp only [bne_iff_ne, ne_eq]
    rintro rfl
    exact quotePlus_ne_equals _ hc
  simp [splitAtEquals, encodePair, List.takeWhile_append_of_pos hk,
    List.dropWhile_append_of_pos hk]

theorem decodePair_encodePair (kv : String × String) : decodePair (encodePair kv) = some kv := by
  simp [decodePair, splitAtEquals_encodePair, decodeComponent_quotePlus]

theorem mapM_decodePair (query : List (String × String)) :
    (query.map encodePair).mapM decodePair = some query := by
  induction query with
  | nil => rfl
  | cons kv query ih => rw [List.map_cons, List.mapM_cons, decodePair_encodePair, ih]; rfl

/-- The form parser inverts `urlencode` on every list of string pairs. -/
theorem formDecode_urlencode (query : List (String × String)) :
    formDecode (urlencode query) = some query := by
  cases query with
  | nil => rfl
  | cons kv rest =>
    have hamp : ∀ l ∈ (kv :: rest).map encodePair, '&' ∉ l := by
      simp only [List.mem_map]
      rintro _ ⟨p, -, rfl⟩ h
      simp only [encodePair, List.mem_append, List.mem_cons] at h
      rcases h with h | h | h
      · exact quotePlus_ne_amp _ h
      · exact absurd h (by decide)
      · exact quotePlus_ne_amp _ h
    have hne : ∀ l ∈ (kv :: rest).map encodePair, (!l.isEmpty) = true := by
      intro l hl
      obtain ⟨p, -, rfl⟩ := List.mem_map.mp hl
      simp [encodePair]
    rw [formDecode, urlencode_data, List.splitOn_intercalate _ _ hamp (by simp),
      List.filter_eq_self.mpr hne, mapM_decodePair]

/-! ## `quote` over a whole URL -/

@[simp]
theorem quote_append (safe s t : String) : quote safe (s ++ t) = quote safe s ++ quote safe t := by
  simp only [quote, String.data_append, utf8Encode_append, List.flatMap_append]
  rfl

/-- `quote` leaves alone a text of ASCII characters that are always safe or in `safe`. -/
theorem quote_eq_self {safe s : String}
    (h : ∀ c ∈ s.data, c.toNat < 0x80 ∧ (alwaysSafe c.toNat ∨ c ∈ safe.data)) :
    quote safe s = s := by
  suffices ∀ l : List Char, (∀ c ∈ l, c.toNat < 0x80 ∧ (alwaysSafe c.toNat ∨ c ∈ safe.data)) →
      (utf8Encode l).flatMap (quoteOctet safe.data) = l from congrArg String.mk (this _ h)
  intro l hl
  induction l with
  | nil => rfl
  | cons c l ih =>
    obtain ⟨hlt, hc⟩ := hl c (List.mem_cons_self _ _)
    have hq : quoteOctet safe.data c.toNat = [c] := by
      rw [quoteOctet, if_pos, Char.ofNat_toNat]
      rcases hc with hc | hc
      · simp [hc]
      · simp only [Bool.or_eq_true, List.any_eq_true, Bool.and_eq_true, decide_eq_true_eq,
          beq_iff_eq]
        exact .inr ⟨c, hc, hlt, rfl⟩
    rw [utf8Encode_cons, List.flatMap_append, utf8EncodeChar_of_lt hlt, List.flatMap_singleton,
      hq, ih (fun x hx => hl x (List.mem_cons_of_mem _ hx))]
    rfl

/-- Every character `quote` writes is a character of its input, `%` or a hex digit. -/
theorem mem_quote {safe s : String} {c : Char} (hc : c ∈ (quote safe s).data) :
    c ∈ s.data ∨ c = '%' ∨ ∃ d < 16, c = hexDigit d := by
  obtain ⟨b, hb, hcb⟩ := List.mem_flatMap.mp hc
  obtain ⟨c0, hc0, hb0⟩ := List.mem_flatMap.mp hb
  obtain ⟨hb256, hascii⟩ := utf8EncodeChar_bounds hb0
  unfold quoteOctet at hcb
  split_ifs at hcb with hsafe
  · left
    have hlt : b < 0x80 := by
      simp only [Bool.or_eq_true, List.any_eq_true, Bool.and_eq_true, decide_eq_true_eq,
        beq_iff_eq, alwaysSafe] at hsafe
      omega
    rw [List.mem_singleton.mp hcb, hascii hlt, Char.ofNat_toNat]
    exact hc0
  · simp only [List.mem_cons, List.not_mem_nil, or_false] at hcb
    rcases hcb with rfl | rfl | rfl
    · exact .inr (.inl rfl)
    · exact .inr (.inr ⟨_, by omega, rfl⟩)
    · exact .inr (.inr ⟨_, by omega, rfl⟩)

/-- `quote` writes a `?` only where its input has one. -/
theorem quote_ne_question {safe s : String} (hs : '?' ∉ s.data) : '?' ∉ (quote safe s).data := by
  intro h
  rcases mem_quote h with h | h | ⟨d, hd, h⟩
  · exact hs h
  · exact absurd h (by decide)
  · have := congrArg Char.toNat h
    rw [toNat_hexDigit hd] at this
    split at this <;> simp at this <;> omega

/-! ## Splitting a URL at its query -/

/-- A URL split at its first `?` into what stands before it and the query after it. -/
def splitAtQuery (url : String) : String × String :=
  (⟨url.data.takeWhile (· != '?')⟩, ⟨(url.data.dropWhile (· != '?')).drop 1⟩)

theorem splitAtQuery_append {a b : String} (ha : '?' ∉ a.data) :
    splitAtQuery (a ++ "?" ++ b) = (a, b) := by
  have hp : ∀ c ∈ a.data, (c != '?') = true := fun c hc =>
    bne_iff_ne.mpr fun h => ha (h ▸ hc)
  have hdata : (a ++ "?" ++ b).data = a.data ++ '?' :: b.data := by
    rw [String.data_append, String.data_append, List.append_assoc]
    rfl
  rw [splitAtQuery, hdata, List.takeWhile_append_of_pos hp, List.dropWhile_append_of_pos hp]
  exact congrArg (·, b) (congrArg String.mk (List.append_nil a.data))

/-- What follows the last `?` of a URL, if it has one. -/
def afterLastQuery (url : String) : Option String :=
  if '?' ∈ url.data then some ⟨(url.data.reverse.takeWhile (· != '?')).reverse⟩ else none

theorem afterLastQuery_append (a : String) {b : String} (hb : '?' ∉ b.data) :
    afterLastQuery (a ++ "?" ++ b) = some b := by
  have hp : ∀ c ∈ b.data.reverse, (c != '?') = true := fun c hc =>
    bne_iff_ne.mpr fun h => hb (List.mem_reverse.mp (h ▸ hc))
  have hdata : (a ++ "?" ++ b).data = a.data ++ '?' :: b.data := by
    rw [String.data_append, String.data_append, List.append_assoc]
    rfl
  rw [afterLastQuery, hdata, if_pos (by simp), List.reverse_append, List.reverse_cons,
    List.append_assoc, List.takeWhile_append_of_pos hp]
  simp

end Python
end McpProxyFixtures
