import McpProxyFixtures.Python.Str

/-!
# The Morse code server

`eval/src/mcpproxy_eval/servers/morse.py` translates between text and Morse code with
one table, `MORSE_CODE`, and the dictionary `REVERSE_MORSE_CODE` built from it.  This
module models the table, the three translating tools with every field of the
dictionaries they return, and proves that the two translations undo each other in both
directions.

Main results:

- Theorem {lit}`morseCode_entry`: every key of `MORSE_CODE` is upper-case ASCII, and its
  code encodes it and decodes back to it.
- Theorem {lit}`morseToText_textToMorse`: decoding the encoding of a text gives the text
  in upper case, with `?` for every character that is not a key.
- Theorem {lit}`textToMorse_morseToText`: encoding the decoding of valid Morse code gives
  its non-empty tokens joined by single spaces.
-/

namespace McpProxyFixtures
namespace Servers

open Python

/-! ## The table -/

/-- `MORSE_CODE`, in the order of its dictionary display. -/
def morseCode : List (Char × String) :=
  [('A', ".-"), ('B', "-..."), ('C', "-.-."), ('D', "-.."), ('E', "."), ('F', "..-."),
    ('G', "--."), ('H', "...."), ('I', ".."), ('J', ".---"), ('K', "-.-"), ('L', ".-.."),
    ('M', "--"), ('N', "-."), ('O', "---"), ('P', ".--."), ('Q', "--.-"), ('R', ".-."),
    ('S', "..."), ('T', "-"), ('U', "..-"), ('V', "...-"), ('W', ".--"), ('X', "-..-"),
    ('Y', "-.--"), ('Z', "--.."), ('1', ".----"), ('2', "..---"), ('3', "...--"),
    ('4', "....-"), ('5', "....."), ('6', "-...."), ('7', "--..."), ('8', "---.."),
    ('9', "----."), ('0', "-----"), (' ', "/"), ('.', ".-.-.-"), (',', "--..--"),
    ('?', "..--.."), ('\x27', ".----."), ('!', "-.-.--"), ('/', "-..-."), ('(', "-.--."),
    (')', "-.--.-"), ('&', ".-..."), (':', "---..."), (';', "-.-.-."), ('=', "-...-"),
    ('+', ".-.-."), ('-', "-....-"), ('_', "..--.-"), ('\x22', ".-..-."),
    ('$', "...-..-"), ('@', ".--.-.")]

/-- `REVERSE_MORSE_CODE = {v: k for k, v in MORSE_CODE.items()}`. -/
def reverseMorseCode : List (String × Char) :=
  morseCode.map fun p => (p.2, p.1)

/-! ## The tools -/

/-- The dictionary `text_to_morse` returns. -/
inductive TextToMorse where
  | empty (originalText morseCode error : String)
  | translated (originalText morseCode : String) (characterCount morseLength : Nat)
deriving DecidableEq

/-- Its `morse_code` entry. -/
def TextToMorse.morseCode : TextToMorse → String
  | .empty _ code _ => code
  | .translated _ code _ _ => code

/-- The dictionary `morse_to_text` returns. -/
inductive MorseToText where
  | empty (originalMorse decodedText error : String)
  | decoded (originalMorse decodedText : String) (morseCharacterCount decodedLength : Nat)
deriving DecidableEq

/-- Its `decoded_text` entry. -/
def MorseToText.decodedText : MorseToText → String
  | .empty _ text _ => text
  | .decoded _ text _ _ => text

/-- The dictionary `validate_morse` returns. -/
inductive ValidateMorse where
  | empty (input : String) (isValid : Bool) (error : String)
  | checked (input : String) (isValid : Bool) (validCharacters : Nat)
      (invalidCharacters : Option (List String)) (totalCharacters : Nat)
deriving DecidableEq

/-- Its `is_valid` entry. -/
def ValidateMorse.isValid : ValidateMorse → Bool
  | .empty _ valid _ => valid
  | .checked _ valid _ _ _ => valid

/-- The token `text_to_morse` writes for one character of `text.upper()`. -/
def morseOfChar (c : Char) : String :=
  match dictGet morseCode c with
  | some code => code
  | none => if c = ' ' then "/" else "?"

/-- `text_to_morse(text)`; `upperNonAscii` is the table `str.upper` uses beyond ASCII. -/
def textToMorse (upperNonAscii : Char → List Char) (text : String) : TextToMorse :=
  if text = "" then .empty "" "" "Empty text provided"
  else
    let morseResult := (pyUpper upperNonAscii text).data.map morseOfChar
    .translated text (pyJoin " " morseResult) text.length morseResult.length

/-- The character `morse_to_text` appends for one token; `none` where it skips the token. -/
def decodeToken (morseChar : String) : Option Char :=
  if morseChar = "/" then some ' '
  else
    match dictGet reverseMorseCode morseChar with
    | some c => some c
    | none => if morseChar = "" then none else some '?'

/-- `morse_to_text(morse_code)`. -/
def morseToText (morse : String) : MorseToText :=
  if morse = "" then .empty "" "" "Empty Morse code provided"
  else
    let morseChars := pySplit (pyStrip morse) ' '
    let decodedChars := morseChars.filterMap decodeToken
    .decoded morse ⟨decodedChars⟩ morseChars.length decodedChars.length

/-- The test `validate_morse` applies to one token. -/
def validToken (morseChar : String) : Bool :=
  morseChar = "/" || (dictGet reverseMorseCode morseChar).isSome || morseChar = ""

/-- `validate_morse(morse_code)`. -/
def validateMorse (morse : String) : ValidateMorse :=
  if morse = "" then .empty morse false "Empty input"
  else
    let morseChars := pySplit (pyStrip morse) ' '
    let invalidChars := morseChars.filter fun t => !validToken t
    let validChars := morseChars.filter validToken
    .checked morse (invalidChars.length == 0) validChars.length
      (if invalidChars.isEmpty then none else some invalidChars) morseChars.length

/-! ## The table's properties -/

/-- Every key of `MORSE_CODE` is upper-case ASCII, and its code encodes it and decodes back
to it; so the table is injective. -/
theorem morseCode_entry :
    ∀ p ∈ morseCode, morseOfChar p.1 = p.2 ∧ decodeToken p.2 = some p.1 ∧
      p.1.toNat < 128 ∧ p.1.toUpper = p.1 := by
  decide

/-- Every code is non-empty and made of `.`, `-` and `/`. -/
theorem morseCode_code_shape :
    ∀ p ∈ morseCode, p.2.data ≠ [] ∧ ∀ d ∈ p.2.data, d = '.' ∨ d = '-' ∨ d = '/' := by
  decide

/-- Every token `text_to_morse` writes is non-empty and has no whitespace. -/
theorem morseOfChar_shape (c : Char) :
    (morseOfChar c).data ≠ [] ∧ ∀ d ∈ (morseOfChar c).data, isSpace d = false := by
  have hsym : ∀ d : Char, d = '.' ∨ d = '-' ∨ d = '/' ∨ d = '?' → isSpace d = false := by
    rintro d (rfl | rfl | rfl | rfl) <;> rfl
  unfold morseOfChar
  split
  · next code h =>
    obtain ⟨hne, hcode⟩ := morseCode_code_shape _ (dictGet_mem h)
    exact ⟨hne, fun d hd => hsym d (by rcases hcode d hd with h | h | h <;> simp [h])⟩
  · split <;> exact ⟨by decide, fun d hd => hsym d (by simp_all)⟩

/-- Decoding the token of a character gives the character when it is a key, `?` otherwise. -/
theorem decodeToken_morseOfChar (c : Char) :
    decodeToken (morseOfChar c) = some (if (dictGet morseCode c).isSome then c else '?') := by
  cases h : dictGet morseCode c with
  | some code =>
    have hentry := morseCode_entry _ (dictGet_mem h)
    have hmor : morseOfChar c = code := hentry.1
    have hdec : decodeToken code = some c := hentry.2.1
    simp [hmor, hdec]
  | none =>
    have hc : c ≠ ' ' := by
      rintro rfl
      exact absurd h (by decide)
    simp only [morseOfChar, h, if_neg hc]
    rw [show decodeToken "?" = some '?' by decide]
    simp

/-- A valid token is empty and skipped, or decodes to an upper-case ASCII character whose
token it is. -/
theorem validToken_decode {t : String} (ht : validToken t = true) :
    (t = "" ∧ decodeToken t = none) ∨
      ∃ c, decodeToken t = some c ∧ morseOfChar c = t ∧ c.toNat < 128 ∧ c.toUpper = c := by
  simp only [validToken, Bool.or_eq_true, decide_eq_true_eq, Option.isSome_iff_exists] at ht
  rcases ht with (rfl | ⟨c, hc⟩) | rfl
  · exact .inr ⟨' ', by decide⟩
  · obtain ⟨p, hp, hpc⟩ := List.mem_map.mp (dictGet_mem hc)
    obtain ⟨rfl, rfl⟩ := Prod.mk.inj hpc
    obtain ⟨hmor, hdec, hascii⟩ := morseCode_entry p hp
    exact .inr ⟨p.1, hdec, hmor, hascii⟩
  · exact .inl ⟨rfl, by decide⟩

/-! ## The tools' results -/

/-- `text_to_morse` writes the token of every character of `text.upper()`, joined by
spaces; empty text gives the empty string too. -/
theorem textToMorse_morseCode (upperNonAscii : Char → List Char) (text : String) :
    (textToMorse upperNonAscii text).morseCode =
      pyJoin " " ((pyUpper upperNonAscii text).data.map morseOfChar) := by
  by_cases h : text = ""
  · subst h
    rfl
  · simp [textToMorse, h, TextToMorse.morseCode]

/-- `morse_to_text` decodes the tokens of the stripped input; empty input gives the empty
string too. -/
theorem morseToText_decodedText (morse : String) :
    (morseToText morse).decodedText = ⟨(pySplit (pyStrip morse) ' ').filterMap decodeToken⟩ := by
  by_cases h : morse = ""
  · subst h
    rfl
  · simp [morseToText, h, MorseToText.decodedText]

/-- `validate_morse` accepts exactly the non-empty inputs whose tokens are all valid. -/
theorem validateMorse_isValid (morse : String) :
    (validateMorse morse).isValid = true ↔
      morse ≠ "" ∧ ∀ t ∈ pySplit (pyStrip morse) ' ', validToken t = true := by
  by_cases h : morse = ""
  · subst h
    decide
  · simp [validateMorse, h, ValidateMorse.isValid]

/-! ## The round trips -/

/-- Decoding the tokens written for a list of characters gives the characters, with `?`
for those that are not keys. -/
theorem filterMap_decodeToken_pyJoin (chars : List Char) :
    (pySplit (pyStrip (pyJoin " " (chars.map morseOfChar))) ' ').filterMap decodeToken =
      chars.map fun c => if (dictGet morseCode c).isSome then c else '?' := by
  rcases chars with _ | ⟨c, cs⟩
  · rfl
  have hshape : ∀ t ∈ (c :: cs).map morseOfChar,
      t.data ≠ [] ∧ ∀ d ∈ t.data, isSpace d = false := by
    intro t ht
    obtain ⟨c, -, rfl⟩ := List.mem_map.mp ht
    exact morseOfChar_shape c
  have hspace : ∀ t ∈ (c :: cs).map morseOfChar, ' ' ∉ t.data :=
    fun t ht hd => absurd ((hshape t ht).2 ' ' hd) (by decide)
  rw [pyStrip_pyJoin hshape, show (" " : String) = ⟨[' ']⟩ from rfl,
    pySplit_pyJoin hspace (List.cons_ne_nil _ _), List.filterMap_map]
  simp only [Function.comp_def, decodeToken_morseOfChar]
  exact congrFun (List.filterMap_eq_map _) _

/-- `morse_to_text` undoes `text_to_morse` up to `upper` and the `?` of unknown
characters. -/
theorem morseToText_textToMorse (upperNonAscii : Char → List Char) (text : String) :
    (morseToText (textToMorse upperNonAscii text).morseCode).decodedText =
      ⟨(pyUpper upperNonAscii text).data.map fun c =>
        if (dictGet morseCode c).isSome then c else '?'⟩ := by
  rw [textToMorse_morseCode, morseToText_decodedText, filterMap_decodeToken_pyJoin]

/-- Over valid tokens, the characters decoded are upper-case ASCII and their tokens are
the non-empty tokens. -/
theorem map_morseOfChar_filterMap {toks : List String} (hv : ∀ t ∈ toks, validToken t = true) :
    (toks.filterMap decodeToken).map morseOfChar = toks.filter (fun t => t ≠ "") ∧
      ∀ c ∈ toks.filterMap decodeToken, c.toNat < 128 ∧ c.toUpper = c := by
  induction toks with
  | nil => simp
  | cons t toks ih =>
    obtain ⟨ihmap, ihchar⟩ := ih fun t' ht' => hv t' (List.mem_cons_of_mem _ ht')
    rcases validToken_decode (hv t (List.mem_cons_self _ _)) with
      ⟨rfl, hnone⟩ | ⟨c, hc, hcode, hascii⟩
    · simp only [List.filterMap_cons, hnone]
      rw [List.filter_cons_of_neg (by simp)]
      exact ⟨ihmap, ihchar⟩
    · have hne : t ≠ "" := by
        rintro rfl
        rw [show decodeToken "" = none by decide] at hc
        cases hc
      simp only [List.filterMap_cons, hc, List.map_cons, hcode]
      rw [List.filter_cons_of_pos (by simpa using hne), ihmap]
      exact ⟨rfl, List.forall_mem_cons.mpr ⟨hascii, ihchar⟩⟩

/-- `text_to_morse` undoes `morse_to_text` on valid input, up to the empty tokens that the
decoder skips. -/
theorem textToMorse_morseToText (upperNonAscii : Char → List Char) (morse : String)
    (hv : (validateMorse morse).isValid = true) :
    (textToMorse upperNonAscii (morseToText morse).decodedText).morseCode =
      pyJoin " " ((pySplit (pyStrip morse) ' ').filter fun t => t ≠ "") := by
  obtain ⟨hmap, hchar⟩ := map_morseOfChar_filterMap ((validateMorse_isValid morse).mp hv).2
  rw [textToMorse_morseCode, morseToText_decodedText, pyUpper_eq_self upperNonAscii hchar, ← hmap]

/-- The two translations undo each other: decoding an encoding gives the text in upper
case with `?` for unknown characters, and encoding the decoding of valid Morse code gives
its non-empty tokens joined by single spaces. -/
theorem morse_translations_inverse (upperNonAscii : Char → List Char) :
    (∀ text, (morseToText (textToMorse upperNonAscii text).morseCode).decodedText =
      ⟨(pyUpper upperNonAscii text).data.map fun c =>
        if (dictGet morseCode c).isSome then c else '?'⟩) ∧
    ∀ morse, (validateMorse morse).isValid = true →
      (textToMorse upperNonAscii (morseToText morse).decodedText).morseCode =
        pyJoin " " ((pySplit (pyStrip morse) ' ').filter fun t => t ≠ "") :=
  ⟨morseToText_textToMorse upperNonAscii, textToMorse_morseToText upperNonAscii⟩

/-- Both directions with `str.upper` of ASCII only, on `SOS` written with extra spaces. -/
theorem morse_translations_inverse_sos :
    (validateMorse " ...  --- ... / ").isValid = true ∧
      (textToMorse (fun c => [c]) (morseToText " ...  --- ... / ").decodedText).morseCode =
        pyJoin " " ((pySplit (pyStrip " ...  --- ... / ") ' ').filter fun t => t ≠ "") :=
  ⟨by decide, (morse_translations_inverse fun c => [c]).2 _ (by decide)⟩

end Servers
end McpProxyFixtures
