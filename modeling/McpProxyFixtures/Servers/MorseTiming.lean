import Mathlib.Algebra.Field.Rat
import Mathlib.Data.Int.Cast.Lemmas
import Mathlib.Tactic.NormNum.Eq
import McpProxyFixtures.Python.Str

/-!
# Morse audio timing

`morse_audio_timing` of `eval/src/mcpproxy_eval/servers/morse.py` adds up the duration of a
Morse transmission.  Every duration it adds is a multiple of `dot_duration = 1.2 / wpm`
seconds, by the rules its comment states: a dot 1, a dash 3, a space between symbols 1,
between letters 3, between words 7.  This module counts those multiples; the float
`total_duration` is `dot_duration` times the count, up to rounding, and the float
arithmetic itself is not modelled.

The space between symbols is added after every symbol that differs from the token's last
symbol, `symbol != morse_char[-1]`, which compares characters and not positions.  A
token whose last symbol occurs earlier in it loses the spaces after those occurrences:
`...` counts 3 units, not the 5 of the stated rules.

Main results:

- Theorem {lit}`charUnits_total`: the count of one token, in terms of its symbols, its
  length and the occurrences of its last symbol.
- Theorem {lit}`charUnits_eq_standard_iff`: it agrees with the stated rules exactly when
  the last symbol occurs once.
- Theorem {lit}`morseAudioTiming_word`: the count of a word of several letters: each
  letter's count, and 3 for each gap between letters.
- Theorem {lit}`totalDuration_add_missingSpaces`: for every string and every `wpm`, the
  exact `total_duration` plus `dot_duration` for each left-out symbol space is
  `dot_duration` times the stated timing.
- Theorem {lit}`totalDuration_eq_standard_iff`: for `wpm > 0` and a canonical string, the
  two agree exactly when no letter repeats its last symbol earlier; `...` already does.
-/

namespace McpProxyFixtures
namespace Servers

open Python

/-! ## The model -/

/-- A sum of durations in dot lengths, `total_duration / dot_duration`. -/
def totalUnits : List Nat → Nat
  | [] => 0
  | u :: us => u + totalUnits us

/-- The duration of one symbol: a dot 1, a dash 3, anything else nothing. -/
def symbolUnits (symbol : Char) : Nat :=
  if symbol = '.' then 1 else if symbol = '-' then 3 else 0

/-- The durations `morse_audio_timing` adds for one token that is not `/`: each symbol,
then a space of 1 when the symbol differs from the token's last one. -/
def charUnits (morseChar : List Char) : List Nat :=
  morseChar.flatMap fun symbol =>
    symbolUnits symbol :: if some symbol ≠ morseChar.getLast? then [1] else []

/-- The loop over `morse_code.split(' ')`: `/` adds a word space of 7; any other token adds
its symbols, then a letter space of 3 unless it is the last token or the next is `/`. -/
def timingUnits : List String → List Nat
  | [] => []
  | [morseChar] => if morseChar = "/" then [7] else charUnits morseChar.data
  | morseChar :: next :: rest =>
    (if morseChar = "/" then [7]
      else charUnits morseChar.data ++ if next ≠ "/" then [3] else []) ++
      timingUnits (next :: rest)

/-- What `morse_audio_timing` returns: the error, or the request with the total duration
in dot lengths. -/
inductive MorseAudioTiming where
  | error (error : String)
  | timing (morseCode : String) (wpm : Int) (totalDurationUnits : Nat)
deriving DecidableEq

/-- `morse_audio_timing(morse_code, wpm)`. -/
def morseAudioTiming (morseCode : String) (wpm : Int) : MorseAudioTiming :=
  if wpm ≤ 0 then .error "Words per minute must be positive"
  else .timing morseCode wpm (totalUnits (timingUnits (pySplit morseCode ' ')))

/-- The duration of one letter by the rules the source states: its symbols, and a space of
1 between each two of them. -/
def standardCharUnits (morseChar : List Char) : Nat :=
  totalUnits (morseChar.map symbolUnits) + (morseChar.length - 1)

@[simp]
theorem totalUnits_append (us vs : List Nat) :
    totalUnits (us ++ vs) = totalUnits us + totalUnits vs := by
  induction us with
  | nil => simp [totalUnits]
  | cons u us ih => rw [List.cons_append, totalUnits, totalUnits, ih, Nat.add_assoc]

/-! ## One letter -/

/-- With the last symbol fixed, each symbol counts its duration and a space unless it
equals the last symbol; with the occurrences of the last symbol added back, every symbol
counts one space. -/
theorem flatMap_units_total (last : Char) (symbols : List Char) :
    totalUnits (symbols.flatMap fun symbol =>
        symbolUnits symbol :: if some symbol ≠ some last then [1] else []) +
      symbols.count last = totalUnits (symbols.map symbolUnits) + symbols.length := by
  induction symbols with
  | nil => rfl
  | cons s ss ih =>
    have hhead : totalUnits (symbolUnits s :: if some s ≠ some last then [1] else []) +
        (if (s == last) = true then 1 else 0) = symbolUnits s + 1 := by
      by_cases h : s = last <;> simp [h, totalUnits]
    have hmap : totalUnits (symbolUnits s :: ss.map symbolUnits) =
        symbolUnits s + totalUnits (ss.map symbolUnits) := rfl
    rw [List.flatMap_cons, totalUnits_append, List.count_cons, List.map_cons,
      List.length_cons]
    omega

/-- The count of a token: its symbols, plus one space per symbol, less one per occurrence
of its last symbol. -/
theorem charUnits_total {morseChar : List Char} (h : morseChar ≠ []) :
    totalUnits (charUnits morseChar) + morseChar.count (morseChar.getLast h) =
      totalUnits (morseChar.map symbolUnits) + morseChar.length := by
  rw [charUnits, List.getLast?_eq_getLast morseChar h]
  exact flatMap_units_total _ morseChar

/-- A token counts as the stated rules say exactly when its last symbol occurs once in it. -/
theorem charUnits_eq_standard_iff {morseChar : List Char} (h : morseChar ≠ []) :
    totalUnits (charUnits morseChar) = standardCharUnits morseChar ↔
      morseChar.count (morseChar.getLast h) = 1 := by
  have htotal := charUnits_total h
  have hpos : 0 < morseChar.count (morseChar.getLast h) :=
    List.count_pos_iff.mpr (List.getLast_mem h)
  have hlen : 0 < morseChar.length := List.length_pos.mpr h
  rw [standardCharUnits]
  omega

example : totalUnits (charUnits "...".data) = 3 ∧ standardCharUnits "...".data = 5 := by
  decide

/-! ## A word -/

/-- Within a word, with no `/` token, each token counts its own duration and every gap
between two tokens 3. -/
theorem timingUnits_word {toks : List String} (hne : toks ≠ []) (hslash : "/" ∉ toks) :
    totalUnits (timingUnits toks) =
      totalUnits (toks.map fun t => totalUnits (charUnits t.data)) + 3 * (toks.length - 1) := by
  induction toks with
  | nil => exact absurd rfl hne
  | cons t ts ih =>
    have ht : t ≠ "/" := fun h => hslash (h ▸ List.mem_cons_self _ _)
    cases ts with
    | nil => simp [timingUnits, ht, totalUnits]
    | cons u us =>
      have hu : u ≠ "/" := fun h => hslash (h ▸ List.mem_cons_of_mem _ (List.mem_cons_self _ _))
      have ih := ih (List.cons_ne_nil _ _) fun h => hslash (List.mem_cons_of_mem _ h)
      simp only [timingUnits, ht, hu, if_false, ne_eq, not_false_eq_true, if_true,
        totalUnits_append, ih, List.map_cons, totalUnits, List.length_cons]
      omega

/-- `morse_audio_timing` of a word whose letters are joined by single spaces: each letter's
count, and 3 for each gap between letters. -/
theorem morseAudioTiming_word {wpm : Int} (hwpm : 0 < wpm) {toks : List String}
    (hne : toks ≠ []) (hslash : "/" ∉ toks) (hspace : ∀ t ∈ toks, ' ' ∉ t.data) :
    morseAudioTiming (pyJoin " " toks) wpm =
      .timing (pyJoin " " toks) wpm
        (totalUnits (toks.map fun t => totalUnits (charUnits t.data)) +
          3 * (toks.length - 1)) := by
  rw [morseAudioTiming, if_neg (by omega), show (" " : String) = ⟨[' ']⟩ from rfl,
    pySplit_pyJoin hspace hne, timingUnits_word hne hslash]

example : morseAudioTiming "... --- ..." 20 = .timing "... --- ..." 20 21 := by
  decide

/-! ## The duration in seconds -/

/-- `dot_duration = 1.2 / wpm`, in exact arithmetic. -/
def dotDuration (wpm : Int) : ℚ :=
  6 / 5 / wpm

/-- `total_duration` before rounding, in exact arithmetic: the loop adds `dot_duration`
times each count of {lit}`timingUnits`, in order; `dash_duration`, `letter_space` and
`word_space` are `dot_duration` times 3, 3 and 7. -/
def totalDuration (morseCode : String) (wpm : Int) : ℚ :=
  (timingUnits (pySplit morseCode ' ')).foldl
    (fun total (units : Nat) => total + dotDuration wpm * units) 0

/-- Adding `dot_duration` times each count, from any running total. -/
theorem foldl_add_dot (wpm : Int) (units : List Nat) (acc : ℚ) :
    units.foldl (fun total (k : Nat) => total + dotDuration wpm * k) acc =
      acc + dotDuration wpm * totalUnits units := by
  induction units generalizing acc with
  | nil => rw [List.foldl_nil, totalUnits, Nat.cast_zero, mul_zero, add_zero]
  | cons k ks ih => rw [List.foldl_cons, ih, totalUnits, Nat.cast_add, mul_add, add_assoc]

/-- `total_duration` is `dot_duration` times the count in dot lengths. -/
theorem totalDuration_eq (morseCode : String) (wpm : Int) :
    totalDuration morseCode wpm =
      dotDuration wpm * totalUnits (timingUnits (pySplit morseCode ' ')) := by
  rw [totalDuration, foldl_add_dot, zero_add]

/-- The answer of `morse_audio_timing` carries the count whose multiple of `dot_duration`
is `total_duration`. -/
theorem morseAudioTiming_totalDuration (morseCode : String) {wpm : Int} (hwpm : 0 < wpm) :
    ∃ units, morseAudioTiming morseCode wpm = .timing morseCode wpm units ∧
      totalDuration morseCode wpm = dotDuration wpm * units :=
  ⟨_, if_neg (by omega), totalDuration_eq morseCode wpm⟩

/-! ## The timing the source states -/

/-- A canonical Morse token: `/`, or a non-empty string of dots and dashes. -/
def CanonicalToken (t : String) : Prop :=
  t = "/" ∨ t.data ≠ [] ∧ ∀ c ∈ t.data, c = '.' ∨ c = '-'

instance : DecidablePred CanonicalToken := fun _ => inferInstanceAs (Decidable (_ ∨ _ ∧ _))

/-- A canonical Morse string: canonical tokens separated by single spaces, so that
splitting it at spaces gives canonical tokens only. -/
def CanonicalMorse (m : String) : Prop :=
  ∀ t ∈ pySplit m ' ', CanonicalToken t

instance : DecidablePred CanonicalMorse := fun _ => inferInstanceAs (Decidable (∀ _ ∈ _, _))

/-- One token by the stated rules: 7 for `/`, and for a letter its symbols and a space of 1
between each two of them. -/
def standardTokenUnits (t : String) : Nat :=
  if t = "/" then 7 else standardCharUnits t.data

/-- The spaces of 3 between two adjacent letter tokens. -/
def letterGaps : List String → Nat
  | t :: u :: rest => (if t ≠ "/" ∧ u ≠ "/" then 3 else 0) + letterGaps (u :: rest)
  | _ => 0

/-- `U(m)`, the stated timing of the tokens of a string, in dot lengths. -/
def standardUnits (toks : List String) : Nat :=
  totalUnits (toks.map standardTokenUnits) + letterGaps toks

/-- The symbol spaces the loop leaves out of a letter token: one for each earlier
occurrence of its last symbol. -/
def missingSpaces (t : String) : Nat :=
  if t = "/" then 0 else t.data.count (t.data.getLast?.getD '.') - 1

theorem standardUnits_cons_cons (t u : String) (rest : List String) :
    standardUnits (t :: u :: rest) = standardTokenUnits t +
      (if t ≠ "/" ∧ u ≠ "/" then 3 else 0) + standardUnits (u :: rest) := by
  simp only [standardUnits, List.map_cons, totalUnits, letterGaps]
  omega

/-- A letter token counts its stated timing less its missing spaces. -/
theorem charUnits_add_missingSpaces {t : String} (ht : t ≠ "/") :
    totalUnits (charUnits t.data) + missingSpaces t = standardCharUnits t.data := by
  rw [missingSpaces, if_neg ht, standardCharUnits]
  by_cases h : t.data = []
  · rw [h]
    rfl
  · have htotal := charUnits_total h
    have hpos : 0 < t.data.count (t.data.getLast h) :=
      List.count_pos_iff.mpr (List.getLast_mem h)
    have hlen : 0 < t.data.length := List.length_pos.mpr h
    rw [List.getLast?_eq_getLast _ h, Option.getD_some]
    omega

/-- One token's own count plus its missing spaces is its stated timing. -/
theorem tokenUnits_add_missingSpaces (t : String) :
    totalUnits (if t = "/" then [7] else charUnits t.data) + missingSpaces t =
      standardTokenUnits t := by
  by_cases ht : t = "/"
  · simp [ht, missingSpaces, standardTokenUnits, totalUnits]
  · rw [if_neg ht, standardTokenUnits, if_neg ht]
    exact charUnits_add_missingSpaces ht

/-- A letter followed by a letter adds the letter space of 3 after its own count. -/
theorem tokenGap_units (t u : String) :
    totalUnits (if t = "/" then [7] else charUnits t.data ++ if u ≠ "/" then [3] else []) =
      totalUnits (if t = "/" then [7] else charUnits t.data) +
        if t ≠ "/" ∧ u ≠ "/" then 3 else 0 := by
  by_cases ht : t = "/" <;> by_cases hu : u = "/" <;> simp [ht, hu, totalUnits]

/-- Over any tokens, the loop's count plus the missing spaces is the stated timing. -/
theorem timingUnits_add_missingSpaces (toks : List String) :
    totalUnits (timingUnits toks) + totalUnits (toks.map missingSpaces) =
      standardUnits toks := by
  induction toks with
  | nil => rfl
  | cons t ts ih =>
    cases ts with
    | nil => exact tokenUnits_add_missingSpaces t
    | cons u rest =>
      have hmap : totalUnits ((t :: u :: rest).map missingSpaces) =
          missingSpaces t + totalUnits ((u :: rest).map missingSpaces) := rfl
      have htok := tokenUnits_add_missingSpaces t
      rw [timingUnits, totalUnits_append, tokenGap_units, hmap, standardUnits_cons_cons, ← ih,
        ← htok]
      omega

/-- For every string and every `wpm`, the exact `total_duration` plus `dot_duration` for
each missing symbol space is `dot_duration` times the stated timing. -/
theorem totalDuration_add_missingSpaces (morseCode : String) (wpm : Int) :
    totalDuration morseCode wpm +
        dotDuration wpm * totalUnits ((pySplit morseCode ' ').map missingSpaces) =
      dotDuration wpm * standardUnits (pySplit morseCode ' ') := by
  rw [totalDuration_eq, ← mul_add, ← Nat.cast_add, timingUnits_add_missingSpaces]

/-- No space is missing exactly when no token misses one. -/
theorem totalUnits_eq_zero_iff (us : List Nat) : totalUnits us = 0 ↔ ∀ u ∈ us, u = 0 := by
  induction us with
  | nil => simp [totalUnits]
  | cons u us ih => simp only [totalUnits, List.mem_cons, forall_eq_or_imp, ← ih]; omega

/-- For `wpm > 0` and a canonical string, `total_duration` is `dot_duration` times the
stated timing exactly when no letter token repeats its last symbol before the end. -/
theorem totalDuration_eq_standard_iff {wpm : Int} (hwpm : 0 < wpm) {morseCode : String}
    (hm : CanonicalMorse morseCode) :
    totalDuration morseCode wpm = dotDuration wpm * standardUnits (pySplit morseCode ' ') ↔
      ∀ t ∈ pySplit morseCode ' ', t ≠ "/" → t.data.count (t.data.getLast?.getD '.') = 1 := by
  have hdot : dotDuration wpm ≠ 0 :=
    div_ne_zero (by norm_num) (Int.cast_ne_zero.mpr (by omega))
  rw [← totalDuration_add_missingSpaces, self_eq_add_right, mul_eq_zero, or_iff_right hdot,
    Nat.cast_eq_zero, totalUnits_eq_zero_iff]
  simp only [List.forall_mem_map]
  refine forall₂_congr fun t htok => ?_
  rw [missingSpaces]
  by_cases ht : t = "/"
  · simp [ht]
  · obtain ht' | ⟨hne, -⟩ := hm t htok
    · exact absurd ht' ht
    · have hpos : 0 < t.data.count (t.data.getLast?.getD '.') := by
        rw [List.getLast?_eq_getLast _ hne, Option.getD_some]
        exact List.count_pos_iff.mpr (List.getLast_mem hne)
      simp only [ht, if_false, ne_eq, not_false_eq_true, forall_const]
      omega

/-- On `... --- ...` at 20 words per minute. -/
theorem totalDuration_eq_standard_iff_sos :
    (0 : Int) < 20 ∧ CanonicalMorse "... --- ..." ∧
      (totalDuration "... --- ..." 20 = dotDuration 20 * standardUnits (pySplit "... --- ..." ' ') ↔
        ∀ t ∈ pySplit "... --- ..." ' ', t ≠ "/" → t.data.count (t.data.getLast?.getD '.') = 1) :=
  ⟨by decide, by decide, totalDuration_eq_standard_iff (by decide) (by decide)⟩

/-- On the letter `S`, `...` at 20 words per minute, the loop adds 3 dot lengths where the
stated timing has 5: no space follows a dot, since every dot equals the last symbol. -/
theorem totalDuration_letter_s :
    CanonicalMorse "..." ∧ totalDuration "..." 20 = dotDuration 20 * 3 ∧
      standardUnits (pySplit "..." ' ') = 5 ∧
      totalDuration "..." 20 ≠ dotDuration 20 * standardUnits (pySplit "..." ' ') := by
  have htoks : timingUnits (pySplit "..." ' ') = [1, 1, 1] := by decide
  have hstd : standardUnits (pySplit "..." ' ') = 5 := by decide
  have htotal : totalDuration "..." 20 = dotDuration 20 * 3 := by
    rw [totalDuration_eq, htoks]
    rfl
  refine ⟨by decide, htotal, hstd, ?_⟩
  rw [htotal, hstd, dotDuration, Nat.cast_ofNat]
  norm_num

end Servers
end McpProxyFixtures
