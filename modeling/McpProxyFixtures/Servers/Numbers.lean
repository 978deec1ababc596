import Mathlib.Data.Int.Defs
import Mathlib.Data.Nat.Factorial.Basic
import McpProxyFixtures.Python.Str

/-!
# The dice, random and calculator servers

`eval/src/mcpproxy_eval/servers/dice.py`, `random.py` and `calculator.py` answer with
numbers computed by fixed formulas instead of random draws.  This module models the tools
whose answers are integers or strings, with their errors, and states what the formulas
actually compute.  Python's `%` is the floored modulo, {lit}`Int.fmod`; a `ValueError` a
tool raises is an {lit}`Except.error` with its message.

Main results:

- Theorem {lit}`rollDice_ok`: every die `roll_dice` reports shows 1, so the total is the
  number of dice.
- Theorem {lit}`randomInteger_mem`: `random_integer` answers within `[min_val, max_val]`
  when `min_val ≤ max_val`.
- Theorem {lit}`randomInteger_of_gt`: when `max_val < min_val - 1` it answers above
  `max_val`.
- Theorem {lit}`randomChoice_head`: `random_choice` always chooses the first option.
-/

namespace McpProxyFixtures
namespace Servers

open Python

/-! ## Python's `%` and `sum` -/

/-- With a negative divisor, Python's `%` lies in `(b, 0]`. -/
theorem fmod_mem_of_neg (a : Int) {b : Int} (hb : b < 0) : b < a.fmod b ∧ a.fmod b ≤ 0 := by
  obtain ⟨n, rfl⟩ : ∃ n : Nat, b = Int.negSucc n :=
    ⟨b.natAbs - 1, by rw [Int.negSucc_coe]; omega⟩
  have hn : Int.negSucc n = -((n + 1 : Nat) : Int) := Int.negSucc_coe n
  have hlt : ∀ m, m % (n + 1) < n + 1 := fun m => Nat.mod_lt m (Nat.succ_pos n)
  rcases a with (_ | m) | m
  · rw [hn]
    have h0 : (Int.ofNat 0).fmod (-((n + 1 : Nat) : Int)) = 0 := Int.zero_fmod _
    omega
  · show Int.negSucc n < Int.subNatNat (m % (n + 1)) n ∧ Int.subNatNat (m % (n + 1)) n ≤ 0
    rw [Int.subNatNat_eq_coe, hn]
    have := hlt m
    omega
  · show Int.negSucc n < -(((m + 1) % (n + 1) : Nat) : Int) ∧
      -(((m + 1) % (n + 1) : Nat) : Int) ≤ 0
    rw [hn]
    have := hlt (m + 1)
    omega

/-- Python's `sum` over integers: a left fold from 0. -/
def pySum (xs : List Int) : Int :=
  xs.foldl (· + ·) 0

/-- The sum of `n` ones is `n`. -/
theorem pySum_replicate_one (n : Nat) : pySum (List.replicate n 1) = n := by
  have hfold : ∀ acc : Int, (List.replicate n (1 : Int)).foldl (· + ·) acc = acc + n := by
    induction n with
    | zero => intro acc; simp
    | succ n ih =>
      intro acc
      rw [List.replicate_succ, List.foldl_cons, ih]
      omega
  rw [pySum, hfold, Int.zero_add]

/-! ## `dice.py` -/

/-- What `roll_dice` returns. -/
structure RollDice where
  rolls : List Int
  total : Int
  modifier : Int
  modifiedTotal : Int
  diceNotation : String
deriving DecidableEq

/-- The `dice_notation` entry, `f"{count}d{sides}..."` with the modifier's sign. -/
def diceNotation (sides count modifier : Int) : String :=
  toString count ++ "d" ++ toString sides ++
    (if modifier > 0 then "+" ++ toString modifier
    else if modifier < 0 then toString modifier else "")

/-- `roll_dice(sides, count, modifier)`. -/
def rollDice (sides count modifier : Int) : Except String RollDice :=
  if sides < 2 then .error "Dice must have at least 2 sides"
  else if count < 1 then .error "Must roll at least 1 die"
  else if count > 20 then .error "Cannot roll more than 20 dice at once"
  else
    let rolls := (List.range count.toNat).map fun (i : Nat) =>
      (sides * count * ((i : Int) + 1)).fmod sides + 1
    .ok ⟨rolls, pySum rolls, modifier, pySum rolls + modifier, diceNotation sides count modifier⟩

/-- Every die shows 1: `sides * count * (i + 1)` is a multiple of `sides`. -/
theorem rollDice_ok {sides count : Int} (modifier : Int) (hs : 2 ≤ sides) (hc : 1 ≤ count)
    (hc' : count ≤ 20) :
    rollDice sides count modifier =
      .ok ⟨List.replicate count.toNat 1, count, modifier, count + modifier,
        diceNotation sides count modifier⟩ := by
  have hroll : ∀ i : Nat, (sides * count * (i + 1)).fmod sides + 1 = 1 := fun i => by
    rw [Int.mul_assoc, Int.mul_fmod_right, Int.zero_add]
  have hrolls : (List.range count.toNat).map (fun i : Nat =>
      (sides * count * (i + 1)).fmod sides + 1) = List.replicate count.toNat 1 := by
    simp only [hroll, List.map_const', List.length_range]
  have hsum : pySum (List.replicate count.toNat 1) = count := by
    rw [pySum_replicate_one, Int.toNat_of_nonneg (by omega)]
  rw [rollDice, if_neg (by omega), if_neg (by omega), if_neg (by omega)]
  simp only [hrolls, hsum]

/-- Three six-sided dice with `+2`. -/
theorem rollDice_three_d6 :
    (2 : Int) ≤ 6 ∧ (1 : Int) ≤ 3 ∧ (3 : Int) ≤ 20 ∧
      rollDice 6 3 2 = .ok ⟨List.replicate (3 : Int).toNat 1, 3, 2, 3 + 2, diceNotation 6 3 2⟩ :=
  ⟨by decide, by decide, by decide, rollDice_ok 2 (by decide) (by decide) (by decide)⟩

/-- What `roll_advantage` and `roll_disadvantage` return; `kept` is the `advantage` or
`disadvantage` entry. -/
structure RollPair where
  roll1 : Int
  roll2 : Int
  kept : Int
  type : String
deriving DecidableEq

/-- `roll_advantage()`: two fixed rolls, the higher kept. -/
def rollAdvantage : RollPair :=
  ⟨15, 12, max 15 12, "advantage"⟩

/-- `roll_disadvantage()`: two fixed rolls, the lower kept. -/
def rollDisadvantage : RollPair :=
  ⟨8, 14, min 8 14, "disadvantage"⟩

/-- What `dice_stats` returns, without the float `average`. -/
structure DiceStats where
  sides : Int
  minValue : Int
  maxValue : Int
  totalCombinations : Int
deriving DecidableEq

/-- `dice_stats(sides)`. -/
def diceStats (sides : Int) : Except String DiceStats :=
  if sides < 2 then .error "Dice must have at least 2 sides"
  else .ok ⟨sides, 1, sides, sides⟩

/-! ## `random.py` -/

/-- `random_integer(min_val, max_val)`; `none` where `%` raises `ZeroDivisionError`. -/
def randomInteger (minVal maxVal : Int) : Option Int :=
  if maxVal - minVal + 1 = 0 then none
  else some ((minVal + maxVal).fmod (maxVal - minVal + 1) + minVal)

/-- For `min_val ≤ max_val` the answer lies in `[min_val, max_val]`. -/
theorem randomInteger_mem {minVal maxVal : Int} (h : minVal ≤ maxVal) :
    ∃ r, randomInteger minVal maxVal = some r ∧ minVal ≤ r ∧ r ≤ maxVal := by
  have h0 := Int.fmod_nonneg' (minVal + maxVal) (b := maxVal - minVal + 1) (by omega)
  have h1 := Int.fmod_lt_of_pos (minVal + maxVal) (b := maxVal - minVal + 1) (by omega)
  exact ⟨_, if_neg (by omega), by omega, by omega⟩

/-- `random_integer(1, 10)`. -/
theorem randomInteger_mem_one_ten :
    (1 : Int) ≤ 10 ∧ ∃ r, randomInteger 1 10 = some r ∧ 1 ≤ r ∧ r ≤ 10 :=
  ⟨by decide, randomInteger_mem (by decide)⟩

/-- For `max_val < min_val - 1` the divisor is negative and the answer lies in
`[max_val + 2, min_val]`, above `max_val`. -/
theorem randomInteger_of_gt {minVal maxVal : Int} (h : maxVal + 1 < minVal) :
    ∃ r, randomInteger minVal maxVal = some r ∧ maxVal + 2 ≤ r ∧ r ≤ minVal := by
  have hm := fmod_mem_of_neg (minVal + maxVal) (b := maxVal - minVal + 1) (by omega)
  exact ⟨_, if_neg (by omega), by omega, by omega⟩

/-- `random_integer(10, 1)` answers, within `[3, 10]`. -/
theorem randomInteger_ten_one :
    (1 : Int) + 1 < 10 ∧ ∃ r, randomInteger 10 1 = some r ∧ 1 + 2 ≤ r ∧ r ≤ 10 :=
  ⟨by decide, randomInteger_of_gt (by decide)⟩

/-- What `random_choice` returns. -/
inductive RandomChoice where
  | error (error : String)
  | chosen (options : List String) (chosen : String) (totalOptions : Nat)
deriving DecidableEq

/-- `random_choice(options)`; `none` where `options[index // 2]` would raise. -/
def randomChoice (options : List String) : Option RandomChoice :=
  if options = [] then some (.error "Options list cannot be empty")
  else
    let index := if options.length > 1 then options.length % options.length else 0
    let chosen := if options.length > 2 then pyGetItem options (index / 2 : Nat) else options.head?
    chosen.map fun c => .chosen options c options.length

/-- `random_choice` always chooses the first option: the index it computes is 0. -/
theorem randomChoice_head (o : String) (os : List String) :
    randomChoice (o :: os) = some (.chosen (o :: os) o (os.length + 1)) := by
  simp only [randomChoice, List.cons_ne_nil, if_false, List.length_cons, Nat.mod_self,
    Nat.zero_div]
  split_ifs <;> simp [pyGetItem]

/-- The characters `random_password` draws from. -/
def passwordChars : String :=
  "ABCDEFGHIJKLMNOPQRSTUVWXYZabcdefghijklmnopqrstuvwxyz0123456789!@#$%^&*"

/-- What `random_password` returns. -/
inductive RandomPassword where
  | error (error : String)
  | password (password : String) (length : Int) (characterSet : String)
deriving DecidableEq

/-- `random_password(length)`. -/
def randomPassword (length : Int) : RandomPassword :=
  if length < 4 ∨ length > 128 then .error "Password length must be between 4 and 128 characters"
  else
    .password ⟨(List.range length.toNat).map fun i =>
        passwordChars.data.get ⟨i % passwordChars.data.length, Nat.mod_lt _ (by decide)⟩⟩
      length "alphanumeric + symbols"

/-! ## `calculator.py` -/

/-- What `factorial` returns. -/
inductive Factorial where
  | error (operation : String) (number : Int) (error : String)
  | result (operation : String) (number : Int) (result : Nat)
deriving DecidableEq

/-- `factorial(n)`. -/
def factorial (n : Int) : Factorial :=
  if n < 0 then .error "factorial" n "Cannot calculate factorial of negative number"
  else if n > 20 then .error "factorial" n "Number too large for factorial calculation"
  else .result "factorial" n n.toNat.factorial

end Servers
end McpProxyFixtures
