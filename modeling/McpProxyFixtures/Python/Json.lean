import Mathlib.Data.List.Basic

/-!
# JSON values as Python holds them

`json.loads` returns `None`, `bool`, `int`, `float`, `str`, `list` and `dict` values, and
Starlette's `JSONResponse` writes a returned value with
`json.dumps(content, ensure_ascii=False, allow_nan=False, ...).encode("utf-8")`.  Two kinds
of value get through the first and not the second.  One is a `float` that is not finite:
`json.loads` reads `NaN`, `Infinity`, and every literal too large for a double (`1e400`) as
one, and `allow_nan=False` refuses it.  The other is a `str` that holds a surrogate:
`json.loads` reads an unpaired escape such as `"\ud800"` as one, and UTF-8 cannot encode
it.  A Lean {lit}`String` cannot hold a surrogate, so a Python `str` is its list of code
points here, and a `float` its 64 bits.

Main results:

- Theorem {lit}`PyStr.ofString_encodable`: a string of Lean characters never holds a
  surrogate, so every value built from Lean strings, integers and finite floats can be
  written.
- Definition {lit}`Json.renderable`: the check that decides whether Starlette writes a
  value or raises.
-/

namespace McpProxyFixtures
namespace Python

/-! ## Floats and strings -/

/-- A Python `float`, by the 64 bits of its IEEE 754 binary64 value. -/
structure PyFloat where
  bits : UInt64
  deriving DecidableEq

/-- A double is finite unless its eleven exponent bits, above the 52 bits of the fraction,
are all set (an infinity or a NaN). -/
def PyFloat.finite (x : PyFloat) : Bool :=
  x.bits.toNat / 0x10000000000000 % 0x800 != 0x7FF

/-- `float("inf")`, which `json.loads` returns for `Infinity` and for `1e400`. -/
def PyFloat.inf : PyFloat :=
  ⟨0x7FF0000000000000⟩

/-- A Python `str`: its code points.  Unlike a Lean {lit}`String` it may hold a surrogate,
`U+D800` to `U+DFFF`. -/
structure PyStr where
  points : List (Fin 0x110000)
  deriving DecidableEq

/-- A Lean character is a Unicode scalar value: a code point that is not a surrogate. -/
theorem toNat_scalar (c : Char) : c.toNat < 0xD800 ∨ 0xDFFF < c.toNat ∧ c.toNat < 0x110000 :=
  c.valid

/-- A Lean string as a Python `str`. -/
def PyStr.ofString (s : String) : PyStr :=
  ⟨s.data.map fun c => ⟨c.toNat, by have := toNat_scalar c; omega⟩⟩

instance : Coe String PyStr :=
  ⟨PyStr.ofString⟩

/-- UTF-8 encodes a string exactly when it holds no surrogate. -/
def PyStr.encodable (s : PyStr) : Bool :=
  s.points.all fun p => p.val < 0xD800 || 0xDFFF < p.val

@[simp]
theorem PyStr.ofString_encodable (s : String) : (PyStr.ofString s).encodable = true := by
  refine List.all_eq_true.mpr fun p hp => ?_
  obtain ⟨c, -, rfl⟩ := List.mem_map.mp hp
  have := toNat_scalar c
  simp only [Bool.or_eq_true, decide_eq_true_eq]
  omega

/-! ## Values -/

/-- A value as `json.loads` returns it.  A `dict` is the list of its items in insertion
order; `json.loads` keeps the last value of a repeated key, so the objects it returns have
distinct keys. -/
inductive Json where
  | null
  | bool (b : Bool)
  | int (n : Int)
  | float (x : PyFloat)
  | str (s : PyStr)
  | arr (items : List Json)
  | obj (fields : List (PyStr × Json))

mutual

/-- Whether `JSONResponse` writes a value: `json.dumps(..., allow_nan=False)` raises on a
float that is not finite, and `.encode("utf-8")` on a surrogate, in a string or in a key. -/
def Json.renderable : Json → Bool
  | .float x => x.finite
  | .str s => s.encodable
  | .arr items => Json.renderableItems items
  | .obj fields => Json.renderableFields fields
  | .null | .bool _ | .int _ => true

/-- Whether every item of a `list` can be written. -/
def Json.renderableItems : List Json → Bool
  | [] => true
  | item :: rest => item.renderable && Json.renderableItems rest

/-- Whether every key and every value of a `dict` can be written. -/
def Json.renderableFields : List (PyStr × Json) → Bool
  | [] => true
  | (key, value) :: rest => key.encodable && value.renderable && Json.renderableFields rest

end

end Python
end McpProxyFixtures
