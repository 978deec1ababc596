import McpProxyFixtures.Python.Int

/-!
# The colour server

`eval/src/mcpproxy_eval/servers/color.py` looks colours up in a table, `COLORS`, and
converts between `#RRGGBB` strings and RGB triples.  `hex_to_rgb` checks only that six
characters remain after the leading `#` characters and leaves the rest to `int(s, 16)`,
which also reads a sign, surrounding whitespace, an underscore or a non-ASCII decimal
digit in a pair.

Main results:

- Theorem {lit}`hexToRgb_of_hexDigits`: six ASCII hexadecimal digits read as three
  components in `[0, 255]`, which `rgb_to_hex` writes back as the same string.
- Theorem {lit}`hexToRgb_of_rgbToHex`: `hex_to_rgb` reads back every string `rgb_to_hex`
  writes.
- Theorem {lit}`colors_hex_rgb`: the `hex` and `rgb` of every `COLORS` entry agree under
  both conversions.
- Theorem {lit}`hexToRgb_accepts_signed_pairs`: `hex_to_rgb("-1-1-1")` answers with the
  components `[-1, -1, -1]`.
-/

namespace McpProxyFixtures
namespace Servers

open Python

/-! ## The table and the tools -/

/-- An entry of `COLORS`. -/
structure ColorInfo where
  hex : String
  rgb : List Int
  hsl : List Int
deriving DecidableEq

/-- `COLORS`. -/
def colors : List (String × ColorInfo) :=
  [("red", ⟨"#FF0000", [255, 0, 0], [0, 100, 50]⟩),
    ("green", ⟨"#00FF00", [0, 255, 0], [120, 100, 50]⟩),
    ("blue", ⟨"#0000FF", [0, 0, 255], [240, 100, 50]⟩),
    ("yellow", ⟨"#FFFF00", [255, 255, 0], [60, 100, 50]⟩),
    ("purple", ⟨"#800080", [128, 0, 128], [300, 100, 25]⟩),
    ("orange", ⟨"#FFA500", [255, 165, 0], [39, 100, 50]⟩),
    ("pink", ⟨"#FFC0CB", [255, 192, 203], [350, 100, 88]⟩),
    ("black", ⟨"#000000", [0, 0, 0], [0, 0, 0]⟩),
    ("white", ⟨"#FFFFFF", [255, 255, 255], [0, 0, 100]⟩)]

/-- The dictionary `get_color_info` returns. -/
inductive GetColorInfo where
  | found (name : String) (info : ColorInfo)
  | notFound (error : String) (availableColors : List String)
deriving DecidableEq

/-- `get_color_info(color_name)`; `lowerNonAscii` is the table `str.lower` uses beyond
ASCII. -/
def getColorInfo (lowerNonAscii : Char → List Char) (colorName : String) : GetColorInfo :=
  match dictGet colors (pyStrip (pyLower lowerNonAscii colorName)) with
  | some info => .found colorName info
  | none => .notFound ("Color \x27" ++ colorName ++ "\x27 not found") (colors.map (·.1))

/-- The dictionary `hex_to_rgb` returns. -/
inductive HexToRgb where
  | error (error : String)
  | rgb (hex : String) (rgb : List Int)
deriving DecidableEq

/-- `hex_to_rgb(hex_color)`; `decimalValue` and `upperNonAscii` are the Unicode tables of
`int` and `str.upper`. -/
def hexToRgb (decimalValue : Char → Option Nat) (upperNonAscii : Char → List Char)
    (hexColor : String) : HexToRgb :=
  let hexColor := pyLstrip hexColor '#'
  if hexColor.length ≠ 6 then .error "Invalid hex color format. Use #RRGGBB"
  else
    match ([0, 2, 4] : List Int).mapM fun i =>
        intBase16 decimalValue ⟨pySlice hexColor.data i (i + 2)⟩ with
    | some rgb => .rgb ("#" ++ pyUpper upperNonAscii hexColor) rgb
    | none => .error "Invalid hex color format"

/-- The dictionary `rgb_to_hex` returns. -/
inductive RgbToHex where
  | error (error : String)
  | hex (rgb : List Int) (hex : String)
deriving DecidableEq

/-- `rgb_to_hex(r, g, b)`; the components are formatted only once they are known to be
in `[0, 255]`. -/
def rgbToHex (r g b : Int) : RgbToHex :=
  if [r, g, b].all fun c => 0 ≤ c && c ≤ 255 then
    .hex [r, g, b] ("#" ++ format02X r.toNat ++ format02X g.toNat ++ format02X b.toNat)
  else .error "RGB values must be between 0 and 255"

/-! ## Six hexadecimal digits -/

/-- The ASCII hexadecimal digits are ASCII. -/
theorem toNat_lt_of_mem_asciiHexDigits {c : Char} (hc : c ∈ asciiHexDigits) : c.toNat < 128 :=
  Nat.lt_of_lt_of_le (asciiHexDigits_facts c hc).1 (by decide)

section SixDigits

variable (decimalValue : Char → Option Nat) (upperNonAscii : Char → List Char)
variable {a0 a1 a2 a3 a4 a5 : Char}

/-- After the `#`s, six ASCII hexadecimal digits read as three components. -/
theorem hexToRgb_of_six {s : String} (hs : pyLstrip s '#' = ⟨[a0, a1, a2, a3, a4, a5]⟩)
    (h0 : a0 ∈ asciiHexDigits) (h1 : a1 ∈ asciiHexDigits) (h2 : a2 ∈ asciiHexDigits)
    (h3 : a3 ∈ asciiHexDigits) (h4 : a4 ∈ asciiHexDigits) (h5 : a5 ∈ asciiHexDigits) :
    hexToRgb decimalValue upperNonAscii s =
      .rgb ("#" ++ pyUpper upperNonAscii (pyLstrip s '#'))
        [(16 * digitValue a0 + digitValue a1 : Nat), (16 * digitValue a2 + digitValue a3 : Nat),
          (16 * digitValue a4 + digitValue a5 : Nat)] := by
  have e0 : pySlice [a0, a1, a2, a3, a4, a5] 0 (0 + 2) = [a0, a1] := rfl
  have e2 : pySlice [a0, a1, a2, a3, a4, a5] 2 (2 + 2) = [a2, a3] := rfl
  have e4 : pySlice [a0, a1, a2, a3, a4, a5] 4 (4 + 2) = [a4, a5] := rfl
  simp only [hexToRgb, hs]
  rw [if_neg (fun h => h rfl)]
  simp only [List.mapM_cons, List.mapM_nil, e0, e2, e4, intBase16_hexPair _ h0 h1,
    intBase16_hexPair _ h2 h3, intBase16_hexPair _ h4 h5]
  rfl

/-- `format(16 * a + b, "02X")` for two digits is the two digits in upper case. -/
theorem format02X_hexPair (ha : a0 ∈ asciiHexDigits) (hb : a1 ∈ asciiHexDigits) :
    format02X (16 * digitValue a0 + digitValue a1) = ⟨[a0.toUpper, a1.toUpper]⟩ := by
  obtain ⟨-, -, ha16, -, -, -, haup⟩ := asciiHexDigits_facts a0 ha
  obtain ⟨-, -, hb16, -, -, -, hbup⟩ := asciiHexDigits_facts a1 hb
  have hdiv : (16 * digitValue a0 + digitValue a1) / 16 = digitValue a0 := by omega
  have hmod : (16 * digitValue a0 + digitValue a1) % 16 = digitValue a1 := by omega
  rw [format02X_of_lt (by omega), hdiv, hmod, haup, hbup]

end SixDigits

/-- `rgb_to_hex` writes a triple in `[0, 255]` as `#` and two upper-case digits each. -/
theorem rgbToHex_of_range {r g b : Int} (hr : 0 ≤ r ∧ r ≤ 255) (hg : 0 ≤ g ∧ g ≤ 255)
    (hb : 0 ≤ b ∧ b ≤ 255) :
    rgbToHex r g b =
      .hex [r, g, b] ("#" ++ format02X r.toNat ++ format02X g.toNat ++ format02X b.toNat) := by
  rw [rgbToHex, if_pos]
  simp only [List.all_cons, List.all_nil, Bool.and_true, Bool.and_eq_true, decide_eq_true_eq]
  omega

/-- `rgb_to_hex` answers with a hex string only for a triple in `[0, 255]`. -/
theorem range_of_rgbToHex {r g b : Int} {hex : String} (h : rgbToHex r g b = .hex [r, g, b] hex) :
    (0 ≤ r ∧ r ≤ 255) ∧ (0 ≤ g ∧ g ≤ 255) ∧ (0 ≤ b ∧ b ≤ 255) := by
  unfold rgbToHex at h
  split at h
  · next hall =>
    simp only [List.all_cons, List.all_nil, Bool.and_true, Bool.and_eq_true,
      decide_eq_true_eq] at hall
    omega
  · cases h

/-- For six ASCII hexadecimal digits after the `#`s, `hex_to_rgb` reads three components
in `[0, 255]`, and `rgb_to_hex` writes them back as the hex string it returned. -/
theorem hexToRgb_of_hexDigits (decimalValue : Char → Option Nat)
    (upperNonAscii : Char → List Char) {s : String} (hlen : (pyLstrip s '#').length = 6)
    (hhex : ∀ c ∈ (pyLstrip s '#').data, c ∈ asciiHexDigits) :
    ∃ r g b : Int, hexToRgb decimalValue upperNonAscii s =
        .rgb ("#" ++ pyUpper upperNonAscii (pyLstrip s '#')) [r, g, b] ∧
      (0 ≤ r ∧ r ≤ 255) ∧ (0 ≤ g ∧ g ≤ 255) ∧ (0 ≤ b ∧ b ≤ 255) ∧
      rgbToHex r g b = .hex [r, g, b] ("#" ++ pyUpper upperNonAscii (pyLstrip s '#')) := by
  generalize ht : pyLstrip s '#' = t at hlen hhex
  obtain ⟨l⟩ := t
  rcases l with _ | ⟨a0, _ | ⟨a1, _ | ⟨a2, _ | ⟨a3, _ | ⟨a4, _ | ⟨a5, _ | ⟨a6, l⟩⟩⟩⟩⟩⟩⟩ <;>
    simp only [String.length, List.length_cons, List.length_nil] at hlen <;> try omega
  simp only [List.mem_cons, List.not_mem_nil, or_false, forall_eq_or_imp, forall_eq] at hhex
  obtain ⟨h0, h1, h2, h3, h4, h5⟩ := hhex
  have hd : ∀ c ∈ asciiHexDigits, digitValue c < 16 := fun c hc =>
    (asciiHexDigits_facts c hc).2.2.1
  have := hd a0 h0
  have := hd a1 h1
  have := hd a2 h2
  have := hd a3 h3
  have := hd a4 h4
  have := hd a5 h5
  refine ⟨_, _, _, ht ▸ hexToRgb_of_six decimalValue upperNonAscii ht h0 h1 h2 h3 h4 h5,
    by omega, by omega, by omega, ?_⟩
  rw [rgbToHex_of_range (by omega) (by omega) (by omega), Int.toNat_ofNat, Int.toNat_ofNat,
    Int.toNat_ofNat, format02X_hexPair h0 h1, format02X_hexPair h2 h3, format02X_hexPair h4 h5,
    pyUpper_of_ascii upperNonAscii (by simp [toNat_lt_of_mem_asciiHexDigits, *])]
  rfl

/-- `#ff8000` reads as orange and is written back in upper case. -/
theorem hexToRgb_orange :
    (pyLstrip "#ff8000" '#').length = 6 ∧
      (∀ c ∈ (pyLstrip "#ff8000" '#').data, c ∈ asciiHexDigits) ∧
      ∃ r g b : Int, hexToRgb (fun _ => none) (fun c => [c]) "#ff8000" =
          .rgb ("#" ++ pyUpper (fun c => [c]) (pyLstrip "#ff8000" '#')) [r, g, b] ∧
        (0 ≤ r ∧ r ≤ 255) ∧ (0 ≤ g ∧ g ≤ 255) ∧ (0 ≤ b ∧ b ≤ 255) ∧
        rgbToHex r g b = .hex [r, g, b] ("#" ++ pyUpper (fun c => [c]) (pyLstrip "#ff8000" '#')) :=
  ⟨by decide, by decide, hexToRgb_of_hexDigits _ _ (by decide) (by decide)⟩

/-- `hex_to_rgb` reads back every hex string `rgb_to_hex` writes. -/
theorem hexToRgb_of_rgbToHex (decimalValue : Char → Option Nat)
    (upperNonAscii : Char → List Char) {r g b : Int} {hex : String}
    (h : rgbToHex r g b = .hex [r, g, b] hex) :
    hexToRgb decimalValue upperNonAscii hex = .rgb hex [r, g, b] := by
  obtain ⟨hr, hg, hb⟩ := range_of_rgbToHex h
  rw [rgbToHex_of_range hr hg hb] at h
  obtain ⟨x0, y0, hf0, hx0, hy0, hux0, huy0, hv0⟩ := format02X_digits (n := r.toNat) (by omega)
  obtain ⟨x1, y1, hf1, hx1, hy1, hux1, huy1, hv1⟩ := format02X_digits (n := g.toNat) (by omega)
  obtain ⟨x2, y2, hf2, hx2, hy2, hux2, huy2, hv2⟩ := format02X_digits (n := b.toNat) (by omega)
  rw [hf0, hf1, hf2] at h
  obtain rfl := (RgbToHex.hex.inj h).2
  have hne : x0 ≠ '#' := fun hx => absurd (hx ▸ hx0) (by decide)
  have hs : pyLstrip ("#" ++ ⟨[x0, y0]⟩ ++ ⟨[x1, y1]⟩ ++ ⟨[x2, y2]⟩) '#' =
      ⟨[x0, y0, x1, y1, x2, y2]⟩ := by
    show String.mk (List.dropWhile (· == '#') ('#' :: x0 :: _)) = _
    simp [hne]
  rw [hexToRgb_of_six decimalValue upperNonAscii hs hx0 hy0 hx1 hy1 hx2 hy2, hs,
    pyUpper_of_ascii upperNonAscii (by simp [toNat_lt_of_mem_asciiHexDigits, *]), hv0, hv1, hv2]
  simp only [List.map_cons, List.map_nil, hux0, huy0, hux1, huy1, hux2, huy2,
    Int.toNat_of_nonneg hr.1, Int.toNat_of_nonneg hg.1, Int.toNat_of_nonneg hb.1]
  rfl

/-- Every entry of `COLORS`: `rgb_to_hex` writes its `rgb` as its `hex`, and `hex_to_rgb`
reads its `hex` as its `rgb`. -/
theorem colors_hex_rgb (decimalValue : Char → Option Nat) (upperNonAscii : Char → List Char) :
    ∀ e ∈ colors, ∃ r g b : Int, e.2.rgb = [r, g, b] ∧ rgbToHex r g b = .hex e.2.rgb e.2.hex ∧
      hexToRgb decimalValue upperNonAscii e.2.hex = .rgb e.2.hex e.2.rgb := by
  have hwrite : ∀ e ∈ colors, ∃ r g b : Int, e.2.rgb = [r, g, b] ∧
      rgbToHex r g b = .hex e.2.rgb e.2.hex := by
    simp only [colors, List.mem_cons, List.not_mem_nil, or_false]
    rintro e (rfl | rfl | rfl | rfl | rfl | rfl | rfl | rfl | rfl) <;>
      exact ⟨_, _, _, rfl, by decide⟩
  intro e he
  obtain ⟨r, g, b, hrgb, hhex⟩ := hwrite e he
  rw [hrgb] at hhex ⊢
  exact ⟨r, g, b, rfl, hhex, hexToRgb_of_rgbToHex decimalValue upperNonAscii hhex⟩

/-! ## What `int` admits besides two hexadecimal digits -/

/-- `hex_to_rgb("-1-1-1")` reads each pair `-1` as the integer `-1`, and `rgb_to_hex`
refuses the triple it answers with. -/
theorem hexToRgb_accepts_signed_pairs (decimalValue : Char → Option Nat)
    (upperNonAscii : Char → List Char) :
    hexToRgb decimalValue upperNonAscii "-1-1-1" = .rgb "#-1-1-1" [-1, -1, -1] ∧
      rgbToHex (-1) (-1) (-1) = .error "RGB values must be between 0 and 255" :=
  ⟨rfl, by decide⟩

end Servers
end McpProxyFixtures
