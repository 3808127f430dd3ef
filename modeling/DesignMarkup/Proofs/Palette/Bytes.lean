import DesignMarkup.Proofs.Number.Nearest
import DesignMarkup.Proofs.Palette.Literal
import DesignMarkup.Markup.Css

/-!
# The bytes of a colour

Both notations of a colour can be read, and two colours have one literal exactly if their bytes
agree and both or neither is solid (`Color.literals_keep_bytes`).
-/

namespace DesignMarkup

-- ---------------------------------------------------------------------------
-- Pairs of digits
-- ---------------------------------------------------------------------------

namespace Text

def upperDigits : List Char :=
  "0123456789ABCDEF".toList

/-- Reads two hexadecimal digits a byte. -/
def hexBytes? : List Char → Option (List Nat)
  | [] => some []
  | [_] => none
  | high :: low :: rest => do
    let high ← hexValue? high
    let low ← hexValue? low
    let bytes ← hexBytes? rest
    return (16 * high + low) :: bytes

theorem mem_upperDigits {digit : Nat} (h : digit < 16) :
    (Nat.digitChar digit).toUpper ∈ upperDigits := by
  have hall : ∀ digit < 16, (Nat.digitChar digit).toUpper ∈ upperDigits := by decide
  exact hall digit h

theorem hexValue?_upper {digit : Nat} (h : digit < 16) :
    hexValue? (Nat.digitChar digit).toUpper = some digit := by
  have hall : ∀ digit < 16, hexValue? (Nat.digitChar digit).toUpper = some digit := by decide
  exact hall digit h

theorem hexUpper_byte {n : Nat} (h : n < 256) : hexUpper 2 n =
    [(Nat.digitChar (n / 16)).toUpper, (Nat.digitChar (n % 16)).toUpper] := by
  have hdigits : hexLower 2 n = [Nat.digitChar (n / 16), Nat.digitChar (n % 16)] := by
    rcases Nat.lt_or_ge n 16 with hlow | hhigh
    · simp [hexLower, Nat.toDigits_of_lt_base hlow, Nat.div_eq_of_lt hlow, Nat.mod_eq_of_lt hlow]
    · have hfirst : n / 16 < 16 := by omega
      simp [hexLower, Nat.toDigits_of_base_le (by omega) hhigh, Nat.toDigits_of_lt_base hfirst]
  rw [hexUpper, hdigits, List.map_cons, List.map_singleton]

section
variable {bytes : List Nat} (h : ∀ byte ∈ bytes, byte < 256)
include h

theorem length_flatMap_hexUpper : (bytes.flatMap (hexUpper 2)).length = 2 * bytes.length := by
  induction bytes with
  | nil => rfl
  | cons byte bytes ih =>
    have hrest := ih fun other hother => h other (List.mem_cons_of_mem _ hother)
    rw [List.flatMap_cons, List.length_append, hexUpper_byte (h byte List.mem_cons_self), hrest]
    exact Nat.add_comm 2 _

theorem hexBytes?_flatMap : hexBytes? (bytes.flatMap (hexUpper 2)) = some bytes := by
  induction bytes with
  | nil => rfl
  | cons byte bytes ih =>
    have hbyte : byte < 256 := h byte List.mem_cons_self
    have hrest := ih fun other hother => h other (List.mem_cons_of_mem _ hother)
    have hhigh := hexValue?_upper (show byte / 16 < 16 by omega)
    have hlow := hexValue?_upper (show byte % 16 < 16 by omega)
    simp [hexUpper_byte hbyte, hexBytes?, hhigh, hlow, hrest, Nat.div_add_mod]

theorem flatMap_hexUpper_inj {others : List Nat} (ho : ∀ byte ∈ others, byte < 256) :
    bytes.flatMap (hexUpper 2) = others.flatMap (hexUpper 2) ↔ bytes = others := by
  constructor
  · intro heq
    have hread := congrArg hexBytes? heq
    rwa [hexBytes?_flatMap h, hexBytes?_flatMap ho, Option.some_inj] at hread
  · rintro rfl
    rfl

end

end Text

-- ---------------------------------------------------------------------------
-- The byte of an alpha
-- ---------------------------------------------------------------------------

namespace Alpha

open Binary64 Binary64.Finite

theorem isSolid_iff (a : Alpha) : a.isSolid = true ↔ a.value.value = 1 := by
  rw [isSolid, beq_iff_eq, Finite.value, div_eq_one_iff_eq unitsPerOne_cast_pos.ne']
  exact Int.cast_inj.symm

theorem byte_of_isSolid {a : Alpha} (h : a.isSolid = true) : a.byte = 255 := by
  rw [byte, beq_iff_eq.mp h]
  decide +kernel

theorem readsAs_product (a : Alpha) :
    ReadsAs (a.value.value * 255) (nearestCode (a.value.units.toNat * 255) unitsPerOne) := by
  have hreads := readsAs_nearestCode (a.value.units.toNat * 255) unitsPerOne_pos
  have hunits : ((a.value.units.toNat : Nat) : ℚ) = a.value.units := by
    rw [← Int.cast_natCast, Int.toNat_of_nonneg a.zero_le]
  rwa [Nat.cast_mul, hunits, mul_div_right_comm] at hreads

theorem value_bounds (a : Alpha) : 0 ≤ a.value.value ∧ a.value.value ≤ 1 := by
  rw [Finite.value, div_le_one unitsPerOne_cast_pos]
  exact ⟨div_nonneg (Int.cast_nonneg a.zero_le) unitsPerOne_cast_pos.le, by exact_mod_cast a.le_one⟩

theorem units_le_of_readsAs {q : ℚ} {code : Nat} (h : ReadsAs q code) (hq : q ≤ 255) :
    Binary64.units code ≤ 255 * unitsPerOne ∧ code < codeBound := by
  obtain ⟨top, htop, hfinite⟩ : ∃ top : Nat, Binary64.units top = 255 * unitsPerOne ∧
      top < codeBound := ⟨0x406fe00000000000, by decide +kernel, by decide⟩
  have hself := readsAs_self top
  rw [htop, Nat.cast_mul, mul_div_cancel_right₀ _ unitsPerOne_cast_pos.ne'] at hself
  have hle := le_of_readsAs (by rwa [Nat.cast_ofNat]) h hself
  rw [← htop]
  exact ⟨units_strictMono.monotone hle, hle.trans_lt hfinite⟩

/-- The product of an alpha with 255 is not above 255, and rounding it gives the byte. -/
theorem exists_product (a : Alpha) : ∃ product : Finite, IsNearest (a.value.value * 255) product ∧
    IsHalfEven product.value a.byte ∧ a.byte ≤ 255 := by
  obtain ⟨hzero, hone⟩ := a.value_bounds
  have hreads := a.readsAs_product
  rw [byte]
  -- From here on the code of the product is any number that it reads as.
  generalize nearestCode (a.value.units.toNat * 255) unitsPerOne = code at hreads
  obtain ⟨hunits, hfinite⟩ := units_le_of_readsAs hreads (by linarith)
  let product : Finite := ⟨false, code, hfinite⟩
  have hnear : IsNearest (a.value.value * 255) product :=
    isNearest_of_nonneg rfl (mul_nonneg hzero (by norm_num)) hreads
  have hvalue : product.value = Binary64.units code / unitsPerOne := Finite.value_of_nonneg rfl
  refine ⟨product, hnear, ?_, roundHalfEven_le unitsPerOne_pos hunits⟩
  rw [hvalue]
  exact isHalfEven_roundHalfEven _ unitsPerOne_pos

end Alpha

-- ---------------------------------------------------------------------------
-- Literals
-- ---------------------------------------------------------------------------

theorem Markup.Css.toList_color {literal : String} {alpha channels : List Char}
    (h : literal.toList = '#' :: (alpha ++ channels)) (halpha : alpha.length = 0 ∨ alpha.length = 2)
    (hchannels : channels.length = 6) :
    (Css.color literal).toList = '#' :: (channels ++ alpha) := by
  match channels, hchannels with
  | [c₁, c₂, c₃, c₄, c₅, c₆], _ =>
    rcases halpha with hnone | hpair
    · obtain rfl := List.length_eq_zero_iff.mp hnone
      simp [Css.color, h]
    · obtain ⟨a₁, a₂, rfl⟩ := List.length_eq_two.mp hpair
      simp [Css.color, h]

namespace Color

open Binary64 Binary64.Finite
open Markup

/-- What a literal tells of a colour. -/
structure Bytes where
  red : Nat
  green : Nat
  blue : Nat
  alpha : Nat

namespace Bytes

/-- The order of markup. -/
def alphaFirst? : List Nat → Option Bytes
  | [red, green, blue] => some ⟨red, green, blue, 255⟩
  | [alpha, red, green, blue] => some ⟨red, green, blue, alpha⟩
  | _ => none

/-- The order of style rules. -/
def alphaLast? : List Nat → Option Bytes
  | [red, green, blue] => some ⟨red, green, blue, 255⟩
  | [red, green, blue, alpha] => some ⟨red, green, blue, alpha⟩
  | _ => none

end Bytes

/-- Reads a number sign and pairs of digits, with the bytes in the given order. -/
def readBytes? (order : List Nat → Option Bytes) (literal : String) : Option Bytes :=
  match literal.toList with
  | '#' :: digits => (Text.hexBytes? digits).bind order
  | _ => none

variable {c d : Color}

def bytes (c : Color) : Bytes :=
  ⟨c.red, c.green, c.blue, c.alpha.byte⟩

def alphaBytes (c : Color) : List Nat :=
  if c.alpha.isSolid then [] else [c.alpha.byte]

def channelBytes (c : Color) : List Nat :=
  [c.red, c.green, c.blue]

theorem lt_of_mem_bytes {byte : Nat} (h : byte ∈ c.alphaBytes ∨ byte ∈ c.channelBytes) :
    byte < 256 := by
  have halpha : c.alpha.byte ≤ 255 := by
    obtain ⟨-, -, -, hle⟩ := c.alpha.exists_product
    exact hle
  rcases h with h | h
  · unfold alphaBytes at h
    split at h
    · exact absurd h List.not_mem_nil
    · rw [List.mem_singleton.mp h]
      exact Nat.lt_succ_of_le halpha
  · simp only [channelBytes, List.mem_cons, List.not_mem_nil, or_false] at h
    rcases h with rfl | rfl | rfl
    · exact c.red.isLt
    · exact c.green.isLt
    · exact c.blue.isLt

theorem toList_hexLiteral_bytes (c : Color) : c.hexLiteral.toList =
    '#' :: (c.alphaBytes ++ c.channelBytes).flatMap (Text.hexUpper 2) := by
  rw [toList_hexLiteral, digits, alphaBytes]
  cases c.alpha.isSolid <;> simp [channelBytes]

theorem toList_color_hexLiteral (c : Color) : (Css.color c.hexLiteral).toList =
    '#' :: (c.channelBytes ++ c.alphaBytes).flatMap (Text.hexUpper 2) := by
  have hliteral := c.toList_hexLiteral_bytes
  rw [List.flatMap_append] at hliteral ⊢
  refine Css.toList_color hliteral ?_ ?_
  · rw [Text.length_flatMap_hexUpper fun _ h => lt_of_mem_bytes (.inl h), alphaBytes]
    cases c.alpha.isSolid <;> simp
  · rw [Text.length_flatMap_hexUpper fun _ h => lt_of_mem_bytes (.inr h), channelBytes]
    rfl

theorem readBytes?_eq {order : List Nat → Option Bytes} {literal : String} {bytes : List Nat}
    (h : literal.toList = '#' :: bytes.flatMap (Text.hexUpper 2))
    (hbytes : ∀ byte ∈ bytes, byte < 256) : readBytes? order literal = order bytes := by
  simp [readBytes?, h, Text.hexBytes?_flatMap hbytes]

theorem lt_of_mem_alphaFirst (c : Color) : ∀ byte ∈ c.alphaBytes ++ c.channelBytes, byte < 256 :=
  fun _ h => lt_of_mem_bytes (List.mem_append.mp h)

theorem lt_of_mem_alphaLast (c : Color) : ∀ byte ∈ c.channelBytes ++ c.alphaBytes, byte < 256 :=
  fun _ h => lt_of_mem_bytes (List.mem_append.mp h).symm

theorem alphaFirst?_bytes (c : Color) :
    Bytes.alphaFirst? (c.alphaBytes ++ c.channelBytes) = some c.bytes := by
  cases h : c.alpha.isSolid with
  | true => simp [alphaBytes, channelBytes, h, Bytes.alphaFirst?, bytes, Alpha.byte_of_isSolid h]
  | false => simp [alphaBytes, channelBytes, h, Bytes.alphaFirst?, bytes]

theorem alphaLast?_bytes (c : Color) :
    Bytes.alphaLast? (c.channelBytes ++ c.alphaBytes) = some c.bytes := by
  cases h : c.alpha.isSolid with
  | true => simp [alphaBytes, channelBytes, h, Bytes.alphaLast?, bytes, Alpha.byte_of_isSolid h]
  | false => simp [alphaBytes, channelBytes, h, Bytes.alphaLast?, bytes]

/-- The bytes that are written are those that are read and whether there are any for the alpha. -/
theorem writtenBytes_eq_iff :
    c.channelBytes = d.channelBytes ∧ c.alphaBytes = d.alphaBytes ↔
      c.bytes = d.bytes ∧ (c.alpha.value.value = 1 ↔ d.alpha.value.value = 1) := by
  rw [← Alpha.isSolid_iff, ← Alpha.isSolid_iff]
  cases h : c.alpha.isSolid <;> cases h' : d.alpha.isSolid <;>
    simp [alphaBytes, channelBytes, bytes, h, h', Alpha.byte_of_isSolid, and_assoc]

theorem hexLiteral_eq_iff : c.hexLiteral = d.hexLiteral ↔
    c.bytes = d.bytes ∧ (c.alpha.value.value = 1 ↔ d.alpha.value.value = 1) := by
  rw [← String.toList_inj, toList_hexLiteral_bytes, toList_hexLiteral_bytes, List.cons_inj_right,
    Text.flatMap_hexUpper_inj c.lt_of_mem_alphaFirst d.lt_of_mem_alphaFirst,
    ← writtenBytes_eq_iff, and_comm]
  exact ⟨fun h => List.append_inj' h rfl, fun ⟨ha, hc⟩ => by rw [ha, hc]⟩

theorem color_hexLiteral_eq_iff : Css.color c.hexLiteral = Css.color d.hexLiteral ↔
    c.bytes = d.bytes ∧ (c.alpha.value.value = 1 ↔ d.alpha.value.value = 1) := by
  rw [← String.toList_inj, toList_color_hexLiteral, toList_color_hexLiteral, List.cons_inj_right,
    Text.flatMap_hexUpper_inj c.lt_of_mem_alphaLast d.lt_of_mem_alphaLast, ← writtenBytes_eq_iff]
  exact ⟨fun h => List.append_inj h rfl, fun ⟨hc, ha⟩ => by rw [hc, ha]⟩

/-- Each notation of a colour can be read. A literal is a number sign and six upper-case digits if
the alpha is one, else eight; the byte of the alpha is its product with 255, rounded half to even.
Two colours are written alike, in either notation, if and only if their bytes agree and both are
solid or none is. -/
theorem literals_keep_bytes (c d : Color) :
    (∃ digits : List Char, c.hexLiteral.toList = '#' :: digits ∧
      digits.length = (if c.alpha.value.value = 1 then 6 else 8) ∧
      ∀ digit ∈ digits, digit ∈ Text.upperDigits) ∧
    readBytes? Bytes.alphaFirst? c.hexLiteral = some c.bytes ∧
    (∃ product : Finite, IsNearest (c.alpha.value.value * 255) product ∧
      IsHalfEven product.value c.bytes.alpha ∧ c.bytes.alpha ≤ 255) ∧
    (Css.color c.hexLiteral).length = c.hexLiteral.length ∧
    readBytes? Bytes.alphaLast? (Css.color c.hexLiteral) = some c.bytes ∧
    (c.hexLiteral = d.hexLiteral ↔
      c.bytes = d.bytes ∧ (c.alpha.value.value = 1 ↔ d.alpha.value.value = 1)) ∧
    (Css.color c.hexLiteral = Css.color d.hexLiteral ↔
      c.bytes = d.bytes ∧ (c.alpha.value.value = 1 ↔ d.alpha.value.value = 1)) := by
  refine ⟨⟨_, c.toList_hexLiteral_bytes, ?_, fun digit h => ?_⟩, ?_, ?_, ?_, ?_,
    hexLiteral_eq_iff, color_hexLiteral_eq_iff⟩
  · rw [Text.length_flatMap_hexUpper c.lt_of_mem_alphaFirst]
    simp only [← Alpha.isSolid_iff, alphaBytes, channelBytes]
    split <;> rfl
  · obtain ⟨byte, -, hdigit⟩ := List.mem_flatMap.mp h
    obtain ⟨value, hlt, rfl⟩ := Text.exists_digitChar_of_mem_hexUpper hdigit
    exact Text.mem_upperDigits hlt
  · rw [readBytes?_eq c.toList_hexLiteral_bytes c.lt_of_mem_alphaFirst, alphaFirst?_bytes]
  · simp only [bytes]
    exact c.alpha.exists_product
  · rw [← String.length_toList, ← String.length_toList, toList_color_hexLiteral,
      toList_hexLiteral_bytes, List.length_cons, List.length_cons,
      Text.length_flatMap_hexUpper c.lt_of_mem_alphaLast,
      Text.length_flatMap_hexUpper c.lt_of_mem_alphaFirst, List.length_append, List.length_append,
      Nat.add_comm c.channelBytes.length]
  · rw [readBytes?_eq c.toList_color_hexLiteral c.lt_of_mem_alphaLast, alphaLast?_bytes]

-- Just below one the byte is that of a solid colour, but it is written.
example :
    let below : Binary64.Finite := ⟨false, 0x3fefffffffffffff, by decide⟩
    let alpha : Alpha := ⟨below, by decide +kernel, by decide +kernel⟩
    (⟨255, 0, 0, alpha, none⟩ : Color).hexLiteral = "#FFFF0000" := by
  decide +kernel

end Color

end DesignMarkup
