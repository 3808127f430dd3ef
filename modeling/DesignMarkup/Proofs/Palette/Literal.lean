import DesignMarkup.Palette.Resolver
import Mathlib.Data.List.Basic

/-!
# Colour literals

A literal is a reference or hexadecimal, never both, and tells which of the two it is. Colours with
the same channels have the same literal.
-/

namespace DesignMarkup

-- ---------------------------------------------------------------------------
-- Hexadecimal literals
-- ---------------------------------------------------------------------------

namespace Text

theorem exists_digitChar_of_mem_toDigits {n : Nat} {c : Char} (h : c ∈ Nat.toDigits 16 n) :
    ∃ digit < 16, c = Nat.digitChar digit := by
  induction n using Nat.strongRecOn with
  | ind n ih =>
    by_cases hn : n < 16
    · rw [Nat.toDigits_of_lt_base hn, List.mem_singleton] at h
      exact ⟨n, hn, h⟩
    · rw [Nat.toDigits_of_base_le (by omega) (by omega), List.mem_append, List.mem_singleton] at h
      rcases h with hd | rfl
      · exact ih (n / 16) (by omega) hd
      · exact ⟨n % 16, by omega, rfl⟩

theorem exists_digitChar_of_mem_hexUpper {width n : Nat} {c : Char} (h : c ∈ hexUpper width n) :
    ∃ digit < 16, c = (Nat.digitChar digit).toUpper := by
  obtain ⟨d, hd, rfl⟩ := List.mem_map.mp h
  rcases List.mem_append.mp hd with hzero | hdigit
  · obtain rfl := List.eq_of_mem_replicate hzero
    exact ⟨0, by decide, rfl⟩
  · obtain ⟨digit, hlt, rfl⟩ := exists_digitChar_of_mem_toDigits hdigit
    exact ⟨digit, hlt, rfl⟩

theorem bracket_not_mem_hexUpper (width n : Nat) : '<' ∉ hexUpper width n := by
  intro h
  obtain ⟨digit, hlt, hc⟩ := exists_digitChar_of_mem_hexUpper h
  have hne : ∀ digit < 16, '<' ≠ (Nat.digitChar digit).toUpper := by decide
  exact hne digit hlt hc

end Text

namespace Color

variable {c d : Color}

/-- The digits of a literal, those of the alpha first if there are any. -/
def digits (c : Color) : List Char :=
  (if c.alpha.isSolid then [] else Text.hexUpper 2 c.alpha.byte) ++
    (Text.hexUpper 2 c.red ++ Text.hexUpper 2 c.green ++ Text.hexUpper 2 c.blue)

theorem toList_hexLiteral (c : Color) : c.hexLiteral.toList = '#' :: c.digits := by
  -- For any flag and any digits, so that no alpha is ever evaluated.
  have hcases : ∀ (solid : Bool) (alpha channels : List Char),
      (if solid then String.ofList ('#' :: channels)
        else String.ofList ('#' :: alpha ++ channels)).toList =
      '#' :: ((if solid then [] else alpha) ++ channels) := by
    intro solid alpha channels
    cases solid <;> simp
  exact hcases c.alpha.isSolid (Text.hexUpper 2 c.alpha.byte) _

theorem exists_hexUpper_of_mem_digits {digit : Char} (h : digit ∈ c.digits) :
    ∃ n, digit ∈ Text.hexUpper 2 n := by
  have halpha : ∀ (solid : Bool) (alpha : List Char),
      digit ∈ (if solid then [] else alpha) → digit ∈ alpha := by
    intro solid alpha
    cases solid <;> simp
  rcases List.mem_append.mp h with ha | hchannels
  · exact ⟨_, halpha _ _ ha⟩
  · rcases List.mem_append.mp hchannels with hrg | hb
    · rcases List.mem_append.mp hrg with hr | hg
      · exact ⟨_, hr⟩
      · exact ⟨_, hg⟩
    · exact ⟨_, hb⟩

theorem bracket_not_mem_hexLiteral (c : Color) : '<' ∉ c.hexLiteral.toList := by
  rw [toList_hexLiteral, List.mem_cons, not_or]
  refine ⟨by decide, fun h => ?_⟩
  obtain ⟨n, hn⟩ := exists_hexUpper_of_mem_digits h
  exact Text.bracket_not_mem_hexUpper 2 n hn

theorem head?_hexLiteral (c : Color) : c.hexLiteral.toList.head? = some '#' := by
  rw [toList_hexLiteral, List.head?_cons]

/-- The literal does not depend on how a zero alpha is signed, or on the name. -/
theorem hexLiteral_eq_of_sameChannels (h : c.sameChannels d = true) :
    c.hexLiteral = d.hexLiteral := by
  simp only [sameChannels, Bool.and_eq_true, beq_iff_eq] at h
  obtain ⟨⟨⟨hr, hg⟩, hb⟩, ha⟩ := h
  have hsolid : c.alpha.isSolid = d.alpha.isSolid := by
    unfold Alpha.isSolid
    rw [ha]
  have hbyte : c.alpha.byte = d.alpha.byte := by
    unfold Alpha.byte
    rw [ha]
  unfold hexLiteral
  rw [hr, hg, hb, hsolid, hbyte]

end Color

-- ---------------------------------------------------------------------------
-- References
-- ---------------------------------------------------------------------------

theorem toList_staticResource (key : String) : (staticResource key).toList =
    "\x7bStaticResource ".toList ++ key.toList ++ "\x7d".toList := by
  -- For any texts: a literal text is never compared with an appended one.
  have happend : ∀ before after : String,
      (before ++ key ++ after).toList = before.toList ++ key.toList ++ after.toList := by
    intro before after
    rw [String.toList_append, String.toList_append]
  exact happend _ _

theorem staticResource_inj {k l : String} : staticResource k = staticResource l ↔ k = l := by
  constructor
  · intro h
    have hl := (toList_staticResource k).symm.trans
      ((congrArg String.toList h).trans (toList_staticResource l))
    exact String.toList_inj.mp (List.append_cancel_left (List.append_cancel_right hl))
  · rintro rfl
    rfl

theorem head?_staticResource (key : String) : (staticResource key).toList.head? = some '\x7b' := by
  rw [toList_staticResource]
  rfl

theorem staticResource_ne_hexLiteral (key : String) (c : Color) :
    staticResource key ≠ c.hexLiteral := by
  intro h
  have hhead := head?_staticResource key
  rw [h, c.head?_hexLiteral] at hhead
  exact absurd hhead (by decide)

namespace Palette

theorem exists_of_key?_eq_some {palette : Palette} {c : Color} {key : String}
    (h : palette.key? c = some key) : ∃ name, resourceKey? name palette.suffix = some key := by
  unfold key? at h
  split at h
  · cases h
  · rename_i resource _
    obtain ⟨text, htext, hgiven⟩ := Option.bind_eq_some_iff.mp h
    unfold Text.nonEmpty? at hgiven
    split at hgiven
    · cases hgiven
    · cases hgiven
      exact ⟨resource.name, htext⟩

theorem literal_eq_staticResource_iff {palette : Palette} {c : Color} {key : String} :
    palette.literal c = staticResource key ↔ palette.key? c = some key := by
  unfold literal
  cases h : palette.key? c with
  | some found => simp [staticResource_inj]
  | none => simp [(staticResource_ne_hexLiteral key c).symm]

theorem nonEmpty?_literal (palette : Palette) (c : Color) :
    Text.nonEmpty? (palette.literal c) = some (palette.literal c) := by
  have hne : palette.literal c ≠ "" := by
    intro h
    have hhead : (palette.literal c).toList.head? = none := by
      rw [h]
      rfl
    unfold literal at hhead
    cases hk : palette.key? c with
    | some key =>
      rw [hk] at hhead
      exact absurd ((head?_staticResource key).symm.trans hhead) (by decide)
    | none =>
      rw [hk] at hhead
      exact absurd (c.head?_hexLiteral.symm.trans hhead) (by decide)
  rw [Text.nonEmpty?, if_neg hne]

end Palette

end DesignMarkup
