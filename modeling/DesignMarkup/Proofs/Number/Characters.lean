import DesignMarkup.Number.Text
import DesignMarkup.Proofs.Registry.Fields
import Mathlib.Data.Bool.AllAny

/-!
# The characters of numbers

Number texts have digits, signs, a point, an exponent mark, or the letters of the words for infinity
and for what is not a number, and no other characters.
-/

namespace DesignMarkup

def IsNumberChar (c : Char) : Prop :=
  c.isDigit = true ∨ c ∈ ['+', '-', '.', 'e', 'i', 'n', 'f', 'a']

theorem isNumberChar_decimalDigits (n : Nat) : ∀ c ∈ decimalDigits n, IsNumberChar c :=
  fun _ hc => .inl (Nat.isDigit_of_mem_toDigits (by decide) (by decide) hc)

theorem isNumberChar_zeros (k : Nat) : ∀ c ∈ List.replicate k '0', IsNumberChar c := by
  intro c hc
  rw [List.eq_of_mem_replicate hc]
  exact .inl rfl

theorem isNumberChar_toString (n : Int) : ∀ c ∈ (toString n).toList, IsNumberChar c := by
  intro c hc
  rcases isDigit_or_sign_of_mem_toString hc with hd | rfl
  · exact .inl hd
  · exact .inr (by decide)

namespace Decimal

variable {digits : List Char}

theorem isNumberChar_positional (h : ∀ c ∈ digits, IsNumberChar c) (leading : Int) :
    ∀ c ∈ positional digits leading, IsNumberChar c := by
  have hzero : IsNumberChar '0' := .inl rfl
  have hpoint : IsNumberChar '.' := .inr (by decide)
  unfold positional
  split
  · simp only [List.forall_mem_cons, List.forall_mem_append]
    exact ⟨hzero, hpoint, isNumberChar_zeros _, h⟩
  · dsimp only
    split
    · simp only [List.forall_mem_cons, List.forall_mem_append]
      exact ⟨⟨h, isNumberChar_zeros _⟩, hpoint, hzero, List.forall_mem_nil _⟩
    · simp only [List.forall_mem_cons, List.forall_mem_append]
      exact ⟨fun c hc => h c (List.mem_of_mem_take hc), hpoint,
        fun c hc => h c (List.mem_of_mem_drop hc)⟩

theorem isNumberChar_exponentMark (leading : Int) :
    ∀ c ∈ exponentMark leading, IsNumberChar c := by
  have hsign : IsNumberChar (if leading < 0 then '-' else '+') := by
    split <;> exact .inr (by decide)
  simp only [exponentMark, List.forall_mem_cons, List.forall_mem_append]
  exact ⟨.inr (by decide), hsign, isNumberChar_zeros _, isNumberChar_decimalDigits _⟩

theorem isNumberChar_scientific (h : ∀ c ∈ digits, IsNumberChar c) (leading : Int) :
    ∀ c ∈ scientific digits leading, IsNumberChar c := by
  have hrest : ∀ c ∈ digits.drop 1, IsNumberChar c := fun c hc => h c (List.mem_of_mem_drop hc)
  rw [scientific, List.forall_mem_append]
  refine ⟨?_, isNumberChar_exponentMark leading⟩
  split
  · exact h
  · simp only [List.forall_mem_cons, List.forall_mem_append]
    exact ⟨fun c hc => h c (List.mem_of_mem_take hc), .inr (by decide), hrest⟩

theorem isNumberChar_text (d : Decimal) : ∀ c ∈ d.text.toList, IsNumberChar c := by
  have hmagnitude : ∀ c ∈ d.magnitudeText, IsNumberChar c := by
    unfold magnitudeText
    dsimp only
    split
    · exact isNumberChar_positional (isNumberChar_decimalDigits _) _
    · exact isNumberChar_scientific (isNumberChar_decimalDigits _) _
  rw [text, String.toList_ofList]
  split
  · exact List.forall_mem_cons.mpr ⟨.inr (by decide), hmagnitude⟩
  · exact hmagnitude

end Decimal

theorem Number.isNumberChar_text (n : Number) : ∀ c ∈ n.text.toList, IsNumberChar c := by
  cases n with
  | int n => exact isNumberChar_toString n
  | float x =>
    cases x with
    | finite x =>
      rw [text, Binary64.plainText]
      split
      · exact isNumberChar_toString _
      · exact x.shortest.isNumberChar_text
    | infinite negative =>
      have hletters : ∀ c ∈ "-inf".toList, c ∈ ['+', '-', '.', 'e', 'i', 'n', 'f', 'a'] :=
        List.all_iff_forall_prop.mp (by decide)
      cases negative with
      | false => exact fun c hc => .inr (hletters c (List.mem_cons_of_mem _ hc))
      | true => exact fun c hc => .inr (hletters c hc)
    | nan =>
      have hletters : ∀ c ∈ "nan".toList, c ∈ ['+', '-', '.', 'e', 'i', 'n', 'f', 'a'] :=
        List.all_iff_forall_prop.mp (by decide)
      exact fun c hc => .inr (hletters c hc)

end DesignMarkup
