import DesignMarkup.Export.Guarded
import DesignMarkup.Proofs.Registry.SharedKeys
import DesignMarkup.Proofs.Typography.Rounding

/-!
# Guarded keys
-/

namespace DesignMarkup

/-- A style whose weight can be written. -/
def StyleDescriptor.IsWritable (style : StyleDescriptor) : Prop :=
  isWritable style.fontWeight = true

namespace ExportContext

variable {context : ExportContext} {style : StyleDescriptor}

theorem looseRoundedSize (x : Binary64.Finite) :
    LooseRules.roundedSize (.float (.finite x)) = .ok x.roundedSize := by
  have hconverted : (Value.float (.finite x)).toBinary64 = .ok (.finite x) := rfl
  simp only [LooseRules.roundedSize, hconverted, Binary64.roundedSize_finite]

theorem looseFamilyText? (context : ExportContext) (style : StyleDescriptor) :
    context.looseRules.familyText? (.ofDescriptor style) =
      .ok (context.keyRules.familyText? style.fontFamily style.fontWeight) := by
  have hloose : context.looseRules.ignoreFontFamily = context.options.ignoreFontFamily := rfl
  have hrules : context.keyRules.ignoreFontFamily = context.options.ignoreFontFamily := rfl
  rw [KeyRules.familyText?_eq, StyleDescriptor.family?, LooseRules.familyText?, hloose, hrules]
  cases context.options.ignoreFontFamily with
  | true => rfl
  | false =>
    simp only [Bool.false_eq_true, if_false, LooseStyle.ofDescriptor, LooseStyle.require]
    rcases Value.given_ofText? style.fontFamily with ⟨hnone, hgiven⟩ | ⟨family, hs, hf, hgiven⟩
    · rw [hnone]
      simp only [bind, Except.bind, hgiven]
      rfl
    · rw [hs, hf]
      simp only [Value.ofText?, bind, Except.bind, hgiven]
      rfl

theorem looseResolved (context : ExportContext) (paint : Option Paint) :
    context.looseRules.resolved (.ofPaint? paint) =
      .ok (Value.ofText? (context.keyRules.colorText? paint)) := by
  have hgiven : ∀ p, context.looseRules.resolve (.paint p) =
      .ok (Value.ofText? (some (context.palette.paintLiteral p))) := fun _ => rfl
  exact KeyRules.resolved_ofOptional hgiven paint context.options.ignoreFontFamily

theorem looseCandidate (context : ExportContext) (style : StyleDescriptor) :
    context.looseRules.lookupCandidate (.ofDescriptor style) =
      .ok (context.keyRules.candidate style) := by
  have hregion : Region.ofValue (.float (.finite style.fontSize)) =
      .ok (Region.ofSize (.float (.finite style.fontSize))) := rfl
  have hcandidate : context.looseRules.candidate (.ofDescriptor style) =
      .ok (context.keyRules.candidate style) := by
    simp only [LooseRules.candidate, looseFamilyText?]
    simp only [LooseStyle.ofDescriptor, LooseStyle.require, hregion, looseRoundedSize,
      looseResolved, bind, Except.bind, Except.mapError]
    simp only [KeyRules.candidate, KeyRules.signature, component_ofText?]
    rfl
  rw [LooseRules.lookupCandidate, hcandidate]
  rfl

theorem looseAttributes_ofDescriptor (style : StyleDescriptor) :
    Registry.looseAttributes (.ofDescriptor style) = .ok (.ofWeight style.fontWeight) := by
  have hbold : FontAttributes.boldWeights.any (Number.int style.fontWeight).equalsInt =
      FontAttributes.boldWeights.contains style.fontWeight :=
    List.contains_eq_any_beq.symm
  have hlooked : FontAttributes.ofValue (.int style.fontWeight) =
      .ok (if FontAttributes.boldWeights.any (Number.int style.fontWeight).equalsInt then .bold
        else .regular) := rfl
  rw [hbold] at hlooked
  simp only [Registry.looseAttributes, LooseStyle.ofDescriptor, LooseStyle.require]
  exact congrArg (·.mapError StyleError.notHashable) hlooked

/-- A checked style gets the key that it gets when none of its fields is taken for granted. -/
theorem keyForLoose_ofDescriptor (context : ExportContext) (registry : Registry)
    (style : StyleDescriptor) :
    registry.keyForLoose context.looseRules (.ofDescriptor style) =
      (.ok (registry.keyFor context.keyRules style),
        (registry.keyFor context.keyRules style).registry) := by
  rw [Registry.keyForLoose, looseCandidate, Registry.keyFor, Registry.enroll]
  cases hkey : (registry.shelf (context.keyRules.candidate style).region).key?
      (context.keyRules.candidate style).signature with
  | some key => simp only [hkey]
  | none => simp only [hkey, looseAttributes_ofDescriptor]

theorem guardedKey_eq_ok (h : style.IsWritable) (registry : Registry) :
    context.guardedKey registry style =
      (.ok (registry.keyFor context.keyRules style),
        (registry.keyFor context.keyRules style).registry) := by
  have hweight : context.guardedWeight style = .ok () := by
    have hinteger : guardedInteger style.fontWeight = .ok (toString style.fontWeight) := if_pos h
    rw [guardedWeight, hinteger]
    split <;> rfl
  rw [guardedKey, hweight]
  simp only [keyForLoose_ofDescriptor]
  rfl

theorem guardedKeys_eq_ok {styles : List StyleDescriptor} (h : ∀ style ∈ styles, style.IsWritable)
    (registry : Registry) : context.guardedKeys registry styles =
      .ok (registry.keyAll context.keyRules styles).1 := by
  induction styles generalizing registry with
  | nil => rfl
  | cons style styles ih =>
    rw [guardedKeys, guardedKey_eq_ok (h style List.mem_cons_self)]
    exact ih (fun other ho => h other (List.mem_cons_of_mem _ ho)) _

end ExportContext

end DesignMarkup
