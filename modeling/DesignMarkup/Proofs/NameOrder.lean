import Mathlib.Data.List.Basic

/-!
# The order of names

Sorting by name is stable. If the items that are wanted have different names, the order that they
had makes no difference.
-/

namespace DesignMarkup

/-- The same items in the order of their names, items of one name in the order that they had. -/
structure SortedByName {α : Type} (name : α → String) (items sorted : List α) : Prop where
  perm : sorted.Perm items
  ordered : sorted.Pairwise fun a b => name a ≤ name b
  stable : ∀ text, (sorted.filter fun item => name item == text) =
    items.filter fun item => name item == text

variable {α : Type} {name : α → String} {items sorted : List α}

theorem sortedByName_mergeSort (name : α → String) (items : List α) :
    SortedByName name items (items.mergeSort fun a b => decide (name a ≤ name b)) := by
  have htrans : ∀ a b c : α, decide (name a ≤ name b) = true → decide (name b ≤ name c) = true →
      decide (name a ≤ name c) = true := by
    intro a b c hab hbc
    exact decide_eq_true (String.le_trans (of_decide_eq_true hab) (of_decide_eq_true hbc))
  have htotal : ∀ a b : α, (decide (name a ≤ name b) || decide (name b ≤ name a)) = true := by
    intro a b
    simpa using String.le_total (name a) (name b)
  have hperm := List.mergeSort_perm items fun a b => decide (name a ≤ name b)
  have hordered := (List.pairwise_mergeSort htrans htotal items).imp of_decide_eq_true
  refine ⟨hperm, hordered, fun text => ?_⟩
  -- Items of one name are in order as they are, so sorting leaves them in place.
  have hequal : (items.filter fun item => name item == text).Pairwise
      fun a b => decide (name a ≤ name b) = true := by
    refine List.pairwise_of_forall_mem_list fun a ha b hb => ?_
    have hab : name a = name b :=
      (beq_iff_eq.mp (List.mem_filter.mp ha).2).trans (beq_iff_eq.mp (List.mem_filter.mp hb).2).symm
    rw [hab]
    exact decide_eq_true (String.le_refl _)
  have hsub := (List.sublist_mergeSort htrans htotal hequal List.filter_sublist).filter
    fun item => name item == text
  simp only [List.filter_filter, Bool.and_self] at hsub
  exact (hsub.eq_of_length (hperm.filter _).length_eq.symm).symm

theorem SortedByName.filter (h : SortedByName name items sorted) (keep : α → Bool) :
    SortedByName name (items.filter keep) (sorted.filter keep) := by
  refine ⟨h.perm.filter keep, h.ordered.filter keep, fun text => ?_⟩
  rw [List.filter_comm, h.stable, List.filter_comm]

/-- However a list is ordered: if the items to keep are told apart by their names, sorting by name
leaves them in one order. -/
theorem filter_mergeSort_eq_of_perm {keep : α → Bool} {others : List α} (hperm : items.Perm others)
    (hinj : ∀ a ∈ others, ∀ b ∈ others, keep a = true → keep b = true → name a = name b → a = b) :
    (items.mergeSort fun a b => decide (name a ≤ name b)).filter keep =
      (others.mergeSort fun a b => decide (name a ≤ name b)).filter keep := by
  have hitems := (sortedByName_mergeSort name items).filter keep
  have hothers := (sortedByName_mergeSort name others).filter keep
  have hkept := hitems.perm.trans (hperm.filter keep)
  refine List.Perm.eq_of_pairwise ?_ hitems.ordered hothers.ordered (hkept.trans hothers.perm.symm)
  intro a b ha hb hab hba
  obtain ⟨hma, hka⟩ := List.mem_filter.mp (hkept.mem_iff.mp ha)
  obtain ⟨hmb, hkb⟩ := List.mem_filter.mp (hothers.perm.mem_iff.mp hb)
  exact hinj a hma b hmb hka hkb (String.le_antisymm hab hba)

end DesignMarkup
