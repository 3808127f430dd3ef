import Mathlib.Data.List.Induction

/-!
# First occurrences

`l.eraseDupsBy same` keeps of every group of like items the one that comes first. Here it is seen
from the other end: what one more item at the end of a list adds to it.
-/

namespace DesignMarkup

variable {α : Type} {same : α → α → Bool}

theorem eraseDupsBy_loop_concat (l : List α) (a : α) (seen : List α) :
    List.eraseDupsBy.loop same (l ++ [a]) seen =
      if (List.eraseDupsBy.loop same l seen).any (same a) then List.eraseDupsBy.loop same l seen
      else List.eraseDupsBy.loop same l seen ++ [a] := by
  induction l generalizing seen with
  | nil =>
    cases h : seen.any (same a) <;> simp [List.eraseDupsBy.loop, h]
  | cons b l ih =>
    cases h : seen.any (same b) with
    | true => simpa only [List.cons_append, List.eraseDupsBy.loop, h] using ih seen
    | false => simpa only [List.cons_append, List.eraseDupsBy.loop, h] using ih (b :: seen)

theorem eraseDupsBy_concat (l : List α) (a : α) :
    (l ++ [a]).eraseDupsBy same =
      if (l.eraseDupsBy same).any (same a) then l.eraseDupsBy same
      else l.eraseDupsBy same ++ [a] :=
  eraseDupsBy_loop_concat l a []

theorem eraseDupsBy_prefix_append (l m : List α) :
    l.eraseDupsBy same <+: (l ++ m).eraseDupsBy same := by
  induction m using List.reverseRecOn with
  | nil => simp
  | append_singleton m a ih =>
    rw [← List.append_assoc, eraseDupsBy_concat]
    split
    · exact ih
    · exact ih.trans (List.prefix_append _ _)

theorem eraseDupsBy_sublist (l : List α) : (l.eraseDupsBy same).Sublist l := by
  induction l using List.reverseRecOn with
  | nil => simp
  | append_singleton l a ih =>
    rw [eraseDupsBy_concat]
    split
    · exact ih.trans (List.sublist_append_left l [a])
    · exact ih.append (List.Sublist.refl [a])

theorem pairwise_eraseDupsBy (l : List α) :
    (l.eraseDupsBy same).Pairwise fun a b => same b a = false := by
  induction l using List.reverseRecOn with
  | nil => simp
  | append_singleton l a ih =>
    rw [eraseDupsBy_concat]
    split
    · exact ih
    · rename_i h
      refine List.pairwise_append.mpr ⟨ih, List.pairwise_singleton _ _, ?_⟩
      intro b hb c hc
      obtain rfl := List.mem_singleton.mp hc
      simp only [List.any_eq_true, not_exists, not_and, Bool.not_eq_true] at h
      exact h b hb

theorem exists_same_of_mem (hrefl : ∀ a, same a a = true) {l : List α} (ha : a ∈ l) :
    ∃ b ∈ l.eraseDupsBy same, same a b = true := by
  induction l using List.reverseRecOn with
  | nil => simp at ha
  | append_singleton l c ih =>
    have hp := (@eraseDupsBy_prefix_append _ same l [c]).subset
    rcases List.mem_append.mp ha with hl | hc
    · obtain ⟨b, hb, hs⟩ := ih hl
      exact ⟨b, hp hb, hs⟩
    · obtain rfl := List.mem_singleton.mp hc
      rw [eraseDupsBy_concat] at hp ⊢
      split at hp
      · rename_i h
        obtain ⟨b, hb, hs⟩ := List.any_eq_true.mp h
        exact ⟨b, by simpa [h] using hb, hs⟩
      · rename_i h
        exact ⟨a, by simp [h], hrefl a⟩

-- ---------------------------------------------------------------------------
-- Representatives
-- ---------------------------------------------------------------------------

/-- One item for every group of like items, and no others. -/
structure Represents (same : α → α → Bool) (items kept : List α) : Prop where
  subset : kept ⊆ items
  distinct : kept.Pairwise fun a b => same b a = false
  complete : ∀ a ∈ items, ∃ b ∈ kept, same a b = true

variable {items others kept : List α}

theorem represents_eraseDupsBy (hrefl : ∀ a, same a a = true) (items : List α) :
    Represents same items (items.eraseDupsBy same) :=
  ⟨(eraseDupsBy_sublist items).subset, pairwise_eraseDupsBy items,
    fun _ ha => exists_same_of_mem hrefl ha⟩

theorem Represents.of_perm (h : Represents same items kept) (hperm : items.Perm others) :
    Represents same others kept :=
  ⟨fun _ ha => hperm.mem_iff.mp (h.subset ha), h.distinct,
    fun a ha => h.complete a (hperm.mem_iff.mpr ha)⟩

/-- Items that are pairwise unlike, each like one of some others, are no more than these. -/
theorem length_le_of_complete (hsymm : ∀ a b, same a b = true → same b a = true)
    (htrans : ∀ a b c, same a b = true → same b c = true → same a c = true)
    (hdistinct : items.Pairwise fun a b => same b a = false)
    (hcomplete : ∀ a ∈ items, ∃ b ∈ others, same a b = true) : items.length ≤ others.length := by
  induction items generalizing others with
  | nil => exact Nat.zero_le _
  | cons a items ih =>
    obtain ⟨hfirst, hrest⟩ := List.pairwise_cons.mp hdistinct
    obtain ⟨b, hb, hab⟩ := hcomplete a List.mem_cons_self
    obtain ⟨before, after, rfl⟩ := List.append_of_mem hb
    -- No later item is like `b` as well, so `b` can be left out.
    have hremain : ∀ c ∈ items, ∃ d ∈ before ++ after, same c d = true := by
      intro c hc
      obtain ⟨d, hd, hcd⟩ := hcomplete c (List.mem_cons_of_mem _ hc)
      have hne : d ≠ b := by
        rintro rfl
        exact absurd (htrans c d a hcd (hsymm a d hab)) (by simp [hfirst c hc])
      have hmem : d ∈ before ∨ d = b ∨ d ∈ after := by simpa using hd
      exact ⟨d, by simpa [hne] using hmem, hcd⟩
    have hle := ih hrest hremain
    simp only [List.length_append, List.length_cons] at hle ⊢
    omega

theorem Represents.length_eq (hsymm : ∀ a b, same a b = true → same b a = true)
    (htrans : ∀ a b c, same a b = true → same b c = true → same a c = true) {chosen : List α}
    (h : Represents same items kept) (ho : Represents same items chosen) :
    kept.length = chosen.length :=
  Nat.le_antisymm
    (length_le_of_complete hsymm htrans h.distinct fun a ha => ho.complete a (h.subset ha))
    (length_le_of_complete hsymm htrans ho.distinct fun a ha => h.complete a (ho.subset ha))

end DesignMarkup
