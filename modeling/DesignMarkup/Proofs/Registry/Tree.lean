import DesignMarkup.Proofs.Registry.Invariant
import DesignMarkup.Registry.Tree

/-!
# Trees of checked styles

The tree of a registry can be written if every part of every style is a text. Styles that were
registered for checked descriptors have no other parts.
-/

namespace DesignMarkup.Registry

variable {registry : Registry} {rules : KeyRules} {styles : List StyleDescriptor}

theorem notTextFrom?_of_texts {parts : List Value} (h : ∀ v ∈ parts, ∃ s, v = .text s)
    (position : Nat) : notTextFrom? position parts = none := by
  induction parts generalizing position with
  | nil => rfl
  | cons v parts ih =>
    obtain ⟨s, rfl⟩ := h v List.mem_cons_self
    exact ih (fun w hw => h w (List.mem_cons_of_mem _ hw)) (position + 1)

theorem exists_text_of_isGiven {text : Option String} (h : (Value.ofText? text).isGiven = true) :
    ∃ s, Value.ofText? text = .text s := by
  cases text with
  | none => cases h
  | some s => exact ⟨s, rfl⟩

theorem notText?_registered (rules : KeyRules) (style : StyleDescriptor)
    (attributes : FontAttributes) (n : Nat) :
    notText? (registered (rules.candidate style) attributes n) = none := by
  refine notTextFrom?_of_texts (fun v hv => ?_) 0
  simp only [RegisteredStyle.parts, List.mem_append, List.mem_map, List.mem_filter,
    List.mem_cons, List.not_mem_nil, or_false] at hv
  rcases hv with ((⟨text, -, rfl⟩ | rfl) | hattributes) | ⟨rfl | rfl, hshown⟩
  · exact ⟨text, rfl⟩
  · exact ⟨_, rfl⟩
  · split at hattributes
    · exact ⟨_, List.mem_singleton.mp hattributes⟩
    · cases hattributes
  · exact exists_text_of_isGiven hshown
  · exact exists_text_of_isGiven hshown

theorem Remembers.tree? (hr : registry.Remembers rules styles) (title : String) :
    registry.tree? (.text title) = .ok (registry.tree title) := by
  have hparts : registry.styles.findSome? notText? = none := by
    refine List.findSome?_eq_none_iff.mpr fun style hs => ?_
    obtain ⟨place, -, hentry⟩ := List.mem_flatMap.mp hs
    rw [hr.entries place] at hentry
    obtain ⟨k, hk⟩ := List.mem_iff_getElem?.mp hentry
    rw [Shelf.getElem?_numbered] at hk
    obtain ⟨descriptor, -, rfl⟩ := Option.map_eq_some_iff.mp hk
    exact notText?_registered rules descriptor _ _
  rw [Registry.tree?, hparts]
  rfl

end DesignMarkup.Registry
