import DesignMarkup.Proofs.Registry.History
import Mathlib.Data.List.Nodup

/-!
# What holds of every registry

In every registry that requests lead to, the counter, the issued keys and the styles of each region
are in step, and no two styles have one key (`run_kept`).
-/

namespace DesignMarkup

open KeyRules (region)

-- ---------------------------------------------------------------------------
-- One region
-- ---------------------------------------------------------------------------

/-- The counter, the issued keys and the styles of a region in step. -/
structure Shelf.Kept (place : Region) (shelf : Shelf) : Prop where
  issued_length : shelf.issued.length = shelf.lastIndex
  styles_length : shelf.styles.length = shelf.lastIndex
  /-- The numbers are the places. -/
  style_at : ∀ k style, shelf.styles[k]? = some style →
    style.index = k + 1 ∧ style.region = place ∧ style.key = styleKey place (k + 1)
  /-- The keys are those of the styles, each under the signature of its style. -/
  issued_eq : shelf.issued = shelf.styles.map fun style => (style.signature, style.key)
  /-- A key is found by the signature of its own style. -/
  found : ∀ style ∈ shelf.styles, shelf.key? style.signature = some style.key
  /-- No other signature finds it. -/
  lookup : ∀ k style, shelf.styles[k]? = some style → ∀ signature,
    shelf.key? signature = some (styleKey place (k + 1)) ↔ style.signature.same signature = true

namespace Shelf

variable {rules : KeyRules} {place : Region} {styles : List StyleDescriptor}

theorem getElem?_numbered (styles : List StyleDescriptor) (k : Nat) :
    (rules.numbered styles)[k]? = (styles[k]?).map fun style =>
      Registry.registered (rules.candidate style) (.ofWeight style.fontWeight) (k + 1) := by
  simp [KeyRules.numbered_eq, List.getElem?_zipIdx, Nat.add_comm 1 k, Function.comp_def]

theorem alike_of_same {a b : StyleDescriptor} {signature : Signature}
    (ha : (rules.signature a).same signature = true)
    (hb : (rules.signature b).same signature = true) : rules.alike a b = true := by
  obtain ⟨family, size, color, align⟩ := signature
  have htext : ∀ {s : String} {v : Value}, Value.same (.text s) v = true → v = .text s := by
    intro s v h
    cases v <;> simp_all [Value.same, Value.number?]
  simp only [Signature.same, KeyRules.signature, Bool.and_eq_true, beq_iff_eq] at ha hb
  obtain ⟨⟨⟨rfl, hsa⟩, hca⟩, haa⟩ := ha
  obtain ⟨⟨⟨hf, hsb⟩, hcb⟩, hab⟩ := hb
  refine KeyRules.alike_iff.mpr
    ⟨hf.symm, Binary64.same_trans hsa (Binary64.same_symm hsb), ?_, ?_⟩
  · have h := (htext hca).symm.trans (htext hcb)
    simpa using h
  · have h := (htext haa).symm.trans (htext hab)
    simpa using h

theorem key?_eq_find? {shelf : Shelf}
    (h : shelf.issued = shelf.styles.map fun style => (style.signature, style.key))
    (signature : Signature) :
    shelf.key? signature =
      (shelf.styles.find? fun style => style.signature.same signature).map (·.key) := by
  simp [key?, h, List.find?_map, Function.comp_def]

theorem numbered_at (hplace : ∀ style ∈ styles, region style = place) {k : Nat}
    {style : RegisteredStyle} (hk : (rules.numbered styles)[k]? = some style) :
    style.index = k + 1 ∧ style.region = place ∧ style.key = styleKey place (k + 1) := by
  rw [getElem?_numbered] at hk
  obtain ⟨origin, ho, rfl⟩ := Option.map_eq_some_iff.mp hk
  have hr := hplace origin (List.mem_of_getElem? ho)
  exact ⟨rfl, hr, by simp [hr]⟩

theorem issued_holding (hplace : ∀ style ∈ styles, region style = place) :
    (holding rules place styles).issued =
      (rules.numbered styles).map fun style => (style.signature, style.key) := by
  simp only [holding, KeyRules.numbered_eq, List.map_map]
  refine List.map_congr_left fun entry he => ?_
  have hr := hplace entry.1 (List.fst_mem_of_mem_zipIdx he)
  simp [hr]

theorem eq_of_same (hdistinct : styles.Pairwise fun a b => rules.alike b a = false)
    {j k : Nat} {a b : RegisteredStyle} (ha : (rules.numbered styles)[j]? = some a)
    (hb : (rules.numbered styles)[k]? = some b) {signature : Signature}
    (hsa : a.signature.same signature = true) (hsb : b.signature.same signature = true) :
    j = k := by
  rw [getElem?_numbered] at ha hb
  obtain ⟨c, hc, rfl⟩ := Option.map_eq_some_iff.mp ha
  obtain ⟨d, hd, rfl⟩ := Option.map_eq_some_iff.mp hb
  rw [Registry.signature_registered] at hsa hsb
  obtain ⟨hj, rfl⟩ := List.getElem?_eq_some_iff.mp hc
  obtain ⟨hk, rfl⟩ := List.getElem?_eq_some_iff.mp hd
  -- At two places the later style would be like the earlier one.
  have hp := List.pairwise_iff_getElem.mp hdistinct
  rcases Nat.lt_trichotomy j k with hlt | rfl | hlt
  · have hn := hp j k hj hk hlt
    rw [alike_of_same hsb hsa] at hn
    cases hn
  · rfl
  · have hn := hp k j hk hj hlt
    rw [alike_of_same hsa hsb] at hn
    cases hn

theorem key?_holding_iff (hplace : ∀ style ∈ styles, region style = place)
    (hdistinct : styles.Pairwise fun a b => rules.alike b a = false)
    {k : Nat} {style : RegisteredStyle} (hk : (rules.numbered styles)[k]? = some style)
    (signature : Signature) :
    (holding rules place styles).key? signature = some (styleKey place (k + 1)) ↔
      style.signature.same signature = true := by
  rw [key?_eq_find? (issued_holding hplace)]
  constructor
  · intro h
    obtain ⟨found, hf, hfk⟩ := Option.map_eq_some_iff.mp h
    obtain ⟨j, hj⟩ := List.mem_iff_getElem?.mp (List.mem_of_find?_eq_some hf)
    have hjk := (styleKey_inj.mp ((numbered_at hplace hj).2.2.symm.trans hfk)).2
    obtain rfl : j = k := by omega
    obtain rfl : found = style := Option.some.inj (hj.symm.trans hk)
    simpa using List.find?_some hf
  · intro h
    cases hf : (holding rules place styles).styles.find? fun style =>
        style.signature.same signature with
    | none => exact absurd h (List.find?_eq_none.mp hf style (List.mem_of_getElem? hk))
    | some found =>
      obtain ⟨j, hj⟩ := List.mem_iff_getElem?.mp (List.mem_of_find?_eq_some hf)
      obtain rfl : j = k := eq_of_same hdistinct hj hk (by simpa using List.find?_some hf) h
      obtain rfl : found = style := Option.some.inj (hj.symm.trans hk)
      simp [(numbered_at hplace hk).2.2]

theorem signature_numbered_self {style : RegisteredStyle} (h : style ∈ rules.numbered styles) :
    style.signature.same style.signature = true := by
  obtain ⟨k, hk⟩ := List.mem_iff_getElem?.mp h
  rw [getElem?_numbered] at hk
  obtain ⟨origin, -, rfl⟩ := Option.map_eq_some_iff.mp hk
  rw [Registry.signature_registered]
  exact rules.alike_refl origin

theorem kept_holding (hplace : ∀ style ∈ styles, region style = place)
    (hdistinct : styles.Pairwise fun a b => rules.alike b a = false) :
    (holding rules place styles).Kept place := by
  refine ⟨by simp [holding], by simp [holding], fun k style hk => numbered_at hplace hk,
    issued_holding hplace, ?_, fun k style hk => key?_holding_iff hplace hdistinct hk⟩
  intro style hm
  obtain ⟨k, hk⟩ := List.mem_iff_getElem?.mp hm
  rw [(numbered_at hplace hk).2.2, key?_holding_iff hplace hdistinct hk]
  exact signature_numbered_self hm

theorem Kept.keys {shelf : Shelf} (h : shelf.Kept place) :
    shelf.styles.map (·.key) = (List.range' 1 shelf.lastIndex).map (styleKey place) := by
  refine List.ext_getElem? fun k => ?_
  by_cases hk : k < shelf.styles.length
  · have hs := (h.style_at k _ (List.getElem?_eq_getElem hk)).2.2
    have hr : k < shelf.lastIndex := h.styles_length ▸ hk
    simp [hk, hs, hr, Nat.add_comm]
  · have hr : ¬k < shelf.lastIndex := h.styles_length ▸ hk
    simp [hk, hr]

end Shelf

-- ---------------------------------------------------------------------------
-- All regions
-- ---------------------------------------------------------------------------

theorem Region.nodup_all : Region.all.Nodup := by
  decide

namespace Registry

variable {rules : KeyRules} {registry : Registry} {styles : List StyleDescriptor}

/-- Every region is kept, and no key is issued twice, in one region or in two. -/
structure Kept (registry : Registry) : Prop where
  shelf : ∀ place, (registry.shelf place).Kept place
  keys_nodup : registry.keys.Nodup

theorem nodup_keys_of_shelves (h : ∀ place, (registry.shelf place).Kept place) :
    registry.keys.Nodup := by
  have hkeys : ∀ place, (registry.entries place).map (·.key) =
      (List.range' 1 (registry.shelf place).lastIndex).map (styleKey place) :=
    fun place => (h place).keys
  -- Within a region the numbers differ, between regions the names do.
  simp only [keys, Registry.styles, List.map_flatMap, hkeys]
  refine List.nodup_flatMap.mpr ⟨fun place _ => ?_, ?_⟩
  · exact List.Nodup.map (fun m n hmn => (styleKey_inj.mp hmn).2) List.nodup_range'
  · refine Region.nodup_all.imp fun {r s} hrs key hr hs => ?_
    obtain ⟨m, -, hm⟩ := List.mem_map.mp hr
    obtain ⟨n, -, hn⟩ := List.mem_map.mp hs
    exact hrs (styleKey_inj.mp (hm.trans hn.symm)).1

theorem Remembers.kept (hr : registry.Remembers rules styles) : registry.Kept := by
  have hshelf : ∀ place, (registry.shelf place).Kept place := by
    intro place
    rw [hr place]
    exact Shelf.kept_holding (fun _ hm => KeyRules.region_of_mem_distinct hm)
      (pairwise_eraseDupsBy _)
  exact ⟨hshelf, nodup_keys_of_shelves hshelf⟩

-- ---------------------------------------------------------------------------
-- One more request
-- ---------------------------------------------------------------------------

/-- What a request for a key does if the style has a key: nothing. -/
def IsHit (registry : Registry) (place : Region) (signature : Signature) (keyed : Keyed) : Prop :=
  (registry.shelf place).key? signature = some keyed.key ∧ keyed.registry = registry

/-- What it does if the style has none: one style and one key more at the end of one region, under
the next number, and no change anywhere else. -/
def IsMiss (registry : Registry) (place : Region) (signature : Signature) (keyed : Keyed) : Prop :=
  (registry.shelf place).key? signature = none ∧
  ∃ new : RegisteredStyle,
    new.key = keyed.key ∧ new.signature = signature ∧ new.region = place ∧
    keyed.registry.shelf place =
      { lastIndex := (registry.shelf place).lastIndex + 1
        issued := (registry.shelf place).issued ++ [(signature, keyed.key)]
        styles := (registry.shelf place).styles ++ [new] } ∧
    ∀ other, other ≠ place → keyed.registry.shelf other = registry.shelf other

theorem keyFor_hit_or_miss (rules : KeyRules) (registry : Registry) (style : StyleDescriptor) :
    registry.IsHit (region style) (rules.signature style) (registry.keyFor rules style) ∨
      registry.IsMiss (region style) (rules.signature style) (registry.keyFor rules style) := by
  cases hk : (registry.shelf (region style)).key? (rules.signature style) with
  | some key =>
    have hkeyed : registry.keyFor rules style = ⟨registry, key, []⟩ := by
      simp [keyFor, enroll, hk]
    rw [hkeyed]
    exact Or.inl ⟨hk, rfl⟩
  | none =>
    have hkeyed : registry.keyFor rules style =
        registry.mint (rules.candidate style) (.ofWeight style.fontWeight) := by
      simp [keyFor, enroll, hk]
    rw [hkeyed]
    refine Or.inr ⟨hk, _, rfl, signature_registered rules style (.ofWeight style.fontWeight) _, rfl,
      shelf_setShelf_self registry _ _, ?_⟩
    intro other hother
    exact shelf_setShelf_of_ne registry _ hother.symm

/-- Every registry that requests lead to is kept, and the next request for a key is a hit or a
miss. -/
theorem run_kept (rules : KeyRules) (requests : List Request) :
    let reached := (empty.run rules requests).2
    reached.Kept ∧
      ∀ style,
        reached.IsHit (region style) (rules.signature style) (reached.keyFor rules style) ∨
          reached.IsMiss (region style) (rules.signature style) (reached.keyFor rules style) :=
  ⟨(remembers_run rules requests).kept, keyFor_hit_or_miss rules _⟩

end Registry

end DesignMarkup
