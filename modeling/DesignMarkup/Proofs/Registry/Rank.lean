import DesignMarkup.Proofs.Registry.Invariant

/-!
# Keys that stay

The key that a style has among some styles is the one it has among any continuation of them, and
two styles among them share it only if their regions and signatures are the same.
-/

namespace DesignMarkup

open KeyRules (region)

namespace KeyRules

variable {rules : KeyRules} {styles more : List StyleDescriptor} {a b style : StyleDescriptor}

/-- Whether two styles have the same region and the same signature. -/
def sameKey (rules : KeyRules) (a b : StyleDescriptor) : Prop :=
  region a = region b ∧ rules.alike a b = true

theorem sameKey_refl (rules : KeyRules) (a : StyleDescriptor) : rules.sameKey a a :=
  ⟨rfl, rules.alike_refl a⟩

theorem sameKey_symm (h : rules.sameKey a b) : rules.sameKey b a :=
  ⟨h.1.symm, alike_symm h.2⟩

theorem sameKey_trans {c : StyleDescriptor} (hab : rules.sameKey a b) (hbc : rules.sameKey b c) :
    rules.sameKey a c :=
  ⟨hab.1.trans hbc.1, alike_trans hab.2 hbc.2⟩

def keyAmong (rules : KeyRules) (styles : List StyleDescriptor) (style : StyleDescriptor) :
    String :=
  styleKey (region style) (rules.rank styles style)

/-- Whether a style with the same region and signature is among some styles. -/
def occursIn (rules : KeyRules) (styles : List StyleDescriptor) (style : StyleDescriptor) : Prop :=
  ∃ known ∈ styles, rules.sameKey known style

theorem occursIn_of_mem (h : style ∈ styles) : rules.occursIn styles style :=
  ⟨style, h, rules.sameKey_refl style⟩

theorem occursIn_iff : rules.occursIn styles style ↔
    ∃ first ∈ rules.distinct (region style) styles, rules.alike style first = true := by
  constructor
  · rintro ⟨known, hm, hplace, hk⟩
    have hf : known ∈ styles.filter fun other => region other = region style := by
      simp [hm, hplace]
    obtain ⟨first, hfirst, hs⟩ := exists_same_of_mem rules.alike_refl hf
    exact ⟨first, hfirst, alike_trans (alike_symm hk) hs⟩
  · rintro ⟨first, hfirst, hs⟩
    exact ⟨first, mem_of_mem_distinct hfirst, region_of_mem_distinct hfirst, alike_symm hs⟩

theorem distinct_prefix_append (place : Region) (styles more : List StyleDescriptor) :
    rules.distinct place styles <+: rules.distinct place (styles ++ more) := by
  rw [distinct, distinct, List.filter_append]
  exact eraseDupsBy_prefix_append _ _

theorem rank_append (h : rules.occursIn styles style) (more : List StyleDescriptor) :
    rules.rank (styles ++ more) style = rules.rank styles style := by
  have hlt := List.findIdx_lt_length.mpr (occursIn_iff.mp h)
  rw [rank, rank, (distinct_prefix_append _ styles more).findIdx_eq_of_findIdx_lt_length hlt]

theorem keyAmong_append (h : rules.occursIn styles style) (more : List StyleDescriptor) :
    rules.keyAmong (styles ++ more) style = rules.keyAmong styles style := by
  rw [keyAmong, rank_append h, keyAmong]

theorem lt_rank_append (h : ¬rules.occursIn styles style) (more : List StyleDescriptor) :
    (rules.distinct (region style) styles).length < rules.rank (styles ++ more) style := by
  obtain ⟨extra, hextra⟩ := @distinct_prefix_append rules (region style) styles more
  have hn : ¬(rules.distinct (region style) styles).findIdx (rules.alike style) <
      (rules.distinct (region style) styles).length :=
    fun hlt => h (occursIn_iff.mpr (List.findIdx_lt_length.mp hlt))
  rw [rank, ← hextra, List.findIdx_append, if_neg hn]
  omega

theorem keyAmong_congr (h : rules.sameKey a b) :
    rules.keyAmong styles a = rules.keyAmong styles b := by
  have hsame : rules.alike a = rules.alike b := funext fun _ => alike_congr h.2
  rw [keyAmong, keyAmong, rank, rank, h.1, hsame]

theorem exists_getElem?_rank (h : rules.occursIn styles style) :
    ∃ first, (rules.distinct (region style) styles)[rules.rank styles style - 1]? = some first ∧
      first ∈ styles ∧ rules.sameKey first style := by
  have hlt := List.findIdx_lt_length.mpr (occursIn_iff.mp h)
  have hget := List.getElem?_eq_getElem hlt
  have hfirst := List.getElem_mem hlt
  have halike : rules.alike style _ = true := @List.findIdx_getElem _ _ _ hlt
  refine ⟨_, hget, ?_, region_of_mem_distinct hfirst, alike_symm halike⟩
  exact mem_of_mem_distinct hfirst

theorem rank_of_getElem? {place : Region} {k : Nat}
    (h : (rules.distinct place styles)[k]? = some style) : rules.rank styles style = k + 1 := by
  obtain rfl : region style = place := region_of_mem_distinct (List.mem_of_getElem? h)
  obtain ⟨hk, hget⟩ := List.getElem?_eq_some_iff.mp h
  have hdistinct : (rules.distinct (region style) styles).Pairwise
      fun a b => rules.alike b a = false := pairwise_eraseDupsBy _
  have hbefore := List.pairwise_iff_getElem.mp hdistinct
  rw [rank, (List.findIdx_eq hk).mpr]
  refine ⟨?_, fun j hj => ?_⟩
  · rw [hget]
    exact rules.alike_refl style
  · have hne := hbefore j k (by omega) hk hj
    rw [hget] at hne
    exact hne

theorem represents_distinct (rules : KeyRules) (place : Region) (styles : List StyleDescriptor) :
    Represents rules.alike (styles.filter fun style => region style = place)
      (rules.distinct place styles) :=
  represents_eraseDupsBy rules.alike_refl _

theorem length_distinct_of_perm (rules : KeyRules) (place : Region)
    {others : List StyleDescriptor} (h : styles.Perm others) :
    (rules.distinct place styles).length = (rules.distinct place others).length := by
  have hsymm : ∀ a b, rules.alike a b = true → rules.alike b a = true := fun _ _ => alike_symm
  have htrans : ∀ a b c, rules.alike a b = true → rules.alike b c = true →
      rules.alike a c = true := fun _ _ _ => alike_trans
  exact ((rules.represents_distinct place styles).of_perm (h.filter _)).length_eq hsymm htrans
    (rules.represents_distinct place others)

/-- Of the styles that occur only those with the same region and signature share a key. -/
theorem sameKey_of_keyAmong_eq (ha : rules.occursIn styles a) (hb : rules.occursIn styles b)
    (h : rules.keyAmong styles a = rules.keyAmong styles b) : rules.sameKey a b := by
  -- Equal keys name one place among the distinct styles, and what stands there is like both.
  obtain ⟨hplace, hrank⟩ := styleKey_inj.mp h
  obtain ⟨first, hfirst, -, hfa⟩ := exists_getElem?_rank ha
  obtain ⟨second, hsecond, -, hsb⟩ := exists_getElem?_rank hb
  rw [hplace, hrank, hsecond] at hfirst
  obtain rfl := Option.some.inj hfirst
  exact sameKey_trans (sameKey_symm hfa) hsb

end KeyRules

namespace Registry

variable {rules : KeyRules} {registry : Registry} {styles : List StyleDescriptor}
  {style : StyleDescriptor}

theorem Remembers.key_keyFor (hr : registry.Remembers rules styles) (style : StyleDescriptor) :
    (registry.keyFor rules style).key = rules.keyAmong (styles ++ [style]) style :=
  (hr.keyFor style).1

theorem Remembers.keyAll (hr : registry.Remembers rules styles) (more : List StyleDescriptor) :
    (registry.keyAll rules more).1.Remembers rules (styles ++ more) := by
  induction more generalizing registry styles with
  | nil => simpa [Registry.keyAll] using hr
  | cons style more ih =>
    have hrest := ih (hr.keyFor style).2
    rw [List.append_assoc] at hrest
    exact hrest

theorem Remembers.exists_registered (hr : registry.Remembers rules styles)
    (h : rules.occursIn styles style) :
    ∃ first ∈ styles, rules.sameKey first style ∧ ∃ shown ∈ registry.styles,
      shown = registered (rules.candidate first) (.ofWeight first.fontWeight)
        (rules.rank styles style) ∧
      shown.key = rules.keyAmong styles style := by
  obtain ⟨first, hget, hm, hsame⟩ := KeyRules.exists_getElem?_rank h
  have hplace : region first = region style := hsame.1
  refine ⟨first, hm, hsame, _, ?_, rfl, ?_⟩
  · have hshown : (rules.numbered (rules.distinct (region style) styles))[
        rules.rank styles style - 1]? = some (registered (rules.candidate first)
          (.ofWeight first.fontWeight) (rules.rank styles style)) := by
      rw [Shelf.getElem?_numbered, hget]
      rfl
    refine List.mem_flatMap.mpr ⟨region style, Region.mem_all _, ?_⟩
    rw [hr.entries]
    exact List.mem_of_getElem? hshown
  · rw [key_registered, KeyRules.candidate_region, hplace]
    rfl

theorem Remembers.keyAmong_not_mem_keys (hr : registry.Remembers rules styles)
    (h : ¬rules.occursIn styles style) (more : List StyleDescriptor) :
    rules.keyAmong (styles ++ more) style ∉ registry.keys := by
  intro hm
  obtain ⟨shown, hshown, hkey⟩ := List.mem_map.mp hm
  obtain ⟨place, -, hentry⟩ := List.mem_flatMap.mp hshown
  rw [hr.entries] at hentry
  obtain ⟨k, hk⟩ := List.mem_iff_getElem?.mp hentry
  have hat := Shelf.numbered_at (fun _ hd => KeyRules.region_of_mem_distinct hd) hk
  obtain ⟨rfl, hrank⟩ := styleKey_inj.mp (hat.2.2.symm.trans hkey)
  have hlt := (List.getElem?_eq_some_iff.mp hk).1
  rw [KeyRules.length_numbered] at hlt
  have hlast := KeyRules.lt_rank_append h more
  omega

end Registry

end DesignMarkup
