import DesignMarkup.Proofs.Registry.Fields
import DesignMarkup.Proofs.Registry.Rank

/-!
# Which styles share a key

Two checked styles get one key exactly if their regions agree and what their signatures are made of
(`key_eq_iff_fields`). Two equal keys are one entry of one shelf.
-/

namespace DesignMarkup

open KeyRules (region)

-- ---------------------------------------------------------------------------
-- Resolvers
-- ---------------------------------------------------------------------------

namespace KeyRules

variable {resolver : Paint → Option String}

/-- Rules for a resolver that need not give a literal. To give none is to give the empty one. -/
def ofOptional (resolver : Paint → Option String) (ignoreFontFamily : Bool) : KeyRules where
  resolver := fun paint => Text.orEmpty (resolver paint)
  ignoreFontFamily := ignoreFontFamily

theorem orEmpty_ofOptional (paint : Option Paint) (ignoreFontFamily : Bool) :
    Text.orEmpty (paint.map (ofOptional resolver ignoreFontFamily).resolver) =
      Text.orEmpty (paint.bind resolver) := by
  cases paint <;> rfl

theorem resolved_ofOptional {loose : LooseRules}
    (h : ∀ paint, loose.resolve (.paint paint) = .ok (Value.ofText? (resolver paint)))
    (paint : Option Paint) (ignoreFontFamily : Bool) :
    loose.resolved (.ofPaint? paint) =
      .ok (Value.ofText? ((ofOptional resolver ignoreFontFamily).colorText? paint)) := by
  cases paint with
  | none => rfl
  | some p =>
    simp only [LooseColor.ofPaint?, LooseRules.resolved, h, colorText?, ofOptional, Option.map_some,
      Option.bind_some]
    cases hr : resolver p with
    | none => rfl
    | some text =>
      by_cases ht : text = "" <;>
        simp [Value.ofText?, Value.isGiven, Text.orEmpty, Text.nonEmpty?, ht]

end KeyRules

-- ---------------------------------------------------------------------------
-- Numbered keys
-- ---------------------------------------------------------------------------

namespace Shelf

variable {place : Region} {shelf later : Shelf} {signature : Signature} {key : String}

/-- The issued keys carry the numbers from one to the counter, whether their styles were registered
or not. -/
def Counted (place : Region) (shelf : Shelf) : Prop :=
  shelf.issued.map (·.2) = (List.range' 1 shelf.lastIndex).map (styleKey place)

theorem counted_empty (place : Region) : ({} : Shelf).Counted place := rfl

theorem Counted.concat (h : shelf.Counted place) (signature : Signature)
    (styles : List RegisteredStyle) :
    Shelf.Counted place
      { lastIndex := shelf.lastIndex + 1
        issued := shelf.issued ++ [(signature, styleKey place (shelf.lastIndex + 1))]
        styles := styles } := by
  have hkeys : shelf.issued.map (·.2) = (List.range' 1 shelf.lastIndex).map (styleKey place) := h
  simp [Counted, hkeys, List.range'_1_concat, Nat.add_comm 1]

theorem Counted.key_at (h : shelf.Counted place) {k : Nat} {entry : Signature × String}
    (hk : shelf.issued[k]? = some entry) : entry.2 = styleKey place (k + 1) := by
  have hkeys := congrArg (fun keys => keys[k]?) h
  have hlt : k < shelf.lastIndex := by
    have hlen := congrArg List.length h
    simp only [List.length_map, List.length_range'] at hlen
    exact hlen ▸ (List.getElem?_eq_some_iff.mp hk).1
  simpa [hk, hlt, Nat.add_comm 1] using hkeys

theorem exists_of_key?_eq_some (h : shelf.key? signature = some key) :
    ∃ (k : Nat) (known : Signature), shelf.issued[k]? = some (known, key) ∧
      known.same signature = true := by
  obtain ⟨⟨known, _⟩, hfind, rfl⟩ := Option.map_eq_some_iff.mp h
  obtain ⟨k, hk⟩ := List.mem_iff_getElem?.mp (List.mem_of_find?_eq_some hfind)
  exact ⟨k, known, hk, by simpa using List.find?_some hfind⟩

theorem key?_of_prefix (h : shelf.issued <+: later.issued) (hk : shelf.key? signature = some key) :
    later.key? signature = some key := by
  obtain ⟨entry, hfind, rfl⟩ := Option.map_eq_some_iff.mp hk
  exact Option.map_eq_some_iff.mpr ⟨entry, h.find?_eq_some hfind, rfl⟩

end Shelf

namespace Registry

variable {rules : KeyRules} {loose : LooseRules} {registry later : Registry}
  {a b style : StyleDescriptor}

/-- A call that may change a registry. An unchecked style need not get a key. -/
inductive Call
  | keyFor (style : StyleDescriptor)
  | keyForLoose (style : LooseStyle)
  | reset

def after (rules : KeyRules) (loose : LooseRules) (registry : Registry) : Call → Registry
  | .keyFor style => (registry.keyFor rules style).registry
  | .keyForLoose style => (registry.keyForLoose loose style).2
  | .reset => .empty

def afterAll (rules : KeyRules) (loose : LooseRules) (registry : Registry)
    (calls : List Call) : Registry :=
  calls.foldl (after rules loose) registry

def Counted (registry : Registry) : Prop :=
  ∀ place, (registry.shelf place).Counted place

/-- Whatever was issued is still issued, in its place. -/
def Continues (registry later : Registry) : Prop :=
  ∀ place, (registry.shelf place).issued <+: (later.shelf place).issued

theorem continues_refl (registry : Registry) : registry.Continues registry :=
  fun _ => List.prefix_rfl

theorem Continues.trans {last : Registry} (h : registry.Continues later)
    (h' : later.Continues last) : registry.Continues last :=
  fun place => (h place).trans (h' place)

theorem counted_continues_of_concat (h : registry.Counted) {place : Region}
    {signature : Signature} {styles : List RegisteredStyle}
    (hl : later = registry.setShelf place
      { lastIndex := (registry.shelf place).lastIndex + 1
        issued := (registry.shelf place).issued ++
          [(signature, styleKey place ((registry.shelf place).lastIndex + 1))]
        styles := styles }) :
    later.Counted ∧ registry.Continues later := by
  subst hl
  constructor
  · intro other
    by_cases hp : place = other
    · subst hp
      rw [shelf_setShelf_self]
      exact (h place).concat signature styles
    · rw [shelf_setShelf_of_ne registry _ hp]
      exact h other
  · intro other
    by_cases hp : place = other
    · subst hp
      rw [shelf_setShelf_self]
      exact List.prefix_append _ _
    · simp only [shelf_setShelf_of_ne registry _ hp, List.prefix_rfl]

theorem Counted.enroll (h : registry.Counted) (candidate : Candidate)
    (attributes : FontAttributes) :
    (registry.enroll candidate attributes).registry.Counted ∧
      registry.Continues (registry.enroll candidate attributes).registry := by
  unfold Registry.enroll
  split
  · exact ⟨h, continues_refl registry⟩
  · exact counted_continues_of_concat h rfl

/-- The step: no call but a reset takes a key away, and the keys stay numbered. -/
theorem Counted.after (h : registry.Counted) {call : Call} (hc : call ≠ .reset) :
    (registry.after rules loose call).Counted ∧
      registry.Continues (registry.after rules loose call) := by
  cases call with
  | keyFor style => exact h.enroll _ _
  | keyForLoose style =>
    simp only [Registry.after, keyForLoose]
    split
    · exact ⟨h, continues_refl registry⟩
    · split
      · exact ⟨h, continues_refl registry⟩
      · split
        · exact counted_continues_of_concat h rfl
        · exact counted_continues_of_concat h rfl
  | reset => exact absurd rfl hc

theorem Counted.afterAll (h : registry.Counted) {calls : List Call} (hc : .reset ∉ calls) :
    (registry.afterAll rules loose calls).Counted ∧
      registry.Continues (registry.afterAll rules loose calls) := by
  induction calls generalizing registry with
  | nil => exact ⟨h, continues_refl registry⟩
  | cons call calls ih =>
    simp only [List.mem_cons, not_or] at hc
    obtain ⟨hnext, hfirst⟩ := @Counted.after rules loose registry h call (Ne.symm hc.1)
    obtain ⟨hlast, hrest⟩ := ih hnext hc.2
    exact ⟨hlast, hfirst.trans hrest⟩

theorem counted_empty : empty.Counted := by
  intro place
  rw [shelf_empty]
  exact Shelf.counted_empty place

theorem counted_afterAll (rules : KeyRules) (loose : LooseRules) (calls : List Call) :
    (empty.afterAll rules loose calls).Counted := by
  have hrun : ∀ registry : Registry, registry.Counted →
      (registry.afterAll rules loose calls).Counted := by
    induction calls with
    | nil => exact fun _ h => h
    | cons call calls ih =>
      intro registry h
      refine ih _ ?_
      by_cases hc : call = .reset
      · subst hc
        exact counted_empty
      · exact (h.after hc).1
  exact hrun _ counted_empty

-- ---------------------------------------------------------------------------
-- Two requests
-- ---------------------------------------------------------------------------

theorem key?_keyFor (rules : KeyRules) (registry : Registry) (style : StyleDescriptor) :
    ((registry.keyFor rules style).registry.shelf (region style)).key? (rules.signature style) =
      some (registry.keyFor rules style).key := by
  rcases keyFor_hit_or_miss rules registry style with ⟨hk, hsame⟩ | ⟨hk, new, -, -, -, hshelf, -⟩
  · rw [hsame, hk]
  · have hnone : (registry.shelf (region style)).issued.find?
        (fun entry => entry.1.same (rules.signature style)) = none := by
      simpa [Shelf.key?] using hk
    have hself : (rules.signature style).same (rules.signature style) = true :=
      rules.alike_refl style
    simp [hshelf, Shelf.key?, List.find?_append, hnone, hself]

theorem keyFor_of_key? {key : String}
    (h : (registry.shelf (region style)).key? (rules.signature style) = some key) :
    (registry.keyFor rules style).key = key := by
  have hkey := key?_keyFor rules registry style
  rcases keyFor_hit_or_miss rules registry style with ⟨-, hsame⟩ | ⟨hnone, -⟩
  · rw [hsame, h] at hkey
    exact (Option.some.inj hkey).symm
  · rw [hnone] at h
    cases h

theorem Counted.sameKey_of_key? (h : registry.Counted) {key : String}
    (ha : (registry.shelf (region a)).key? (rules.signature a) = some key)
    (hb : (registry.shelf (region b)).key? (rules.signature b) = some key) :
    rules.sameKey a b := by
  obtain ⟨j, known, hj, hsa⟩ := Shelf.exists_of_key?_eq_some ha
  obtain ⟨k, other, hk, hsb⟩ := Shelf.exists_of_key?_eq_some hb
  have hja := (h (region a)).key_at hj
  have hkb := (h (region b)).key_at hk
  obtain ⟨hplace, hnumber⟩ := styleKey_inj.mp (hja.symm.trans hkb)
  obtain rfl : j = k := Nat.succ.inj hnumber
  rw [hplace, hk] at hj
  obtain rfl : other = known := congrArg Prod.fst (Option.some.inj hj)
  exact ⟨hplace, KeyRules.alike_of_known hsa hsb⟩

theorem key?_congr (h : rules.sameKey a b) :
    (registry.shelf (region a)).key? (rules.signature a) =
      (registry.shelf (region b)).key? (rules.signature b) := by
  rw [h.1, Shelf.key?, Shelf.key?]
  simp only [KeyRules.same_congr h.2]

/-- Two requests without a reset in between get one key exactly if their styles have the same region
and the same signature. -/
theorem key_eq_iff_sameKey (rules : KeyRules) (loose : LooseRules) (before between : List Call)
    (a b : StyleDescriptor) (hb : .reset ∉ between) :
    let first := (empty.afterAll rules loose before).keyFor rules a
    let second := (first.registry.afterAll rules loose between).keyFor rules b
    first.key = second.key ↔ rules.sameKey a b := by
  intro first second
  have hfirst : first.registry.Counted := ((counted_afterAll rules loose before).enroll _ _).1
  obtain ⟨hbetween, hgrown⟩ := @Counted.afterAll rules loose _ hfirst between hb
  -- The key of the first request is still found when the second one comes.
  have hkept : ((first.registry.afterAll rules loose between).shelf (region a)).key?
      (rules.signature a) = some first.key :=
    Shelf.key?_of_prefix (hgrown _) (key?_keyFor rules _ a)
  constructor
  · intro hkey
    obtain ⟨hsecond, hcontinues⟩ := hbetween.enroll (rules.candidate b) (.ofWeight b.fontWeight)
    have hfound : (second.registry.shelf (region a)).key? (rules.signature a) = some second.key :=
      hkey ▸ Shelf.key?_of_prefix (hcontinues _) hkept
    exact Counted.sameKey_of_key? hsecond hfound (key?_keyFor rules _ b)
  · intro hsame
    exact (keyFor_of_key? (key?_congr hsame ▸ hkept)).symm

/-- Which styles share a key, by what they are made of. Missing and empty texts count as the same,
and so do missing and empty colour literals and those that a resolver does not give. Nothing else is
asked of the resolver, and nothing of the styles or of the other calls: those before the first
request, which may be resets, and those between the two. Where a weight can be written, the guarded
request is answered alike (`ExportContext.guardedKey_eq_ok`). -/
theorem key_eq_iff_fields (resolver : Paint → Option String) (ignoreFontFamily : Bool)
    (loose : LooseRules) (before between : List Call) (a b : StyleDescriptor)
    (hb : .reset ∉ between) :
    let rules := KeyRules.ofOptional resolver ignoreFontFamily
    let first := (empty.afterAll rules loose before).keyFor rules a
    let second := (first.registry.afterAll rules loose between).keyFor rules b
    first.key = second.key ↔
      region a = region b ∧
        a.fontSize.roundedSize.same b.fontSize.roundedSize = true ∧
        Text.orEmpty (a.paint.bind resolver) = Text.orEmpty (b.paint.bind resolver) ∧
        Text.orEmpty a.textAlign = Text.orEmpty b.textAlign ∧
        rules.sameFamily a b := by
  intro rules first second
  refine (key_eq_iff_sameKey rules loose before between a b hb).trans ?_
  rw [KeyRules.sameKey, KeyRules.alike_iff_fields, KeyRules.orEmpty_ofOptional,
    KeyRules.orEmpty_ofOptional]

theorem key_ne_of_families :
    let resolver : Paint → Option String := fun _ => none
    let rules := KeyRules.ofOptional resolver false
    let loose : LooseRules := ⟨fun _ => .ok .null, false⟩
    let a : StyleDescriptor := ⟨some "Inter#4", 0, Binary64.one, some (.literal "red"), some ""⟩
    let b : StyleDescriptor := ⟨some "Inter", 40, Binary64.one, none, none⟩
    let between : List Call := [.keyForLoose ⟨none, none, none, none, none⟩, .keyFor b]
    let first := (empty.afterAll rules loose [.keyFor b, .reset]).keyFor rules a
    let second := (first.registry.afterAll rules loose between).keyFor rules b
    .reset ∉ between ∧ first.key ≠ second.key := by
  intro resolver rules loose a b between first second
  have hb : .reset ∉ between := by simp [between]
  refine ⟨hb, fun hkey => ?_⟩
  obtain ⟨-, -, -, -, hfamily⟩ :=
    (key_eq_iff_fields resolver false loose [.keyFor b, .reset] between a b hb).mp hkey
  simp [KeyRules.sameFamily, KeyRules.ofOptional, StyleDescriptor.family?, Text.nonEmpty?, a,
    b] at hfamily

end Registry

end DesignMarkup
