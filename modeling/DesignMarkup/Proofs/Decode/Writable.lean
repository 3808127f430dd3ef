import DesignMarkup.Decode.Design
import DesignMarkup.Json.Reader
import DesignMarkup.Proofs.Export.Failures
import DesignMarkup.Proofs.Number.Decimals

/-!
# Integers from files

Integers with too many digits are refused where a file is read, so the weights of the styles that
are decoded from it can be written again.
-/

namespace DesignMarkup

-- ---------------------------------------------------------------------------
-- Numerals
-- ---------------------------------------------------------------------------

namespace Numeral

theorem digit_le_nine {c : Char} (h : isDigit c = true) : c.toNat - '0'.toNat ≤ 9 := by
  have hle : c ≤ '9' := (of_decide_eq_true h).2
  have hnat : c.toNat ≤ '9'.toNat := hle
  have hnine : '9'.toNat = '0'.toNat + 9 := rfl
  omega

theorem value_lt {digits : List Char} (h : AllDigits digits) :
    value digits < 10 ^ digits.length := by
  induction digits using List.reverseRecOn with
  | nil => decide
  | append_singleton digits c ih =>
    have hvalue : value (digits ++ [c]) = 10 * value digits + (c.toNat - '0'.toNat) := by
      simp [value]
    have hlast := digit_le_nine (h c (by simp))
    have hrest := ih fun d hd => h d (List.mem_append_left _ hd)
    rw [hvalue, List.length_append, List.length_singleton, Nat.pow_succ]
    omega

theorem allDigits_span (cs : List Char) : AllDigits (cs.span isDigit).1 := by
  intro c hc
  rw [List.span_eq_takeWhile_dropWhile] at hc
  exact List.mem_takeWhile_imp hc

theorem isWritable_value {digits : List Char} (h : AllDigits digits)
    (hs : isOversized digits = false) (negative : Bool) :
    isWritable (if negative then -(value digits : Int) else value digits) = true := by
  have hlength : digits.length ≤ digitLimit := by simpa [isOversized] using hs
  have hlt : value digits < 10 ^ digitLimit :=
    (value_lt h).trans_le (Nat.pow_le_pow_right (by decide) hlength)
  rw [isWritable_iff]
  cases negative with
  | false => simpa using hlt
  | true => simpa using hlt

end Numeral

-- ---------------------------------------------------------------------------
-- Values
-- ---------------------------------------------------------------------------

/-- Every integer in a value can be written. -/
inductive Value.Writable : Value → Prop
  | null : Writable .null
  | bool (b : Bool) : Writable (.bool b)
  | int {n : Int} (h : isWritable n = true) : Writable (.int n)
  | float (x : Binary64) : Writable (.float x)
  | text (s : String) : Writable (.text s)
  | list {items : List Value} (h : ∀ v ∈ items, Writable v) : Writable (.list items)
  | object {fields : List (String × Value)} (h : ∀ field ∈ fields, Writable field.2) :
    Writable (.object fields)

namespace Json

theorem writable_magnitude? {negative : Bool} {cs : List Char} {v : Value}
    (h : magnitude? negative cs = some v) : v.Writable := by
  have hfloat : ∀ found,
      (Numeral.decimal? negative cs).map (Value.float ·.toBinary64) = some found →
        found.Writable := by
    intro found hfound
    obtain ⟨d, -, rfl⟩ := Option.map_eq_some_iff.mp hfound
    exact .float _
  have hdigits := Numeral.allDigits_span cs
  unfold magnitude? at h
  generalize cs.span Numeral.isDigit = parts at h hdigits
  obtain ⟨whole, rest⟩ := parts
  simp only at h hdigits
  split at h
  · cases h
  · rename_i hplain
    have hsize : Numeral.isOversized whole = false := by
      simp only [Bool.or_eq_true, not_or, Bool.not_eq_true] at hplain
      exact hplain.2
    split at h
    · obtain rfl := Option.some.inj h
      exact .int (Numeral.isWritable_value hdigits hsize negative)
    · cases h
    · split at h
      · exact hfloat v h
      · cases h
    · exact hfloat v h

theorem writable_number? {cs : List Char} {v : Value} (h : number? cs = some v) : v.Writable := by
  unfold number? at h
  split at h
  · exact writable_magnitude? h
  · exact writable_magnitude? h

theorem writable_scalar? {cs rest : List Char} {v : Value} (h : scalar? cs = some (v, rest)) :
    v.Writable := by
  have hword : ∀ {found : Value} {after : List Char}, found.Writable →
      some (found, after) = some (v, rest) → v.Writable := by
    intro found after hfound heq
    obtain ⟨rfl, -⟩ := Prod.mk.inj (Option.some.inj heq)
    exact hfound
  unfold scalar? at h
  split at h
  · exact hword .null h
  split at h
  · exact hword (.bool true) h
  split at h
  · exact hword (.bool false) h
  split at h
  · exact hword (.float .nan) h
  split at h
  · exact hword (.float _) h
  split at h
  · exact hword (.float _) h
  · obtain ⟨number, hnumber, heq⟩ := Option.map_eq_some_iff.mp h
    exact hword (writable_number? hnumber) (congrArg some heq)

variable {item : List Char → Option (Value × List Char)} {fuel : Nat} {cs rest : List Char}

theorem writable_items? (hitem : ∀ cs v rest, item cs = some (v, rest) → v.Writable)
    {done items : List Value} (hdone : ∀ v ∈ done, v.Writable)
    (h : items? item fuel done cs = some (items, rest)) : ∀ v ∈ items, v.Writable := by
  induction fuel generalizing done cs with
  | zero => cases h
  | succ fuel ih =>
    rw [items?] at h
    cases hread : item cs with
    | none => simp [hread] at h
    | some found =>
      obtain ⟨v, after⟩ := found
      have hmore : ∀ w ∈ v :: done, w.Writable :=
        List.forall_mem_cons.mpr ⟨hitem cs v after hread, hdone⟩
      simp only [hread] at h
      split at h
      · exact ih hmore h
      · obtain ⟨rfl, rfl⟩ := Prod.mk.inj (Option.some.inj h)
        intro w hw
        exact hmore w (List.mem_reverse.mp hw)
      · cases h

theorem writable_member? (hitem : ∀ cs v rest, item cs = some (v, rest) → v.Writable)
    {field : String × Value} (h : member? item cs = some (field, rest)) : field.2.Writable := by
  unfold member? at h
  split at h
  · split at h
    · cases h
    · split at h
      · obtain ⟨⟨v, after⟩, hread, heq⟩ := Option.map_eq_some_iff.mp h
        obtain ⟨rfl, -⟩ := Prod.mk.inj heq
        exact hitem _ v after hread
      · cases h
  · cases h

theorem writable_members? (hitem : ∀ cs v rest, item cs = some (v, rest) → v.Writable)
    {done fields : List (String × Value)} (hdone : ∀ field ∈ done, field.2.Writable)
    (h : members? item fuel done cs = some (fields, rest)) :
    ∀ field ∈ fields, field.2.Writable := by
  induction fuel generalizing done cs with
  | zero => cases h
  | succ fuel ih =>
    rw [members?] at h
    cases hread : member? item cs with
    | none => simp [hread] at h
    | some found =>
      obtain ⟨field, after⟩ := found
      have hmore : ∀ other ∈ field :: done, other.2.Writable :=
        List.forall_mem_cons.mpr ⟨writable_member? hitem hread, hdone⟩
      simp only [hread] at h
      split at h
      · exact ih hmore h
      · obtain ⟨rfl, rfl⟩ := Prod.mk.inj (Option.some.inj h)
        intro other ho
        exact hmore other (List.mem_reverse.mp ho)
      · cases h

theorem writable_setField {fields : List (String × Value)} {field : String × Value}
    (hfields : ∀ other ∈ fields, other.2.Writable) (hfield : field.2.Writable) :
    ∀ other ∈ setField fields field, other.2.Writable := by
  intro other ho
  unfold setField at ho
  split at ho
  · obtain ⟨old, hold, rfl⟩ := List.mem_map.mp ho
    split
    · exact hfield
    · exact hfields old hold
  · rcases List.mem_append.mp ho with ho | ho
    · exact hfields other ho
    · rw [List.mem_singleton.mp ho]
      exact hfield

theorem writable_foldl_setField {given fields : List (String × Value)}
    (hfields : ∀ field ∈ fields, field.2.Writable) (hgiven : ∀ field ∈ given, field.2.Writable) :
    ∀ field ∈ given.foldl setField fields, field.2.Writable := by
  induction given generalizing fields with
  | nil => exact hfields
  | cons field given ih =>
    exact ih (writable_setField hfields (hgiven field List.mem_cons_self))
      fun other ho => hgiven other (List.mem_cons_of_mem _ ho)

theorem writable_value? {depth : Nat} {v : Value} (h : value? depth cs = some (v, rest)) :
    v.Writable := by
  -- What lies in a container is read with one container less around it.
  induction depth using Nat.strongRecOn generalizing cs rest v with
  | ind depth ih =>
    revert h
    fun_cases value? depth cs with
    | case1 =>
      intro h
      obtain ⟨⟨s, after⟩, -, heq⟩ := Option.map_eq_some_iff.mp h
      obtain ⟨rfl, -⟩ := Prod.mk.inj heq
      exact .text s
    | case2 =>
      intro h
      obtain ⟨rfl, -⟩ := Prod.mk.inj (Option.some.inj h)
      exact .list fun _ hm => absurd hm List.not_mem_nil
    | case3 => exact nofun
    | case4 _ _ depth =>
      intro h
      obtain ⟨⟨items, after⟩, hitems, heq⟩ := Option.map_eq_some_iff.mp h
      obtain ⟨rfl, -⟩ := Prod.mk.inj heq
      exact .list (writable_items? (fun _ _ _ => ih depth (Nat.lt_succ_self depth))
        (fun _ hm => absurd hm List.not_mem_nil) hitems)
    | case5 =>
      intro h
      obtain ⟨rfl, -⟩ := Prod.mk.inj (Option.some.inj h)
      exact .object fun _ hm => absurd hm List.not_mem_nil
    | case6 => exact nofun
    | case7 _ _ depth =>
      intro h
      obtain ⟨⟨fields, after⟩, hfields, heq⟩ := Option.map_eq_some_iff.mp h
      obtain ⟨rfl, -⟩ := Prod.mk.inj heq
      have hread := writable_members? (fun _ _ _ => ih depth (Nat.lt_succ_self depth))
        (fun _ hm => absurd hm List.not_mem_nil) hfields
      exact .object (writable_foldl_setField (fun _ hm => absurd hm List.not_mem_nil) hread)
    | case8 => exact writable_scalar?

theorem writable_read? {depth : Nat} {text : String} {v : Value} (h : read? depth text = some v) :
    v.Writable := by
  unfold read? at h
  split at h
  · rename_i found rest hvalue
    split at h
    · obtain rfl := Option.some.inj h
      exact writable_value? hvalue
    · cases h
  · cases h

end Json

-- ---------------------------------------------------------------------------
-- Checked results
-- ---------------------------------------------------------------------------

namespace Checked

variable {α β : Type}

theorem map_eq_valid {f : α → β} {x : Checked α} {b : β} :
    f <$> x = .valid b ↔ ∃ a, x = .valid a ∧ f a = b := by
  cases x <;> simp [Functor.map, map]

theorem seq_eq_valid {f : Checked (α → β)} {x : Checked α} {b : β} :
    f <*> x = .valid b ↔ ∃ g, f = .valid g ∧ ∃ a, x = .valid a ∧ g a = b := by
  cases f <;> cases x <;> simp [Seq.seq, apply]

theorem under_eq_valid {name : String} {x : Checked α} {a : α} :
    x.under name = .valid a ↔ x = .valid a := by
  cases x with
  | valid b => exact Iff.rfl
  | invalid issues => exact ⟨nofun, nofun⟩

end Checked

-- ---------------------------------------------------------------------------
-- Decoded integers
-- ---------------------------------------------------------------------------

namespace Decode

namespace IntegerReading

variable {cs : List Char} {n : Int}

theorem isWritable_ofPlain (h : ofPlain cs = .integer n) : isWritable n = true := by
  unfold ofPlain at h
  split at h
  rename_i negative body _
  have hdigits := Numeral.allDigits_span body
  generalize body.span Numeral.isDigit = parts at h hdigits
  obtain ⟨whole, rest⟩ := parts
  simp only at h hdigits
  split at h
  · cases h
  split at h
  · cases h
  · rename_i hsize
    split at h
    · cases h
    · obtain rfl := IntegerReading.integer.inj h
      exact Numeral.isWritable_value hdigits (by simpa using hsize) negative

theorem isWritable_ofSigned {negative : Bool} (h : ofSigned negative cs = .integer n) :
    isWritable n = true := by
  unfold ofSigned at h
  split at h
  · cases h
  · simp only at h
    split at h
    · cases h
    · exact isWritable_ofPlain h

theorem isWritable_ofText {s : String} (h : ofText s = .integer n) : isWritable n = true := by
  unfold ofText at h
  split at h
  · exact isWritable_ofSigned h
  · exact isWritable_ofPlain h

end IntegerReading

variable {α : Type} {fields : Fields} {name : String} {a : α} {decode : Value → Checked α}
  {origin : Origin} {v : Value}

theorem isWritable_integer {n : Int} (hv : v.Writable) (h : integer v = .valid n) :
    isWritable n = true := by
  cases hv with
  | null => cases h
  | bool b =>
    obtain rfl := Checked.valid.inj h
    cases b <;> decide
  | int hn =>
    obtain rfl := Checked.valid.inj h
    exact hn
  | float x =>
    cases x with
    | finite x =>
      simp only [integer, integerOfFinite] at h
      split at h
      · cases h
      split at h
      · obtain rfl := Checked.valid.inj h
        exact x.isWritable_whole
      · cases h
    | infinite negative => cases h
    | nan => cases h
  | text s =>
    simp only [integer] at h
    split at h
    · rename_i found hread
      obtain rfl := Checked.valid.inj h
      exact IntegerReading.isWritable_ofText hread
    · cases h
    · cases h
  | list _ => cases h
  | object _ => cases h

-- ---------------------------------------------------------------------------
-- Decoded models
-- ---------------------------------------------------------------------------

theorem mem_of_field? (h : Value.field? fields name = some v) : (name, v) ∈ fields := by
  induction fields with
  | nil => cases h
  | cons field fields ih =>
    rw [Value.field?, List.lookup_cons] at h
    split at h
    · rename_i heq
      obtain rfl := Option.some.inj h
      rw [eq_of_beq heq]
      exact List.mem_cons_self
    · exact List.mem_cons_of_mem _ (ih h)

theorem exists_of_optional {default : α} (h : optional fields name default decode = .valid a) :
    a = default ∨ ∃ v, (name, v) ∈ fields ∧ decode v = .valid a := by
  unfold optional at h
  split at h
  · rename_i v hfield
    exact .inr ⟨v, mem_of_field? hfield, Checked.under_eq_valid.mp h⟩
  · exact .inl (Checked.valid.inj h).symm

theorem exists_of_required (h : required fields name decode = .valid a) :
    ∃ v, (name, v) ∈ fields ∧ decode v = .valid a := by
  unfold required at h
  split at h
  · rename_i v hfield
    exact ⟨v, mem_of_field? hfield, Checked.under_eq_valid.mp h⟩
  · cases h

theorem exists_of_mem_itemsFrom {start : Nat} {values : List Value} {items : List α}
    (h : itemsFrom decode start values = .valid items) :
    ∀ item ∈ items, ∃ v ∈ values, decode v = .valid item := by
  induction values generalizing start items with
  | nil =>
    obtain rfl := Checked.valid.inj h
    intro item hi
    cases hi
  | cons v values ih =>
    simp only [itemsFrom, Checked.seq_eq_valid, Checked.map_eq_valid, Checked.under_eq_valid] at h
    obtain ⟨_, ⟨first, hfirst, rfl⟩, rest, hrest, rfl⟩ := h
    intro item hi
    rcases List.mem_cons.mp hi with rfl | hi
    · exact ⟨v, List.mem_cons_self, hfirst⟩
    · obtain ⟨w, hw, hitem⟩ := ih hrest item hi
      exact ⟨w, List.mem_cons_of_mem _ hw, hitem⟩

theorem isWritable_textStyle {style : TextStyle} (hv : v.Writable)
    (h : textStyle origin v = .valid style) : isWritable style.fontWeight = true := by
  cases hv with
  | object hfields =>
    simp only [textStyle, object, Checked.seq_eq_valid, Checked.map_eq_valid] at h
    obtain ⟨_, ⟨_, ⟨_, ⟨_, ⟨_, ⟨_, ⟨_, -, rfl⟩, _, -, rfl⟩, weight, hweight, rfl⟩, _, -, rfl⟩, _, -,
      rfl⟩, _, -, rfl⟩, _, -, rfl⟩ := h
    rcases exists_of_optional hweight with rfl | ⟨w, hmem, hint⟩
    · exact (by decide : isWritable 400 = true)
    · exact isWritable_integer (hfields _ hmem) hint
  | _ => cases h

theorem exists_of_mem_list {items : List α} (hv : v.Writable) (h : list decode v = .valid items) :
    ∀ item ∈ items, ∃ w : Value, w.Writable ∧ decode w = .valid item := by
  cases hv with
  | list hvalues =>
    intro item hi
    obtain ⟨w, hw, hitem⟩ := exists_of_mem_itemsFrom h item hi
    exact ⟨w, hvalues w hw, hitem⟩
  | _ => cases h

theorem isWritable_project {project : Project} (hv : v.Writable)
    (h : Decode.project origin v = .valid project) :
    ∀ style ∈ project.textStyles, isWritable style.fontWeight = true := by
  cases hv with
  | object hfields =>
    simp only [Decode.project, object, Checked.seq_eq_valid, Checked.map_eq_valid] at h
    obtain ⟨_, ⟨_, ⟨_, -, rfl⟩, _, -, rfl⟩, styles, hstyles, rfl⟩ := h
    intro style hs
    rcases exists_of_optional hstyles with rfl | ⟨w, hmem, hlist⟩
    · cases hs
    · obtain ⟨u, hu, hstyle⟩ := exists_of_mem_list (hfields _ hmem) hlist style hs
      exact isWritable_textStyle hu hstyle
  | _ => cases h

theorem isWritable_textRun {run : TextRun} (hv : v.Writable)
    (h : textRun origin v = .valid run) : isWritable run.textStyle.fontWeight = true := by
  cases hv with
  | object hfields =>
    simp only [textRun, object, Checked.map_eq_valid] at h
    obtain ⟨style, hstyle, rfl⟩ := h
    obtain ⟨w, hmem, hread⟩ := exists_of_required hstyle
    exact isWritable_textStyle (hfields _ hmem) hread
  | _ => cases h

theorem isWritable_layer {layer : Layer} (hv : v.Writable)
    (h : Decode.layer origin v = .valid layer) : layer.IsWritable := by
  cases hv with
  | object hfields =>
    simp only [Decode.layer, object, Checked.seq_eq_valid, Checked.map_eq_valid] at h
    obtain ⟨_, ⟨_, ⟨_, ⟨_, ⟨_, ⟨_, ⟨_, ⟨_, ⟨_, ⟨_, -, rfl⟩, _, -, rfl⟩, _, -, rfl⟩, _, -, rfl⟩, _, -,
      rfl⟩, _, -, rfl⟩, _, -, rfl⟩, _, -, rfl⟩, _, -, rfl⟩, runs, hruns, rfl⟩ := h
    intro run hr
    rcases exists_of_optional hruns with rfl | ⟨w, hmem, hlist⟩
    · cases hr
    · obtain ⟨u, hu, hrun⟩ := exists_of_mem_list (hfields _ hmem) hlist run hr
      exact isWritable_textRun hu hrun
  | _ => cases h

end Decode

end DesignMarkup
