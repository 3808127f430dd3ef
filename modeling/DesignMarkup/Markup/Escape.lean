/-!
# Attribute values

In an attribute value that stands between double quotes, four characters are written as entities:
the ampersand, the angle brackets and the double quote.
-/

namespace DesignMarkup.Markup

def escapeChar (c : Char) : List Char :=
  if c = '&' then ['&', 'a', 'm', 'p', ';']
  else if c = '<' then ['&', 'l', 't', ';']
  else if c = '>' then ['&', 'g', 't', ';']
  else if c = '"' then ['&', 'q', 'u', 'o', 't', ';']
  else [c]

def escape (text : String) : String :=
  String.ofList (text.toList.flatMap escapeChar)

/-- An escaped text ends no attribute and no tag, and begins none. -/
theorem not_mem_escapeChar {special : Char} (h : special ∈ ['<', '>', '"']) (c : Char) :
    special ∉ escapeChar c := by
  have hentities : special ∉ ['&', 'a', 'm', 'p', ';'] ∧ special ∉ ['&', 'l', 't', ';'] ∧
      special ∉ ['&', 'g', 't', ';'] ∧ special ∉ ['&', 'q', 'u', 'o', 't', ';'] := by
    simp only [List.mem_cons, List.not_mem_nil, or_false] at h
    rcases h with rfl | rfl | rfl <;> decide
  obtain ⟨hamp, hlt, hgt, hquot⟩ := hentities
  unfold escapeChar
  repeat' split
  · exact hamp
  · exact hlt
  · exact hgt
  · exact hquot
  · intro hmem
    obtain rfl := List.mem_singleton.mp hmem
    simp_all

theorem not_mem_escape {special : Char} (h : special ∈ ['<', '>', '"']) (text : String) :
    special ∉ (escape text).toList := by
  simp only [escape, String.toList_ofList, List.mem_flatMap, not_exists, not_and]
  exact fun c _ => not_mem_escapeChar h c

end DesignMarkup.Markup
