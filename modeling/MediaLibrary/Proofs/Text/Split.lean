/-
Texts cut at a separator.

The pieces of a text between its separators are those that give the text when they are joined
again and that have no separator in them; there is one such list for every text.  So what was
joined of pieces without separators is cut into the same pieces.
-/
import MediaLibrary.Text.Blank

namespace MediaLibrary.Text

/-- The pieces joined by the separator are the text, and the separator is in none of them. -/
structure Splits (separator : Char) (s : String) (parts : List String) : Prop where
  joined : (String.singleton separator).intercalate parts = s
  separated : ∀ part ∈ parts, separator ∉ part.toList
  nonempty : parts ≠ []

theorem splitChars_eq_splitOn (separator : Char) (cs : List Char) :
    splitChars separator cs = cs.splitOn separator := by
  induction cs with
  | nil => rfl
  | cons c rest ih =>
      rw [splitChars, List.splitOn_cons_eq_if_modifyHead, ih]
      simp only [beq_iff_eq]
      split
      · rfl
      · cases hrest : rest.splitOn separator with
        | nil => exact absurd (ih.trans hrest) (splitChars_ne_nil separator rest)
        | cons piece pieces => rfl

theorem notMem_of_mem_splitChars {separator : Char} (cs : List Char) :
    ∀ piece ∈ splitChars separator cs, separator ∉ piece := by
  induction cs with
  | nil => simp [splitChars]
  | cons c rest ih =>
      rw [splitChars]
      split
      · simpa using ih
      · rename_i hc
        split
        · simpa using Ne.symm hc
        · rename_i piece pieces hrest
          rw [hrest] at ih
          simpa [Ne.symm hc] using ih

variable {separator : Char} {s : String} {parts : List String}

/-- A text is what its pieces are joined to. -/
theorem splits_split (separator : Char) (s : String) : Splits separator s (split separator s) := by
  constructor
  case joined =>
    rw [← String.toList_inj, String.toList_intercalate, String.toList_singleton, split,
      List.map_map, splitChars_eq_splitOn]
    have hchars : String.toList ∘ String.ofList = id := funext fun _ => String.toList_ofList
    rw [hchars, List.map_id, List.intercalate_splitOn]
  case separated =>
    intro part hpart
    obtain ⟨piece, hpiece, rfl⟩ := List.mem_map.mp hpart
    rw [String.toList_ofList]
    exact notMem_of_mem_splitChars _ piece hpiece
  case nonempty =>
    simpa [split] using splitChars_ne_nil separator s.toList

/-- Pieces without separators are cut out of what they are joined to. -/
theorem Splits.eq_split (h : Splits separator s parts) : parts = split separator s := by
  have hpieces : splitChars separator s.toList = parts.map String.toList := by
    rw [← h.joined, splitChars_eq_splitOn, String.toList_intercalate, String.toList_singleton]
    refine List.splitOn_intercalate separator ?_ (by simpa using h.nonempty)
    exact List.forall_mem_map.mpr h.separated
  have hchars : String.ofList ∘ String.toList = id := funext fun _ => String.ofList_toList
  rw [split, hpieces, List.map_map, hchars, List.map_id]

/-- **Every text is cut in exactly one way.** -/
theorem splits_iff : Splits separator s parts ↔ parts = split separator s :=
  ⟨Splits.eq_split, fun h => h ▸ splits_split separator s⟩

end MediaLibrary.Text
