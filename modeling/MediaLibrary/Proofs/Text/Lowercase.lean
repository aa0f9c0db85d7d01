/-
Lower case and what it is next to.

Lower case is taken character by character, except that a `Σ` looks for cased letters around
it.  A character that neither has a case nor is passed over stops that search, so the texts
on both sides of it have the lower case that each has by itself.  Blanks are such characters:
the lower case of a text is found in that of a text that quotes it between blanks.
-/
import MediaLibrary.Proofs.Text.Terms

namespace MediaLibrary.Text

/-! ### Characters that keep words apart -/

/-- The character has no case, and cased letters are not sought behind it. -/
structure Breaks (c : Char) : Prop where
  cased : isCased c = false
  ignorable : isCaseIgnorable c = false

/-- The blanks are few, and none of them has a case or is passed over. -/
private theorem blanks_without_case : ∀ range ∈ blankRanges,
    ∀ n ∈ List.range' range.1 (range.2 + 1 - range.1),
      inRanges casedRanges n = false ∧ inRanges caseIgnorableRanges n = false := by
  decide +kernel

theorem breaks_of_isBlank {c : Char} (h : isBlank c = true) : Breaks c := by
  obtain ⟨range, hrange, hfirst, hlast⟩ := exists_of_inRanges blankRanges h
  obtain ⟨hcased, hignorable⟩ :=
    blanks_without_case range hrange c.toNat (List.mem_range'_1.mpr (by omega))
  exact ⟨hcased, hignorable⟩

section

variable {c : Char}

theorem Breaks.ne_sigma (h : Breaks c) : c ≠ 'Σ' := by
  rintro rfl
  exact absurd h.cased (by decide)

/-- No cased letter is sought beyond the character. -/
theorem Breaks.meetsCased_append (h : Breaks c) (near far : List Char) :
    meetsCased (near ++ c :: far) = meetsCased near := by
  induction near with
  | nil =>
      rw [List.nil_append, meetsCased, List.dropWhile_cons_of_neg (by simp [h.ignorable])]
      exact h.cased
  | cons d near ih =>
      cases hd : isCaseIgnorable d with
      | false => simp [meetsCased, hd]
      | true => simpa [meetsCased, hd] using ih

/-- What stands before the character has no part in the lower case of what follows it. -/
private theorem Breaks.lowercaseAfter_before (h : Breaks c) (far : List Char) (cs : List Char) :
    ∀ near, lowercaseAfter (near ++ c :: far) cs = lowercaseAfter near cs := by
  induction cs with
  | nil => intro near; rfl
  | cons d rest ih =>
      intro near
      rw [lowercaseAfter, lowercaseAfter, h.meetsCased_append, ← List.cons_append, ih]

/-- What follows the character has no part in the lower case of what stands before it. -/
private theorem Breaks.lowercaseAfter_append (h : Breaks c) (rest : List Char) (cs : List Char) :
    ∀ before, lowercaseAfter before (cs ++ c :: rest) =
      lowercaseAfter before cs ++ lowercaseAfter (cs.reverse ++ before) (c :: rest) := by
  induction cs with
  | nil => intro before; rfl
  | cons d cs ih =>
      intro before
      rw [List.cons_append, lowercaseAfter, lowercaseAfter, h.meetsCased_append, ih,
        List.append_assoc, List.reverse_cons, List.append_assoc, List.singleton_append]

/-- **Texts on both sides of such a character have the lower case that each has by itself.** -/
theorem Breaks.lowercaseChars_append (h : Breaks c) (cs rest : List Char) :
    lowercaseChars (cs ++ c :: rest) = lowercaseChars cs ++ lowercaseChar c ++ lowercaseChars rest := by
  have hrest : lowercaseAfter (c :: (cs.reverse ++ [])) rest = lowercaseAfter [] rest :=
    h.lowercaseAfter_before _ rest []
  rw [lowercaseChars, h.lowercaseAfter_append, lowercaseAfter, if_neg h.ne_sigma, hrest,
    ← List.append_assoc]
  rfl

end

/-! ### Quoted texts -/

/-- Text on one side of such a character is found in lower case as it is by itself. -/
theorem Breaks.lowercaseChars_isInfix {c : Char} (h : Breaks c) (cs rest : List Char) :
    lowercaseChars cs <:+: lowercaseChars (cs ++ c :: rest) ∧
      lowercaseChars rest <:+: lowercaseChars (cs ++ c :: rest) := by
  rw [h.lowercaseChars_append]
  refine ⟨?_, (List.suffix_append _ _).isInfix⟩
  rw [List.append_assoc]
  exact (List.prefix_append _ _).isInfix

/-- Blanks that follow a text may be left out. -/
theorem lowercaseChars_infix_append {after : List Char} (hafter : ∀ c ∈ after, isBlank c = true)
    (cs : List Char) : lowercaseChars cs <:+: lowercaseChars (cs ++ after) := by
  cases after with
  | nil => simp
  | cons c rest =>
      have hc : Breaks c := breaks_of_isBlank (hafter c (by simp))
      exact (hc.lowercaseChars_isInfix cs rest).1

/-- Blanks in front of a text may be left out. -/
theorem lowercaseChars_infix_dropWhile (cs : List Char) :
    lowercaseChars (cs.dropWhile isBlank) <:+: lowercaseChars cs := by
  induction cs with
  | nil => exact List.infix_rfl
  | cons c rest ih =>
      rw [List.dropWhile_cons]
      split
      · rename_i hc
        exact ih.trans ((breaks_of_isBlank hc).lowercaseChars_isInfix [] rest).2
      · exact List.infix_rfl

/-- **A text without the blanks around it is found in lower case in the text with them.** -/
theorem lowercase_trim_isInfix (s : String) :
    (lowercase (trim s)).toList <:+: (lowercase s).toList := by
  have hback : lowercaseChars (trimChars s.toList) <:+:
      lowercaseChars (s.toList.dropWhile isBlank) := by
    rw [← trimChars_append]
    refine lowercaseChars_infix_append (fun c hc => ?_) _
    exact List.all_eq_true.mp List.all_takeWhile c (List.mem_reverse.mp hc)
  simp only [lowercase, trim, String.toList_ofList]
  exact hback.trans (lowercaseChars_infix_dropWhile s.toList)

/-- **Texts that are joined by blanks are each found in lower case in the joined one.** -/
theorem lowercase_infix_intercalate {part : String} {parts : List String} (h : part ∈ parts) :
    (lowercase part).toList <:+: (lowercase (" ".intercalate parts)).toList := by
  have hblank : Breaks ' ' := breaks_of_isBlank (by decide)
  simp only [lowercase, String.toList_ofList]
  induction parts with
  | nil => simp at h
  | cons first rest ih =>
      cases rest with
      | nil => simp [List.mem_singleton.mp h]
      | cons next rest =>
          have hchars : (" ".intercalate (first :: next :: rest)).toList =
              first.toList ++ ' ' :: (" ".intercalate (next :: rest)).toList := by
            rw [String.intercalate_cons_cons]
            simp
          obtain ⟨hleft, hright⟩ := hblank.lowercaseChars_isInfix first.toList
            (" ".intercalate (next :: rest)).toList
          rw [hchars]
          rcases List.mem_cons.mp h with rfl | hrest
          · exact hleft
          · exact (ih hrest).trans hright

end MediaLibrary.Text
