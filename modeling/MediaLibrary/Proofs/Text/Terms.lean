/-
Terms and the blanks around a text.

Terms are stretches of letters and numbers, and a blank is neither.  Characters that cannot
stand in a term only separate terms, so those that a text begins or ends with may be left out:
a text has the terms that it has without its blank ends.  And texts that are joined by a blank
have the terms that one of them has, in whatever order they are joined.
-/
import Mathlib.Data.List.DropRight
import MediaLibrary.Text.Terms

namespace MediaLibrary.Text

/-! ### Blanks are no word characters -/

theorem exists_of_inRanges {n : Nat} (ranges : List (Nat × Nat)) :
    inRanges ranges n = true → ∃ range ∈ ranges, range.1 ≤ n ∧ n ≤ range.2 := by
  induction ranges with
  | nil => intro h; cases h
  | cons range rest ih =>
      intro h
      unfold inRanges at h
      split at h
      · cases h
      · rename_i hfirst
        split at h
        · rename_i hlast
          exact ⟨range, by simp, Nat.not_lt.mp hfirst, hlast⟩
        · obtain ⟨other, hother, hin⟩ := ih h
          exact ⟨other, by simp [hother], hin⟩

/-- The blanks are few, and none of them is in a range of letters or numbers. -/
private theorem blanks_not_words : ∀ range ∈ blankRanges,
    ∀ n ∈ List.range' range.1 (range.2 + 1 - range.1), inRanges wordRanges n = false := by
  decide +kernel

theorem isWordChar_of_isBlank {c : Char} (h : isBlank c = true) : isWordChar c = false := by
  obtain ⟨range, hrange, hfirst, hlast⟩ := exists_of_inRanges blankRanges h
  exact blanks_not_words range hrange c.toNat (List.mem_range'_1.mpr (by omega))

/-! ### Runs of characters -/

section

variable {p q : Char → Bool}

theorem runsOf_cons_of_not {c : Char} (hc : p c = false) (rest : List Char) :
    runsOf p (c :: rest) = runsOf p rest := by
  rw [runsOf, if_neg (by simp [hc])]

/-- Characters that cannot stand in a run may be dropped in front. -/
theorem runsOf_dropWhile (hq : ∀ c, q c = true → p c = false) (cs : List Char) :
    runsOf p (cs.dropWhile q) = runsOf p cs := by
  induction cs with
  | nil => rfl
  | cons c rest ih =>
      rw [List.dropWhile_cons]
      split
      · rename_i hc
        rw [ih, runsOf_cons_of_not (hq c hc)]
      · rfl

theorem runsOf_eq_nil {cs : List Char} (h : ∀ c ∈ cs, p c = false) : runsOf p cs = [] := by
  induction cs with
  | nil => rw [runsOf]
  | cons c rest ih =>
      rw [runsOf_cons_of_not (h c (by simp)), ih fun d hd => h d (by simp [hd])]

/-- A run does not go on into a character that cannot stand in it. -/
private theorem takeWhile_dropWhile_append {last : List Char}
    (hlast : ∀ c ∈ last.head?, p c = false) (cs : List Char) :
    (cs ++ last).takeWhile p = cs.takeWhile p ∧
      (cs ++ last).dropWhile p = cs.dropWhile p ++ last := by
  induction cs with
  | nil =>
      cases last with
      | nil => exact ⟨rfl, rfl⟩
      | cons c rest => simp [hlast c (by simp)]
  | cons c rest ih =>
      obtain ⟨htake, hdrop⟩ := ih
      cases hc : p c <;> simp [hc, htake, hdrop]

/-- Runs end where a character cannot stand in one. -/
theorem runsOf_append {last : List Char} (hlast : ∀ c ∈ last.head?, p c = false)
    (cs : List Char) : runsOf p (cs ++ last) = runsOf p cs ++ runsOf p last := by
  fun_induction runsOf p cs with
  | case1 => rfl
  | case2 c rest hc ih =>
      obtain ⟨htake, hdrop⟩ := takeWhile_dropWhile_append hlast rest
      rw [List.cons_append, runsOf, if_pos hc, htake, hdrop, ih, List.cons_append]
  | case3 c rest hc ih => rw [List.cons_append, runsOf, if_neg hc, ih]

/-- Characters that cannot stand in a run may be left out at the end. -/
theorem runsOf_append_eq {last : List Char} (hlast : ∀ c ∈ last, p c = false)
    (cs : List Char) : runsOf p (cs ++ last) = runsOf p cs := by
  rw [runsOf_append (fun c hc => hlast c (List.mem_of_head? hc)), runsOf_eq_nil hlast,
    List.append_nil]

end

/-- What is cut off at the end of a text are blanks. -/
theorem trimChars_append (cs : List Char) :
    trimChars cs ++ ((cs.dropWhile isBlank).reverse.takeWhile isBlank).reverse =
      cs.dropWhile isBlank := by
  rw [trimChars, ← List.reverse_append, List.takeWhile_append_dropWhile, List.reverse_reverse]

/-- **Blanks around a text do not change its terms.** -/
theorem terms_trim (s : String) : terms (trim s) = terms s := by
  have hruns : runsOf isWordChar (trimChars s.toList) = runsOf isWordChar s.toList := by
    rw [← runsOf_dropWhile (fun c => isWordChar_of_isBlank) s.toList, ← trimChars_append]
    refine (runsOf_append_eq (fun c hc => isWordChar_of_isBlank ?_) _).symm
    exact List.all_eq_true.mp List.all_takeWhile c (List.mem_reverse.mp hc)
  rw [terms, terms, trim, String.toList_ofList, hruns]

/-! ### Terms of joined texts -/

theorem mem_terms {term s : String} :
    term ∈ terms s ↔
      ∃ run ∈ runsOf isWordChar s.toList, String.ofList (lowercaseChars run) = term := by
  rw [terms, List.mem_eraseDups, List.mem_map]

/-- The runs of texts that are joined by a blank. -/
theorem runsOf_append_blank (s t : String) : runsOf isWordChar (s ++ " " ++ t).toList =
    runsOf isWordChar s.toList ++ runsOf isWordChar t.toList := by
  have hblank : isWordChar ' ' = false := isWordChar_of_isBlank (by decide)
  rw [String.append_assoc, String.toList_append, String.toList_append,
    show " ".toList = [' '] from rfl, List.singleton_append, runsOf_append (by simp [hblank]),
    runsOf_cons_of_not hblank]

theorem mem_terms_append_blank {term s t : String} :
    term ∈ terms (s ++ " " ++ t) ↔ term ∈ terms s ∨ term ∈ terms t := by
  simp only [mem_terms, runsOf_append_blank, List.mem_append, or_and_right, exists_or]

/-- **Texts that are joined by blanks have the terms of each.** -/
theorem mem_terms_intercalate {term : String} {parts : List String} :
    term ∈ terms (" ".intercalate parts) ↔ ∃ part ∈ parts, term ∈ terms part := by
  induction parts with
  | nil => simp [terms, runsOf]
  | cons part rest ih =>
      cases rest with
      | nil => simp
      | cons next rest =>
          rw [String.intercalate_cons_cons, mem_terms_append_blank, ih,
            List.exists_mem_cons_iff _ part]

/-! ### Blanks that are cut off -/

/-- Nothing is cut off twice. -/
theorem trim_trim (s : String) : trim (trim s) = trim s := by
  have hcut : trimChars s.toList <+: s.toList.dropWhile isBlank := List.rdropWhile_prefix _ _
  -- What is left begins where the blanks in front end.
  have hfront : (trimChars s.toList).dropWhile isBlank = trimChars s.toList := by
    refine List.dropWhile_eq_self_iff.mpr fun hpos => ?_
    rw [List.IsPrefix.getElem hcut hpos]
    exact List.dropWhile_get_zero_not _ _ _
  have hchars : trimChars (trimChars s.toList) = trimChars s.toList := by
    rw [trimChars, hfront]
    exact List.rdropWhile_idempotent _ _
  rw [trim, trim, String.toList_ofList, hchars]

end MediaLibrary.Text
