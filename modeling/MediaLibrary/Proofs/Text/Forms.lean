/-
The forms that letters have in lower case.

The lower case of a letter is looked up in a table of runs.  What holds of the whole table is
seen by comparing its runs with each other and with the ranges of letters and numbers: no form
that a run yields is moved by another run, so what has been put into lower case stays as it is,
and letters and numbers become letters and numbers.  The one exception is `İ`, which is not in
the table: its lower case ends in the mark U+0307, which is neither.
-/
import MediaLibrary.Proofs.Text.Terms

namespace MediaLibrary.Text

/-! ### Runs of the table -/

namespace CaseRun

variable {run other : CaseRun} {n : Nat}

/-- The code points of a run. -/
def points (run : CaseRun) : List Nat :=
  List.range' run.first ((run.last - run.first) / run.stride + 1) run.stride

/-- The form of the first code point of a run. -/
def low (run : CaseRun) : Nat := (run.first + run.offset).toNat

/-- The form of the last code point of a run. -/
def high (run : CaseRun) : Nat := (run.last + run.offset).toNat

/-- The code point belongs to the run. -/
def Moves (run : CaseRun) (n : Nat) : Prop :=
  run.first ≤ n ∧ n ≤ run.last ∧ (n - run.first) % run.stride = 0

/-- The forms of a run lie outside another one, or between its code points. -/
def misses (run other : CaseRun) : Bool :=
  run.high.blt other.first || other.last.blt run.low ||
    (run.first == run.last || run.stride == 2) && other.stride == 2 &&
      run.low % 2 != other.first % 2

/-- Whether the forms of letters and numbers are letters and numbers: they are all in one range,
or have to be looked at one by one. -/
def keepsWords (run : CaseRun) : Bool :=
  (wordRanges.any fun range => range.1.ble run.low && run.high.ble range.2) ||
    run.points.all fun n => !inRanges wordRanges n || inRanges wordRanges (n + run.offset).toNat

/-- A form lies as far into the forms as its code point does into the run. -/
theorem form_eq (hlow : 0 ≤ run.first + run.offset) (h : run.Moves n) :
    (n + run.offset).toNat = run.low + (n - run.first) ∧ (n + run.offset).toNat ≤ run.high := by
  obtain ⟨hfirst, hlast, _⟩ := h
  unfold low high
  omega

theorem not_moves_of_misses (hlow : 0 ≤ run.first + run.offset) (hmisses : run.misses other = true)
    (h : run.Moves n) : ¬other.Moves (n + run.offset).toNat := by
  obtain ⟨hform, hhigh⟩ := form_eq hlow h
  obtain ⟨hfirst, hlast, hstride⟩ := h
  rintro ⟨hfirst', hlast', hstride'⟩
  simp only [misses, Bool.or_eq_true, Bool.and_eq_true, Nat.blt_eq, beq_iff_eq, bne_iff_ne] at hmisses
  rcases hmisses with (hbelow | habove) | ⟨⟨hsteps, htwo⟩, hparity⟩
  · omega
  · omega
  · rw [htwo] at hstride'
    rcases hsteps with hsingle | hsteps
    · omega
    · rw [hsteps] at hstride
      omega

/-- The code points of a run are those that it moves. -/
theorem Moves.mem_points (h : run.Moves n) : n ∈ run.points := by
  obtain ⟨hfirst, hlast, hsteps⟩ := h
  rw [points, List.mem_range']
  refine ⟨(n - run.first) / run.stride, ?_, ?_⟩
  · exact Nat.lt_succ_of_le (Nat.div_le_div_right (by omega))
  · rw [Nat.mul_div_cancel' (Nat.dvd_of_mod_eq_zero hsteps)]
    omega

end CaseRun

/-- A code point that no run moves stays as it is. -/
theorem lowercasePoint_of_not_moves {n : Nat} (runs : List CaseRun)
    (h : ∀ run ∈ runs, ¬run.Moves n) : lowercasePoint runs n = n := by
  induction runs with
  | nil => rfl
  | cons run rest ih =>
      rw [lowercasePoint]
      split
      · rfl
      · rename_i hfirst
        rw [if_neg fun hmoves => h run (by simp) ⟨Nat.not_lt.mp hfirst, hmoves⟩]
        exact ih fun other hother => h other (by simp [hother])

/-- A code point stays as it is, or a run moves it. -/
theorem lowercasePoint_cases (runs : List CaseRun) (n : Nat) :
    lowercasePoint runs n = n ∨
      ∃ run ∈ runs, run.Moves n ∧ lowercasePoint runs n = (n + run.offset).toNat := by
  induction runs with
  | nil => exact .inl rfl
  | cons run rest ih =>
      rw [lowercasePoint]
      split
      · exact .inl rfl
      · rename_i hfirst
        split
        · rename_i hmoves
          exact .inr ⟨run, by simp, ⟨Nat.not_lt.mp hfirst, hmoves⟩, rfl⟩
        · refine ih.imp_right ?_
          rintro ⟨other, hother, hmoves⟩
          exact ⟨other, by simp [hother], hmoves⟩

/-! ### The table against itself and the letters -/

/-- The forms of a run are not moved again, are not `İ`, and are no surrogates. -/
private theorem forms_are_missed : (lowercaseRuns.all fun run =>
    decide (0 ≤ run.first + run.offset) && lowercaseRuns.all run.misses &&
      run.misses ⟨0x130, 0x130, 1, 0⟩ && run.misses ⟨0xD800, 0xDFFF, 1, 0⟩ &&
      run.high.blt 0x110000) = true := by
  decide +kernel

private theorem forms_keep_words : lowercaseRuns.all (·.keepsWords) = true := by
  decide +kernel

private theorem wordRanges_chain : wordRanges.IsChain fun a b => a.1 ≤ b.1 := by
  decide +kernel

/-- A code point in one of some ranges that ascend is found in them. -/
theorem inRanges_of_mem {range : Nat × Nat} {n : Nat} (ranges : List (Nat × Nat))
    (hranges : ranges.Pairwise fun a b => a.1 ≤ b.1) (hrange : range ∈ ranges)
    (hfirst : range.1 ≤ n) (hlast : n ≤ range.2) : inRanges ranges n = true := by
  induction ranges with
  | nil => simp at hrange
  | cons head rest ih =>
      obtain ⟨hhead, hrest⟩ := List.pairwise_cons.mp hranges
      have hle : head.1 ≤ n := by
        rcases List.mem_cons.mp hrange with rfl | hmem
        · exact hfirst
        · exact Nat.le_trans (hhead range hmem) hfirst
      rw [inRanges, if_neg (Nat.not_lt.mpr hle)]
      split
      · rfl
      · rename_i hbeyond
        rcases List.mem_cons.mp hrange with rfl | hmem
        · exact absurd hlast hbeyond
        · exact ih hrest hmem

theorem inRanges_wordRanges {range : Nat × Nat} {n : Nat} (hrange : range ∈ wordRanges)
    (hfirst : range.1 ≤ n) (hlast : n ≤ range.2) : inRanges wordRanges n = true := by
  have htrans : IsTrans (Nat × Nat) fun a b => a.1 ≤ b.1 := ⟨fun _ _ _ => Nat.le_trans⟩
  exact inRanges_of_mem _ wordRanges_chain.pairwise hrange hfirst hlast

/-- What the lower-case form of a code point is known to be. -/
structure IsForm (n m : Nat) : Prop where
  /-- It is its own form. -/
  kept : lowercasePoint lowercaseRuns m = m
  ne_dotted : m ≠ 0x130
  valid : m.isValidChar
  word : inRanges wordRanges n = true → inRanges wordRanges m = true

theorem isForm_of_moves {run : CaseRun} {n : Nat} (hrun : run ∈ lowercaseRuns) (h : run.Moves n) :
    IsForm n (n + run.offset).toNat := by
  have hmissed := List.all_eq_true.mp forms_are_missed run hrun
  have hkeeps := List.all_eq_true.mp forms_keep_words run hrun
  simp only [Bool.and_eq_true, decide_eq_true_eq, List.all_eq_true, Nat.blt_eq] at hmissed
  obtain ⟨⟨⟨⟨hlow, hruns⟩, hdotted⟩, hsurrogates⟩, hbelow⟩ := hmissed
  obtain ⟨hform, hhigh⟩ := CaseRun.form_eq hlow h
  constructor
  case kept =>
    exact lowercasePoint_of_not_moves _ fun other hother =>
      CaseRun.not_moves_of_misses hlow (hruns other hother) h
  case ne_dotted =>
    intro hc
    exact CaseRun.not_moves_of_misses hlow hdotted h ⟨Nat.le_of_eq hc.symm, Nat.le_of_eq hc, Nat.mod_one _⟩
  case valid =>
    have hsurrogate : ¬(0xD800 ≤ (n + run.offset).toNat ∧ (n + run.offset).toNat ≤ 0xDFFF) := fun hc =>
      CaseRun.not_moves_of_misses hlow hsurrogates h ⟨hc.1, hc.2, Nat.mod_one _⟩
    show _ < 0xD800 ∨ 0xDFFF < _ ∧ _ < 0x110000
    omega
  case word =>
    intro hn
    simp only [CaseRun.keepsWords, Bool.or_eq_true, List.any_eq_true, Bool.and_eq_true, Nat.ble_eq,
      List.all_eq_true, Bool.not_eq_true'] at hkeeps
    rcases hkeeps with ⟨range, hrange, hfirst, hlast⟩ | hpoints
    · exact inRanges_wordRanges hrange (by omega) (by omega)
    · exact (hpoints n h.mem_points).resolve_left (by simp [hn])

/-- **Every code point but that of `İ` has a form of the same class that stays as it is.** -/
theorem isForm_lowercasePoint {n : Nat} (hvalid : n.isValidChar) (hdotted : n ≠ 0x130) :
    IsForm n (lowercasePoint lowercaseRuns n) := by
  rcases lowercasePoint_cases lowercaseRuns n with hkept | ⟨run, hrun, hmoves, hform⟩
  · rw [hkept]
    exact ⟨hkept, hdotted, hvalid, id⟩
  · rw [hform]
    exact isForm_of_moves hrun hmoves

/-! ### Characters in lower case -/

/-- The character is left as it is in lower case, wherever it stands. -/
structure IsLower (c : Char) : Prop where
  ne_sigma : c ≠ 'Σ'
  form : lowercaseChar c = [c]

/-- **A character but `İ` has one form, which is left as it is, and stays a letter or number.** -/
theorem exists_form {c : Char} (hdotted : c ≠ 'İ') :
    ∃ d, lowercaseChar c = [d] ∧ IsLower d ∧ (isWordChar c = true → isWordChar d = true) := by
  have hform : IsForm c.toNat (lowercasePoint lowercaseRuns c.toNat) :=
    isForm_lowercasePoint c.valid fun hc => hdotted (Char.toNat_inj.mp hc)
  have hpoint : (Char.ofNat (lowercasePoint lowercaseRuns c.toNat)).toNat =
      lowercasePoint lowercaseRuns c.toNat := by
    rw [Char.ofNat, dif_pos hform.valid]
    rfl
  generalize hd : Char.ofNat (lowercasePoint lowercaseRuns c.toNat) = d at hpoint
  rw [← hpoint] at hform
  refine ⟨d, ?_, ⟨?_, ?_⟩, hform.word⟩
  · rw [lowercaseChar, if_neg hdotted, hd]
  · rintro rfl
    exact absurd hform.kept (by decide)
  · have hne : d ≠ 'İ' := fun hc => hform.ne_dotted (by rw [hc]; rfl)
    rw [lowercaseChar, if_neg hne, hform.kept, Char.ofNat_toNat]

/-- Small letters are left as they are, whatever stands around them. -/
theorem lowercaseChars_of_isLower {cs : List Char} (h : ∀ c ∈ cs, IsLower c) :
    lowercaseChars cs = cs := by
  have hafter : ∀ before, lowercaseAfter before cs = cs := by
    induction cs with
    | nil => intro before; rfl
    | cons c rest ih =>
        intro before
        have hc := h c (by simp)
        rw [lowercaseAfter, if_neg hc.ne_sigma, hc.form, ih fun d hd => h d (by simp [hd])]
        rfl
  exact hafter []

/-- What is known of a character that another one becomes in lower case. -/
structure IsLowerOf (c d : Char) : Prop where
  lower : IsLower d
  /-- It is a letter or number like the other one, unless it is the mark of `İ`. -/
  word : isWordChar c = true → isWordChar d = true ∨ c = 'İ' ∧ d = '\u0307'

theorem isLowerOf_lowercaseChar {c d : Char} (h : d ∈ lowercaseChar c) : IsLowerOf c d := by
  by_cases hdotted : c = 'İ'
  · subst hdotted
    obtain rfl | rfl : d = 'i' ∨ d = '\u0307' := by simpa [lowercaseChar] using h
    · exact ⟨⟨by decide, by decide⟩, fun _ => .inl (by decide)⟩
    · exact ⟨⟨by decide, by decide⟩, fun _ => .inr ⟨rfl, rfl⟩⟩
  · obtain ⟨d', hd', hlower, hword⟩ := exists_form hdotted
    obtain rfl : d = d' := by simpa [hd'] using h
    exact ⟨hlower, fun hc => .inl (hword hc)⟩

/-- A `Σ` becomes one of two small letters. -/
theorem isLowerOf_sigma (final : Bool) : IsLowerOf 'Σ' (if final then 'ς' else 'σ') := by
  cases final
  · exact ⟨⟨by decide, by decide⟩, fun _ => .inl (by decide)⟩
  · exact ⟨⟨by decide, by decide⟩, fun _ => .inl (by decide)⟩

/-- **The lower case of a text is made of what its characters become.** -/
theorem exists_of_mem_lowercaseChars {d : Char} {cs : List Char} (h : d ∈ lowercaseChars cs) :
    ∃ c ∈ cs, IsLowerOf c d := by
  have hafter : ∀ before, d ∈ lowercaseAfter before cs → ∃ c ∈ cs, IsLowerOf c d := by
    clear h
    induction cs with
    | nil => intro before h; simp [lowercaseAfter] at h
    | cons c rest ih =>
        intro before h
        rw [lowercaseAfter] at h
        rcases List.mem_append.mp h with hc | hrest
        · refine ⟨c, by simp, ?_⟩
          split at hc
          · rename_i hsigma
            rw [hsigma, List.mem_singleton.mp hc]
            exact isLowerOf_sigma _
          · exact isLowerOf_lowercaseChar hc
        · obtain ⟨c', hc', hform⟩ := ih _ hrest
          exact ⟨c', by simp [hc'], hform⟩
  exact hafter [] h

/-- **What has been put into lower case stays as it is.** -/
theorem lowercaseChars_lowercaseChars (cs : List Char) :
    lowercaseChars (lowercaseChars cs) = lowercaseChars cs :=
  lowercaseChars_of_isLower fun _ hd =>
    let ⟨_, _, hform⟩ := exists_of_mem_lowercaseChars hd
    hform.lower

/-- The mark is brought in wherever an `İ` stands. -/
theorem mark_mem_lowercaseChars {cs : List Char} (h : 'İ' ∈ cs) : '\u0307' ∈ lowercaseChars cs := by
  have hafter : ∀ before, '\u0307' ∈ lowercaseAfter before cs := by
    induction cs with
    | nil => simp at h
    | cons c rest ih =>
        intro before
        rw [lowercaseAfter, List.mem_append]
        rcases List.mem_cons.mp h with rfl | hrest
        · rw [if_neg (by decide)]
          exact .inl (by decide)
        · exact .inr (ih hrest _)
  exact hafter []

theorem lowercaseChars_ne_nil {cs : List Char} (h : cs ≠ []) : lowercaseChars cs ≠ [] := by
  obtain ⟨c, rest, rfl⟩ := List.exists_cons_of_ne_nil h
  rw [lowercaseChars, lowercaseAfter, lowercaseChar]
  split
  · exact List.cons_ne_nil _ _
  · split
    · exact List.cons_ne_nil _ _
    · exact List.cons_ne_nil _ _

end MediaLibrary.Text
