/-
Terms that are typed.

Whoever knows a term of a record may type it to find the record.  A term is cut out of a text
before it is put into lower case, and cutting it once more leaves it whole if it is still made
of letters and numbers: then it is the only term of itself, all terms of a text written one
after the other have the same terms again, and searching for a term finds the records that have
it.

The lower case of `İ` is the one that is no letter throughout: it ends in the mark U+0307.  A
term with that mark is cut where the mark stands, so it is none of its own terms, and no search
finds it by what it is.  Everything below is said with that exception, and shown to fail in it.
-/
import MediaLibrary.Proofs.Property.Definition
import MediaLibrary.Proofs.Query.Search
import MediaLibrary.Proofs.Text.Forms

namespace MediaLibrary.Text

/-! ### Runs and their characters -/

section

variable {p : Char → Bool} {run : List Char}

/-- A run is a stretch of the text, and nothing but characters of the class. -/
theorem of_mem_runsOf (cs : List Char) (h : run ∈ runsOf p cs) :
    run ≠ [] ∧ ∀ c ∈ run, c ∈ cs ∧ p c = true := by
  fun_induction runsOf p cs with
  | case1 => simp at h
  | case2 c rest hc ih =>
      rcases List.mem_cons.mp h with rfl | hrest
      · refine ⟨List.cons_ne_nil _ _, fun d hd => ?_⟩
        rcases List.mem_cons.mp hd with rfl | htake
        · exact ⟨by simp, hc⟩
        · have hmem : d ∈ rest := (List.takeWhile_sublist p).subset htake
          exact ⟨by simp [hmem], List.all_eq_true.mp List.all_takeWhile d htake⟩
      · obtain ⟨hne, hchars⟩ := ih hrest
        refine ⟨hne, fun d hd => ?_⟩
        obtain ⟨hdrop, hclass⟩ := hchars d hd
        exact ⟨by simp [(List.dropWhile_sublist p).subset hdrop], hclass⟩
  | case3 c rest hc ih =>
      obtain ⟨hne, hchars⟩ := ih h
      refine ⟨hne, fun d hd => ?_⟩
      obtain ⟨hmem, hclass⟩ := hchars d hd
      exact ⟨by simp [hmem], hclass⟩

/-- Every character of the class is in a run. -/
theorem exists_run {c : Char} (cs : List Char) (hmem : c ∈ cs) (hc : p c = true) :
    ∃ run ∈ runsOf p cs, c ∈ run := by
  fun_induction runsOf p cs with
  | case1 => simp at hmem
  | case2 d rest hd ih =>
      rcases List.mem_cons.mp hmem with rfl | hrest
      · exact ⟨c :: rest.takeWhile p, by simp, by simp⟩
      · rw [← List.takeWhile_append_dropWhile (p := p) (l := rest)] at hrest
        rcases List.mem_append.mp hrest with htake | hdrop
        · exact ⟨d :: rest.takeWhile p, by simp, by simp [htake]⟩
        · obtain ⟨run, hrun, hin⟩ := ih hdrop
          exact ⟨run, by simp [hrun], hin⟩
  | case3 d rest hd ih =>
      rcases List.mem_cons.mp hmem with rfl | hrest
      · exact absurd hc hd
      · exact ih hrest

/-- Characters of the class are one run. -/
theorem runsOf_eq_singleton (hne : run ≠ []) (h : ∀ c ∈ run, p c = true) : runsOf p run = [run] := by
  obtain ⟨c, rest, rfl⟩ := List.exists_cons_of_ne_nil hne
  have htake : rest.takeWhile p = rest :=
    List.takeWhile_eq_self_iff.mpr fun d hd => h d (by simp [hd])
  have hdrop : rest.dropWhile p = [] :=
    List.dropWhile_eq_nil_iff.mpr fun d hd => h d (by simp [hd])
  rw [runsOf, if_pos (h c (by simp)), htake, hdrop, runsOf]

end

/-! ### What a term is made of -/

/-- What is known of the characters of a term. -/
theorem of_mem_terms {t s : String} (h : t ∈ terms s) :
    t ≠ "" ∧ ∀ d ∈ t.toList, IsLower d ∧ (isWordChar d = true ∨ 'İ' ∈ s.toList ∧ d = '\u0307') := by
  obtain ⟨run, hrun, rfl⟩ := mem_terms.mp h
  obtain ⟨hne, hchars⟩ := of_mem_runsOf _ hrun
  refine ⟨fun hempty => ?_, fun d hd => ?_⟩
  · have htoList := congrArg String.toList hempty
    rw [String.toList_ofList] at htoList
    exact lowercaseChars_ne_nil hne htoList
  · rw [String.toList_ofList] at hd
    obtain ⟨c, hc, hform⟩ := exists_of_mem_lowercaseChars hd
    obtain ⟨hmem, hclass⟩ := hchars c hc
    refine ⟨hform.lower, (hform.word hclass).imp_right ?_⟩
    rintro ⟨rfl, hmark⟩
    exact ⟨hmem, hmark⟩

/-- The mark of `İ` is no letter. -/
theorem mark_not_word : isWordChar '\u0307' = false := by decide

theorem IsLower.ne_dotted {c : Char} (h : IsLower c) : c ≠ 'İ' := by
  rintro rfl
  exact absurd h.form (by decide)

/-- **A term has the mark if it comes from an `İ`.** -/
theorem exists_marked_iff {s : String} :
    (∃ t ∈ terms s, '\u0307' ∈ t.toList) ↔ 'İ' ∈ s.toList := by
  constructor
  · rintro ⟨t, ht, hmark⟩
    rcases ((of_mem_terms ht).2 _ hmark).2 with hword | ⟨hdotted, _⟩
    · exact absurd hword (by simp [mark_not_word])
    · exact hdotted
  · intro h
    obtain ⟨run, hrun, hmem⟩ := exists_run s.toList h (p := isWordChar) (by decide)
    refine ⟨_, mem_terms.mpr ⟨run, hrun, rfl⟩, ?_⟩
    rw [String.toList_ofList]
    exact mark_mem_lowercaseChars hmem

/-- The term is made of letters and numbers alone if it does not have the mark. -/
theorem term_isWord_iff {t s : String} (h : t ∈ terms s) :
    (∀ c ∈ t.toList, isWordChar c = true) ↔ '\u0307' ∉ t.toList := by
  constructor
  · intro hword hmark
    exact absurd (hword _ hmark) (by simp [mark_not_word])
  · intro hmark c hc
    refine ((of_mem_terms h).2 c hc).2.resolve_right ?_
    rintro ⟨_, rfl⟩
    exact hmark hc

/-! ### Terms of a term -/

/-- A text of small letters and numbers, and of nothing else. -/
structure IsTerm (t : String) : Prop where
  ne_empty : t ≠ ""
  word : ∀ c ∈ t.toList, isWordChar c = true
  lower : ∀ c ∈ t.toList, IsLower c

theorem isTerm_of_mem_terms {t s : String} (h : t ∈ terms s) (hmark : '\u0307' ∉ t.toList) :
    IsTerm t :=
  ⟨(of_mem_terms h).1, (term_isWord_iff h).mpr hmark, fun c hc => ((of_mem_terms h).2 c hc).1⟩

namespace IsTerm

variable {t : String}

theorem runsOf_eq (h : IsTerm t) : runsOf isWordChar t.toList = [t.toList] :=
  runsOf_eq_singleton (fun hc => h.ne_empty (String.toList_eq_nil_iff.mp hc)) h.word

theorem ofList_lowercaseChars (h : IsTerm t) : String.ofList (lowercaseChars t.toList) = t := by
  rw [lowercaseChars_of_isLower h.lower, String.ofList_toList]

end IsTerm

/-- **Terms that are written one after the other are the terms of what is written.** -/
theorem terms_intercalate {ts : List String} (h : ∀ t ∈ ts, IsTerm t) (hts : ts.Nodup) :
    terms (" ".intercalate ts) = ts := by
  have hruns : runsOf isWordChar (" ".intercalate ts).toList = ts.map String.toList := by
    clear hts
    induction ts with
    | nil => rw [String.intercalate_nil, String.toList_empty, runsOf, List.map_nil]
    | cons t rest ih =>
        have ht := (h t (by simp)).runsOf_eq
        cases rest with
        | nil => rw [String.intercalate_singleton, ht, List.map_singleton]
        | cons next rest =>
            rw [String.intercalate_cons_cons, runsOf_append_blank, ht,
              ih fun u hu => h u (by simp [hu]), List.singleton_append]
            rfl
  have hterms : ts.map (fun t => String.ofList (lowercaseChars t.toList)) = ts := by
    conv_rhs => rw [← List.map_id ts]
    exact List.map_congr_left fun t ht => (h t ht).ofList_lowercaseChars
  rw [terms, hruns, List.map_map]
  exact (congrArg List.eraseDups hterms).trans (eraseDups_of_nodup hts)

theorem IsTerm.terms_eq {t : String} (h : IsTerm t) : terms t = [t] := by
  have halone : terms (" ".intercalate [t]) = [t] :=
    terms_intercalate (List.forall_mem_singleton.mpr h) (by simp)
  rwa [String.intercalate_singleton] at halone

/-- No text without an `İ` has a term with the mark. -/
theorem notMem_terms_of_mark {t s : String} (hs : 'İ' ∉ s.toList) (hmark : '\u0307' ∈ t.toList) :
    t ∉ terms s :=
  fun h => hs (exists_marked_iff.mp ⟨t, h, hmark⟩)

/-- What has been put into lower case has no `İ` any more. -/
theorem dotted_notMem_term {t s : String} (h : t ∈ terms s) : 'İ' ∉ t.toList :=
  fun hc => ((of_mem_terms h).2 _ hc).1.ne_dotted rfl

theorem terms_eq_singleton_iff {t s : String} (h : t ∈ terms s) :
    terms t = [t] ↔ '\u0307' ∉ t.toList := by
  constructor
  · intro hself hmark
    refine notMem_terms_of_mark (dotted_notMem_term h) hmark ?_
    rw [hself]
    exact List.mem_singleton_self t
  · intro hmark
    exact (isTerm_of_mem_terms h hmark).terms_eq

/-- **The terms of a text, written one after the other, have the same terms again** if and only
if no term has the mark. -/
theorem terms_intercalate_terms_iff {s : String} :
    terms (" ".intercalate (terms s)) = terms s ↔ 'İ' ∉ s.toList := by
  constructor
  · intro hagain hdotted
    obtain ⟨t, ht, hmark⟩ := exists_marked_iff.mpr hdotted
    rw [← hagain] at ht
    obtain ⟨part, hpart, ht⟩ := mem_terms_intercalate.mp ht
    exact notMem_terms_of_mark (dotted_notMem_term hpart) hmark ht
  · intro hdotted
    refine terms_intercalate (fun t ht => isTerm_of_mem_terms ht fun hmark => ?_) (nodup_eraseDups _)
    exact hdotted (exists_marked_iff.mp ⟨t, ht, hmark⟩)

end MediaLibrary.Text

namespace MediaLibrary

open Text

/-! ### Searching for a term -/

/-- A search for a term finds the records that have it. -/
theorem Search.finds_term_iff {t : String} (h : terms t = [t]) {r : Record} :
    Search.Finds ⟨t, .and⟩ r ↔ t ∈ r.terms := by
  show r.HasTermsOf t ↔ t ∈ r.terms
  simp [Record.HasTermsOf, h]

/-- A record that has nothing but a title has the terms of the title. -/
theorem Record.mem_terms_title {t title : String} :
    t ∈ ({ title := title } : Record).terms ↔ t ∈ Text.terms title := by
  have hparts : ({ title := title } : Record).searchParts = ["", "", title] := rfl
  have hempty : Text.terms "" = [] := by decide +kernel
  rw [Record.terms, searchText, hparts, mem_terms_intercalate]
  simp [hempty]

/-- A term with the mark is searched for in vain in some record that has it. -/
theorem Search.exists_term_not_found {t s : String} (h : t ∈ terms s)
    (hmark : '\u0307' ∈ t.toList) : ∃ r : Record, t ∈ r.terms ∧ ¬Search.Finds ⟨t, .and⟩ r := by
  -- The stretch that the term was cut out of has no other term.
  obtain ⟨run, hrun, rfl⟩ := mem_terms.mp h
  obtain ⟨hne, hchars⟩ := of_mem_runsOf _ hrun
  have hterms : terms (String.ofList run) = [String.ofList (lowercaseChars run)] := by
    rw [terms, String.toList_ofList, runsOf_eq_singleton hne fun c hc => (hchars c hc).2]
    rfl
  have hrecord : ∀ u, u ∈ ({ title := String.ofList run } : Record).terms ↔
      u = String.ofList (lowercaseChars run) := fun u => by
    rw [Record.mem_terms_title, hterms, List.mem_singleton]
  refine ⟨{ title := String.ofList run }, (hrecord _).mpr rfl, ?_⟩
  rintro ⟨hsome, hall⟩
  obtain ⟨u, hu⟩ := List.exists_mem_of_ne_nil _ hsome
  obtain rfl := (hrecord u).mp (hall u hu)
  exact notMem_terms_of_mark (dotted_notMem_term h) hmark hu

/-- **Terms that stand for themselves.**  The terms of a text are told apart, and none is empty.
A term is made of letters and numbers, is the only term of itself, and is what a search for it
finds, if and only if it does not have the mark U+0307, which it has from an `İ`.  The terms of
a text, written one after the other, have the same terms again if and only if the text is
without `İ`. -/
theorem terms_stand_for_themselves (s : String) :
    (terms s).Nodup ∧
    (∀ t ∈ terms s, t ≠ "" ∧
      ((∀ c ∈ t.toList, isWordChar c = true) ↔ '\u0307' ∉ t.toList) ∧
      (terms t = [t] ↔ '\u0307' ∉ t.toList) ∧
      ((∀ r, Search.Finds ⟨t, .and⟩ r ↔ t ∈ r.terms) ↔ '\u0307' ∉ t.toList)) ∧
    ((∃ t ∈ terms s, '\u0307' ∈ t.toList) ↔ 'İ' ∈ s.toList) ∧
    (terms (" ".intercalate (terms s)) = terms s ↔ 'İ' ∉ s.toList) := by
  refine ⟨nodup_eraseDups _, fun t ht => ?_, exists_marked_iff, terms_intercalate_terms_iff⟩
  refine ⟨(of_mem_terms ht).1, term_isWord_iff ht, terms_eq_singleton_iff ht, ?_, fun hmark r => ?_⟩
  · intro hfinds hmark
    obtain ⟨r, hr, hlost⟩ := Search.exists_term_not_found ht hmark
    exact hlost ((hfinds r).mpr hr)
  · exact Search.finds_term_iff ((terms_eq_singleton_iff ht).mpr hmark)

/-- A word that ends in a capital sigma, and a number. -/
theorem street_stands_for_itself :
    let s := "ΟΔΟΣ №2"
    terms s = ["οδος", "2"] ∧ terms "οδος" = ["οδος"] ∧
      (∀ r, Search.Finds ⟨"οδος", .and⟩ r ↔ "οδος" ∈ r.terms) ∧
      terms (" ".intercalate (terms s)) = terms s := by
  intro s
  have hterms : terms s = ["οδος", "2"] := by decide +kernel
  have hmem : "οδος" ∈ terms s := by simp [hterms]
  obtain ⟨-, hterm, -, hagain⟩ := terms_stand_for_themselves s
  obtain ⟨-, -, hself, hfinds⟩ := hterm _ hmem
  exact ⟨hterms, hself.mpr (by decide), hfinds.mpr (by decide), hagain.mpr (by decide)⟩

/-- The term of a name with `İ` is not made of letters alone, and is cut in two when it is
typed. -/
theorem dotted_capital_is_cut :
    terms "İstanbul" = ["i\u0307stanbul"] ∧
      ¬(∀ c ∈ "i\u0307stanbul".toList, isWordChar c = true) ∧
      terms "i\u0307stanbul" = ["i", "stanbul"] ∧
      terms (" ".intercalate (terms "İstanbul")) ≠ terms "İstanbul" := by
  refine ⟨by decide +kernel, fun hword => ?_, by decide +kernel, by decide +kernel⟩
  exact absurd (hword '\u0307' (by decide +kernel)) (by decide +kernel)

end MediaLibrary
