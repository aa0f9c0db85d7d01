/-
Computations that may be refused.

A computation that is not refused went through all of its steps, and going through a list
went through all of its items.  A program that changes a state comes to a result, which is
either an answer or a refusal, each with the state that is left.
-/

namespace MediaLibrary.Checked

variable {α β ε : Type} {f : α → Except ε β}

/-- What is not refused went through both steps. -/
theorem exists_of_bind_ok {x : Except ε α} {next : α → Except ε β} {b : β}
    (h : x >>= next = .ok b) : ∃ a, x = .ok a ∧ next a = .ok b := by
  cases x with
  | error e => cases h
  | ok a => exact ⟨a, rfl, h⟩

/-- What is told in other words was told. -/
theorem exists_of_map_ok {x : Except ε α} {tell : α → β} {b : β} (h : x.map tell = .ok b) :
    ∃ a, x = .ok a ∧ tell a = b := by
  cases x with
  | error e => cases h
  | ok a => exact ⟨a, rfl, Except.ok.inj h⟩

/-- What is not refused is not refused with another error either. -/
theorem ok_of_mapError_ok {ε' : Type} {x : Except ε α} {tell : ε → ε'} {a : α}
    (h : x.mapError tell = .ok a) : x = .ok a := by
  cases x with
  | error e => cases h
  | ok b =>
      cases h
      rfl

/-- What comes to the same in both cases is refused in both for the same reason. -/
theorem eq_error_iff_of_map_eq {γ : Type} {x : Except ε α} {y : Except ε β} {tell : α → γ}
    {tell' : β → γ} (h : x.map tell = y.map tell') {e : ε} : x = .error e ↔ y = .error e := by
  cases x with
  | error e' =>
      cases y with
      | error e'' =>
          cases h
          rw [Except.error.injEq, Except.error.injEq]
      | ok b => cases h
  | ok a =>
      cases y with
      | error e' => cases h
      | ok b => exact iff_of_false (fun h => by cases h) (fun h => by cases h)

/-- Going through a list and refusing nothing: the first item, then the others. -/
theorem mapM_cons_ok {a : α} {rest : List α} {results : List β}
    (h : (a :: rest).mapM f = .ok results) :
    ∃ b others, f a = .ok b ∧ rest.mapM f = .ok others ∧ results = b :: others := by
  rw [List.mapM_cons] at h
  obtain ⟨b, hb, h⟩ := exists_of_bind_ok h
  obtain ⟨others, hothers, h⟩ := exists_of_bind_ok h
  cases h
  exact ⟨b, others, hb, hothers, rfl⟩

/-- Every result is that of an item. -/
theorem exists_of_mem_mapM {b : β} (items : List α) :
    ∀ {results : List β}, items.mapM f = .ok results → b ∈ results → ∃ a ∈ items, f a = .ok b := by
  induction items with
  | nil =>
      intro results h hb
      cases h
      simp at hb
  | cons a rest ih =>
      intro results h hb
      obtain ⟨c, others, hc, hothers, rfl⟩ := mapM_cons_ok h
      rcases List.mem_cons.mp hb with rfl | hb
      · exact ⟨a, by simp, hc⟩
      · obtain ⟨a', ha', hb⟩ := ih hothers hb
        exact ⟨a', by simp [ha'], hb⟩

/-- Items that are their own results are left as they are. -/
theorem mapM_self {f : α → Except ε α} (items : List α) (h : ∀ a ∈ items, f a = .ok a) :
    items.mapM f = .ok items := by
  induction items with
  | nil => rfl
  | cons a rest ih =>
      rw [List.mapM_cons, h a (by simp), ih fun b hb => h b (by simp [hb])]
      rfl

/-- Going through a list refuses nothing if and only if no item is refused, where it is known of
each item whether it is and what comes of it. -/
theorem mapM_eq_ok_iff {accepts : α → Prop} {result : α → β}
    (hf : ∀ a b, f a = .ok b ↔ accepts a ∧ b = result a) (items : List α) :
    ∀ {results : List β}, items.mapM f = .ok results ↔
      (∀ a ∈ items, accepts a) ∧ results = items.map result := by
  induction items with
  | nil =>
      intro results
      rw [List.mapM_nil, List.map_nil]
      refine ⟨fun h => ⟨fun a ha => absurd ha List.not_mem_nil, (Except.ok.inj h).symm⟩, ?_⟩
      rintro ⟨_, rfl⟩
      rfl
  | cons a rest ih =>
      intro results
      rw [List.forall_mem_cons, List.map_cons]
      constructor
      · intro h
        obtain ⟨b, others, hb, hothers, rfl⟩ := mapM_cons_ok h
        obtain ⟨ha, rfl⟩ := (hf a b).mp hb
        obtain ⟨hrest, rfl⟩ := ih.mp hothers
        exact ⟨⟨ha, hrest⟩, rfl⟩
      · rintro ⟨⟨ha, hrest⟩, rfl⟩
        rw [List.mapM_cons, (hf a _).mpr ⟨ha, rfl⟩, ih.mpr ⟨hrest, rfl⟩]
        rfl

/-- Where the results are what the items were made of, going through a list gives them back. -/
theorem mapM_eq_ok_iff_map {make : β → α} (hf : ∀ a b, f a = .ok b ↔ a = make b) (items : List α) :
    ∀ {results : List β}, items.mapM f = .ok results ↔ items = results.map make := by
  induction items with
  | nil =>
      intro results
      rw [List.mapM_nil]
      constructor
      · intro h
        cases h
        rfl
      · intro h
        rw [List.map_eq_nil_iff.mp h.symm]
        rfl
  | cons a rest ih =>
      intro results
      constructor
      · intro h
        obtain ⟨b, others, hb, hothers, rfl⟩ := mapM_cons_ok h
        rw [List.map_cons, ← (hf a b).mp hb, ← ih.mp hothers]
      · intro h
        cases results with
        | nil => simp at h
        | cons b others =>
            obtain ⟨hb, hothers⟩ := List.cons.inj h
            rw [List.mapM_cons, (hf a b).mpr hb, ih.mpr hothers]
            rfl

/-- Going through a list is refused at the first item that is, and for its reason. -/
theorem mapM_eq_error_iff {e : ε} (items : List α) :
    items.mapM f = .error e ↔ ∃ earlier item later, items = earlier ++ item :: later ∧
      (∀ a ∈ earlier, ∃ b, f a = .ok b) ∧ f item = .error e := by
  induction items with
  | nil =>
      refine iff_of_false (fun h => by cases h) ?_
      rintro ⟨earlier, item, later, hitems, _⟩
      simp at hitems
  | cons a rest ih =>
      rw [List.mapM_cons]
      constructor
      · intro h
        cases hfirst : f a with
        | error e' =>
            rw [hfirst] at h
            cases h
            exact ⟨[], a, rest, rfl, by simp, hfirst⟩
        | ok b =>
            rw [hfirst] at h
            cases hrest : rest.mapM f with
            | ok others =>
                rw [hrest] at h
                cases h
            | error e' =>
                rw [hrest] at h
                cases h
                obtain ⟨earlier, item, later, rfl, hearlier, hitem⟩ := ih.mp hrest
                exact ⟨a :: earlier, item, later, rfl,
                  List.forall_mem_cons.mpr ⟨⟨b, hfirst⟩, hearlier⟩, hitem⟩
      · rintro ⟨earlier, item, later, hitems, hearlier, hitem⟩
        cases earlier with
        | nil =>
            cases hitems
            rw [hitem]
            rfl
        | cons first earlier =>
            cases hitems
            obtain ⟨⟨b, hb⟩, hearlier⟩ := List.forall_mem_cons.mp hearlier
            rw [hb, ih.mpr ⟨earlier, item, later, rfl, hearlier, hitem⟩]
            rfl

/-- Going through a list step by step is refused as soon as one step is, and for its reason. -/
theorem foldlM_eq_error_iff {step : β → α → Except ε β} {e : ε} (items : List α) :
    ∀ {b : β}, items.foldlM step b = .error e ↔
      ∃ earlier item later b', items = earlier ++ item :: later ∧
        earlier.foldlM step b = .ok b' ∧ step b' item = .error e := by
  induction items with
  | nil =>
      intro b
      refine iff_of_false (fun h => by cases h) ?_
      rintro ⟨earlier, item, later, _, hitems, _⟩
      simp at hitems
  | cons a rest ih =>
      intro b
      rw [List.foldlM_cons]
      constructor
      · intro h
        cases hstep : step b a with
        | error e' =>
            rw [hstep] at h
            cases h
            exact ⟨[], a, rest, b, rfl, rfl, hstep⟩
        | ok next =>
            rw [hstep] at h
            obtain ⟨earlier, item, later, b', rfl, hearlier, hitem⟩ := ih.mp h
            refine ⟨a :: earlier, item, later, b', rfl, ?_, hitem⟩
            rw [List.foldlM_cons, hstep]
            exact hearlier
      · rintro ⟨earlier, item, later, b', hitems, hearlier, hitem⟩
        cases earlier with
        | nil =>
            cases hitems
            cases hearlier
            rw [hitem]
            rfl
        | cons first earlier =>
            cases hitems
            rw [List.foldlM_cons] at hearlier
            obtain ⟨next, hstep, hearlier⟩ := exists_of_bind_ok hearlier
            rw [hstep]
            exact ih.mpr ⟨earlier, item, later, b', rfl, hearlier, hitem⟩

/-! ### Results of programs -/

section

variable {σ : Type} {result : EStateM.Result ε σ α} {a : α} {e : ε} {s : σ}

/-- The answer, with the state that is left. -/
def answer? : EStateM.Result ε σ α → Option (α × σ)
  | .ok a s => some (a, s)
  | .error _ _ => none

/-- The error of a refusal, with the state that is left. -/
def refusal? : EStateM.Result ε σ α → Option (ε × σ)
  | .ok _ _ => none
  | .error e s => some (e, s)

theorem eq_ok_of_answer? (h : answer? result = some (a, s)) : result = .ok a s := by
  cases result with
  | ok a' s' =>
      cases h
      rfl
  | error e' s' => cases h

theorem eq_error_of_refusal? (h : refusal? result = some (e, s)) : result = .error e s := by
  cases result with
  | ok a' s' => cases h
  | error e' s' =>
      cases h
      rfl

end

end MediaLibrary.Checked
