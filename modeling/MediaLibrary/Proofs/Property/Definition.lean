/-
What a definition admits.

Checking values coerces each of them, tries it on the enumeration, and drops those that
were there before.  Values that have been checked pass the check unchanged: they have the
right kind, are members, are told apart, and are as many as there may be.  `Admits` says
just that, and is the same as being left alone by `validate`.

A definition is made under a name without blanks around it, and a name that is taken so once
may be taken as it stands.
-/
import MediaLibrary.Proofs.Checked
import MediaLibrary.Proofs.Text.Terms
import MediaLibrary.Property.Catalog

namespace MediaLibrary

/-! ### Repeated values -/

private theorem eraseDups_length_induction {α : Type} [BEq α] [LawfulBEq α] :
    ∀ (n : Nat) (items : List α), items.length ≤ n → items.eraseDups.Nodup := by
  intro n
  induction n with
  | zero =>
      intro items h
      rw [List.length_eq_zero_iff.mp (Nat.le_zero.mp h)]
      exact List.nodup_nil
  | succ n ih =>
      intro items h
      cases items with
      | nil => exact List.nodup_nil
      | cons a rest =>
          rw [List.eraseDups_cons]
          refine List.nodup_cons.mpr ⟨?_, ih _ ?_⟩
          · simp [List.mem_eraseDups]
          · have hle := List.length_filter_le (fun b => !b == a) rest
            simp only [List.length_cons] at h
            omega

/-- What is left when repeated items are dropped is told apart. -/
theorem nodup_eraseDups {α : Type} [BEq α] [LawfulBEq α] (items : List α) :
    items.eraseDups.Nodup :=
  eraseDups_length_induction items.length items (Nat.le_refl _)

/-- Where no item is repeated none is dropped. -/
theorem eraseDups_of_nodup {α : Type} [BEq α] [LawfulBEq α] {items : List α}
    (h : items.Nodup) : items.eraseDups = items := by
  induction items with
  | nil => rfl
  | cons a rest ih =>
      obtain ⟨ha, hrest⟩ := List.nodup_cons.mp h
      have hfilter : rest.filter (fun b => !b == a) = rest := by
        refine List.filter_eq_self.mpr fun b hb => ?_
        have hne : b ≠ a := fun hc => ha (hc ▸ hb)
        simpa using hne
      rw [List.eraseDups_cons, hfilter, ih hrest]

/-! ### One value -/

namespace Value

theorem kind_of_coerce {kind : Kind} {raw value : Value} (h : raw.coerce kind = .ok value) :
    value.kind = kind := by
  unfold coerce at h
  split at h
  · cases h
    rfl
  · split at h
    · rename_i hkind
      cases h
      exact hkind
    · cases h

theorem coerce_kind (value : Value) : value.coerce value.kind = .ok value := by
  unfold coerce
  split
  · rename_i hkind
    cases hkind
  · exact if_pos rfl

end Value

/-! ### Names -/

/-- The name is not blank, and there are no blanks around it. -/
structure ProperName (name : String) : Prop where
  trimmed : Text.trim name = name
  nonempty : name.isEmpty = false

theorem ProperName.of_trim {name : String} (h : (Text.trim name).isEmpty = false) :
    ProperName (Text.trim name) :=
  ⟨Text.trim_trim name, h⟩

namespace Definition

variable {d : Definition}

/-- The property may hold the value as it stands. -/
structure Allows (d : Definition) (value : Value) : Prop where
  kind : value.kind = d.kind
  member : ∀ members, d.enumeration = some members → value ∈ members

theorem allows_of_conform {raw value : Value} (h : d.conform raw = .ok value) :
    d.Allows value := by
  unfold conform at h
  obtain ⟨coerced, hcoerced, h⟩ := Checked.exists_of_bind_ok h
  split at h
  · rename_i hmember
    cases h
    have hkind := Value.kind_of_coerce (Checked.ok_of_mapError_ok hcoerced)
    refine ⟨hkind, fun members hmembers => ?_⟩
    simpa [hmembers] using hmember
  · cases h

theorem conform_of_allows {value : Value} (h : d.Allows value) : d.conform value = .ok value := by
  have hmember : d.enumeration.all (value ∈ ·) = true := by
    cases hmembers : d.enumeration with
    | none => rfl
    | some members => simpa using h.member members hmembers
  unfold conform
  rw [← h.kind, Value.coerce_kind]
  show (if d.enumeration.all (value ∈ ·) then pure value else throw _) = _
  rw [if_pos hmember]
  rfl

/-! ### All values -/

/-- The property may hold the values as they stand. -/
structure Admits (d : Definition) (values : List Value) : Prop where
  allowed : ∀ value ∈ values, d.Allows value
  nodup : values.Nodup
  single : d.multiple = false → values.length ≤ 1

/-- **Checked values are admitted.** -/
theorem admits_of_validate {raw values : List Value} (h : d.validate raw = .ok values) :
    d.Admits values := by
  unfold validate at h
  obtain ⟨conformed, hconformed, h⟩ := Checked.exists_of_bind_ok h
  dsimp only at h
  split at h
  · cases h
  · rename_i hfew
    cases h
    refine ⟨?_, nodup_eraseDups conformed, ?_⟩
    · intro value hvalue
      obtain ⟨raw, _, hraw⟩ :=
        Checked.exists_of_mem_mapM _ hconformed (List.mem_eraseDups.mp hvalue)
      exact allows_of_conform hraw
    · intro hsingle
      simpa [hsingle] using hfew

/-- **Admitted values pass the check unchanged.** -/
theorem validate_of_admits {values : List Value} (h : d.Admits values) :
    d.validate values = .ok values := by
  unfold validate
  rw [Checked.mapM_self values fun value hvalue => conform_of_allows (h.allowed value hvalue)]
  show (if !d.multiple && 1 < values.eraseDups.length then throw _ else pure _) = _
  rw [eraseDups_of_nodup h.nodup]
  cases hmultiple : d.multiple with
  | true => rfl
  | false =>
      have hle := h.single hmultiple
      rw [if_neg (by simp; omega)]
      rfl

/-- The name of a definition is taken without the blanks around it. -/
theorem name_of_new {name : String} {kind : Kind} {multiple : Bool}
    {enumeration : Option (List Value)} {default : Option Value}
    (h : Definition.new name kind multiple enumeration default = .ok d) :
    d.name = Text.trim name := by
  unfold Definition.new at h
  dsimp only at h
  split at h
  · cases h
  · obtain ⟨default, _, h⟩ := Checked.exists_of_bind_ok h
    cases enumeration with
    | none =>
        cases h
        rfl
    | some values =>
        obtain ⟨members, _, h⟩ := Checked.exists_of_bind_ok h
        obtain ⟨ordered, _, h⟩ := Checked.exists_of_bind_ok h
        cases h
        rfl

/-- The definition is not made under a blank name. -/
theorem properName_of_new {name : String} {kind : Kind} {multiple : Bool}
    {enumeration : Option (List Value)} {default : Option Value}
    (h : Definition.new name kind multiple enumeration default = .ok d) : ProperName d.name := by
  rw [name_of_new h]
  refine ProperName.of_trim ?_
  unfold Definition.new at h
  dsimp only at h
  split at h
  · cases h
  · rename_i hname
    simpa using hname

/-- Neither the name nor a wider multiplicity stands in the way of a value. -/
theorem Admits.congr {d' : Definition} {values : List Value} (h : d.Admits values)
    (hkind : d'.kind = d.kind) (henumeration : d'.enumeration = d.enumeration)
    (hsingle : d'.multiple = false → values.length ≤ 1) : d'.Admits values := by
  refine ⟨fun value hvalue => ?_, h.nodup, hsingle⟩
  obtain ⟨hvkind, hmember⟩ := h.allowed value hvalue
  exact ⟨hvkind.trans hkind.symm, fun members hmembers =>
    hmember members (henumeration ▸ hmembers)⟩

end Definition

end MediaLibrary
