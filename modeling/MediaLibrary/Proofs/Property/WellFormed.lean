/-
Well-formed definitions.

A definition is checked when it is made, and never again: what can be changed later is its name
and how many values there may be.  `Definition.WellFormed` lists what the check ensures, of which
the first change touches the name only and the second one nothing.

A catalog that has been changed remembers no descriptions, and those that it remembers otherwise
have been made of the definitions that it has.  So after any run of operations its definitions
are well formed, and it describes the ones that it has at that time.
-/
import MediaLibrary.Proofs.Library.Definitions

namespace MediaLibrary

open Std

namespace Definition

variable {name : String} {kind : Kind} {values members : List Value}

/-- The property has these members: several, told apart and of its kind, beginning with the
default. -/
structure Enumerates (d : Definition) (members : List Value) : Prop where
  several : 2 ≤ members.length
  nodup : members.Nodup
  kind : ∀ value ∈ members, value.kind = d.kind
  first : members.head? = some d.default

/-- What is ensured when a definition is made. -/
structure WellFormed (d : Definition) : Prop where
  named : ProperName d.name
  default : d.default.kind = d.kind
  enumerated : ∀ members, d.enumeration = some members → d.Enumerates members

/-! ### Making a definition -/

theorem kind_zero (kind : Kind) : kind.zero.kind = kind := by
  cases kind <;> rfl

/-- **What is known of members:** there are several, told apart and of the kind that was asked
for. -/
theorem several_of_members (h : Definition.members name kind values = .ok members) :
    2 ≤ members.length ∧ members.Nodup ∧ ∀ value ∈ members, value.kind = kind := by
  unfold Definition.members at h
  obtain ⟨coerced, hcoerced, h⟩ := Checked.exists_of_bind_ok h
  dsimp only at h
  split at h
  · cases h
  · rename_i hseveral
    cases h
    refine ⟨Nat.not_lt.mp hseveral, nodup_eraseDups coerced, fun value hvalue => ?_⟩
    obtain ⟨raw, _, hraw⟩ :=
      Checked.exists_of_mem_mapM _ hcoerced (List.mem_eraseDups.mp hvalue)
    exact Value.kind_of_coerce (Checked.ok_of_mapError_ok hraw)

/-- The default is moved to the front, and no member comes or goes. -/
theorem perm_of_withDefault {default : Option Value} {ordered : List Value}
    (h : withDefault name members default = .ok ordered) : ordered.Perm members := by
  unfold withDefault at h
  split at h
  · cases h
    exact .refl members
  · split at h
    · rename_i hmember
      cases h
      exact (List.perm_cons_erase hmember).symm
    · cases h

variable {d : Definition}

/-- **A definition is made well formed.** -/
theorem wellFormed_of_new {multiple : Bool} {enumeration : Option (List Value)}
    {default : Option Value} (h : Definition.new name kind multiple enumeration default = .ok d) :
    d.WellFormed := by
  have hnamed := properName_of_new h
  unfold Definition.new at h
  dsimp only at h
  split at h
  · cases h
  obtain ⟨given, hgiven, h⟩ := Checked.exists_of_bind_ok h
  cases enumeration with
  | none =>
      cases h
      refine ⟨hnamed, ?_, fun _ hnone => nomatch hnone⟩
      cases default with
      | none =>
          cases hgiven
          exact kind_zero kind
      | some raw =>
          obtain ⟨value, hvalue, hgiven⟩ := Checked.exists_of_bind_ok hgiven
          cases hgiven
          exact Value.kind_of_coerce (Checked.ok_of_mapError_ok hvalue)
  | some values =>
      obtain ⟨members, hmembers, h⟩ := Checked.exists_of_bind_ok h
      obtain ⟨ordered, hordered, h⟩ := Checked.exists_of_bind_ok h
      cases h
      -- Moving the default to the front keeps all that was checked of the members.
      have hperm := perm_of_withDefault hordered
      obtain ⟨hseveral, hnodup, hkind⟩ := several_of_members hmembers
      rw [← hperm.length_eq] at hseveral
      have hkind : ∀ value ∈ ordered, value.kind = kind := fun value hvalue =>
        hkind value (hperm.mem_iff.mp hvalue)
      cases ordered with
      | nil => cases hseveral
      | cons first rest =>
          refine ⟨hnamed, hkind first List.mem_cons_self, ?_⟩
          rintro _ ⟨⟩
          exact ⟨hseveral, hperm.nodup_iff.mpr hnodup, hkind, rfl⟩

/-! ### Changing a definition -/

/-- The kind, the enumeration and the default are all that was checked, the name aside. -/
theorem WellFormed.congr {d' : Definition} (h : d.WellFormed) (hnamed : ProperName d'.name)
    (hkind : d'.kind = d.kind) (henumeration : d'.enumeration = d.enumeration)
    (hdefault : d'.default = d.default) : d'.WellFormed := by
  refine ⟨hnamed, ?_, fun members hmembers => ?_⟩
  · rw [hdefault, hkind]
    exact h.default
  · rw [henumeration] at hmembers
    obtain ⟨several, nodup, kind, first⟩ := h.enumerated members hmembers
    refine ⟨several, nodup, ?_, ?_⟩
    · rw [hkind]
      exact kind
    · rw [hdefault]
      exact first

/-- A property may hold its default. -/
theorem WellFormed.admits_default (h : d.WellFormed) : d.Admits [d.default] := by
  refine ⟨fun value hvalue => ?_, by simp, fun _ => Nat.le_refl 1⟩
  cases List.mem_singleton.mp hvalue
  exact ⟨h.default, fun members hmembers =>
    List.mem_of_mem_head? (h.enumerated members hmembers).first⟩

end Definition

/-! ### Catalogs -/

/-- What can be asked of a catalog that may change it. -/
inductive CatalogOperation where
  | define (name : String) (kind : Kind) (multiple : Bool) (enumeration : Option (List Value))
    (default : Option Value)
  | rename (old new : String)
  | remove (name : String)
  | setMultiplicity (name : String) (multiple : Bool)
  | describeAll

namespace Catalog

variable {c c' : Catalog}

/-- Carries out an operation, its answer aside, unless it is refused. -/
def perform (c : Catalog) : CatalogOperation → Except SchemaError Catalog
  | .define name kind multiple enumeration default =>
    (c.define name kind multiple enumeration default).map Prod.fst
  | .rename old new => (c.rename old new).map Prod.fst
  | .remove name => (c.remove name).map Prod.fst
  | .setMultiplicity name multiple => (c.setMultiplicity name multiple).map Prod.fst
  | .describeAll => .ok c.describeAll.2

/-- The catalog after an operation, be it carried out or refused. -/
def after (c : Catalog) (operation : CatalogOperation) : Catalog :=
  match c.perform operation with
  | .ok c => c
  | .error _ => c

/-- The operation is refused: a name is taken, blank or not that of a property, or there is no
such definition. -/
def Refuses (c : Catalog) : CatalogOperation → Prop
  | .define name kind multiple enumeration default =>
    (c.get? (Text.trim name)).isSome = true ∨
      ∀ d, Definition.new name kind multiple enumeration default ≠ .ok d
  | .rename old new =>
    c.get? old = none ∨ (Text.trim new).isEmpty = true ∨ (c.get? (Text.trim new)).isSome = true
  | .remove name => c.get? name = none
  | .setMultiplicity name _ => c.get? name = none
  | .describeAll => False

/-- The catalog after some operations on the empty one. -/
def afterAll (operations : List CatalogOperation) : Catalog :=
  operations.foldl after empty

/-- The definitions are well formed, each is kept under its name, and the descriptions that are
remembered are theirs. -/
structure WellFormed (c : Catalog) : Prop where
  keyed : OrderedMap.Keyed Definition.name c.definitions
  formed : ∀ name d, c.get? name = some d → d.WellFormed
  described : ∀ known, c.described = some known → known = c.toList.map Definition.describe

theorem wellFormed_empty : empty.WellFormed := by
  have hnone : ∀ name, empty.get? name = none := fun name => ExtTreeMap.getElem?_empty
  refine ⟨fun name d hd => ?_, fun name d hd => ?_, fun known hknown => nomatch hknown⟩
  · cases (hnone name).symm.trans hd
  · cases (hnone name).symm.trans hd

namespace WellFormed

/-- A well-formed definition is put under its name. -/
theorem insert (h : c.WellFormed) {d : Definition} {name : String} (hname : d.name = name)
    (hd : d.WellFormed) : (changed (c.definitions.insert name d)).WellFormed := by
  subst hname
  refine ⟨h.keyed.insert d, fun name d' hd' => ?_, fun known hknown => nomatch hknown⟩
  rw [get?_insert] at hd'
  split at hd'
  · cases hd'
    exact hd
  · exact h.formed name d' hd'

theorem erase (h : c.WellFormed) (name : String) :
    (changed (c.definitions.erase name)).WellFormed := by
  refine ⟨h.keyed.erase name, fun other d hd => ?_, fun known hknown => nomatch hknown⟩
  rw [get?_erase] at hd
  split at hd
  · cases hd
  · exact h.formed other d hd

/-- **What is described are the definitions**, be the descriptions remembered or made. -/
theorem describeAll_eq (h : c.WellFormed) : c.describeAll.1 = c.toList.map Definition.describe := by
  unfold describeAll
  split
  · rename_i known hknown
    exact h.described known hknown
  · rfl

/-- Describing the properties remembers what is described. -/
theorem describeAll (h : c.WellFormed) : c.describeAll.2.WellFormed := by
  unfold Catalog.describeAll
  split
  · exact h
  · refine ⟨h.keyed, h.formed, ?_⟩
    rintro _ ⟨⟩
    rfl

/-- **An operation that is carried out keeps the catalog well formed.** -/
theorem of_perform (h : c.WellFormed) {operation : CatalogOperation}
    (hperform : c.perform operation = .ok c') : c'.WellFormed := by
  cases operation with
  | define name kind multiple enumeration default =>
      rw [perform] at hperform
      obtain ⟨⟨c', change⟩, hdefine, rfl⟩ := Checked.exists_of_map_ok hperform
      obtain ⟨d, hd, _, rfl, _⟩ := exists_new_of_define hdefine
      exact h.insert rfl (Definition.wellFormed_of_new hd)
  | rename old new =>
      rw [perform] at hperform
      obtain ⟨⟨c', change⟩, hrename, rfl⟩ := Checked.exists_of_map_ok hperform
      obtain ⟨hchanges, rfl⟩ := changes_of_rename hrename
      cases hchanges with
      | renamed d _ _ hnew hold _ =>
          exact (h.erase old).insert rfl ((h.formed old d hold).congr hnew rfl rfl rfl)
  | remove name =>
      rw [perform] at hperform
      obtain ⟨⟨c', change⟩, hremove, rfl⟩ := Checked.exists_of_map_ok hperform
      obtain ⟨hchanges, rfl⟩ := changes_of_remove hremove
      cases hchanges with
      | removed => exact h.erase name
  | setMultiplicity name multiple =>
      rw [perform] at hperform
      obtain ⟨⟨c', change⟩, hmultiple, rfl⟩ := Checked.exists_of_map_ok hperform
      obtain ⟨hchanges, rfl⟩ := changes_of_setMultiplicity hmultiple
      cases hchanges with
      | multiplicity d _ _ hd =>
          have hformed := h.formed name d hd
          exact h.insert (h.keyed name d hd) (hformed.congr hformed.named rfl rfl rfl)
  | describeAll =>
      cases hperform
      exact h.describeAll

theorem after (h : c.WellFormed) (operation : CatalogOperation) :
    (c.after operation).WellFormed := by
  unfold Catalog.after
  split
  · rename_i hperform
    exact h.of_perform hperform
  · exact h

end WellFormed

/-- **The catalog is well formed after every run.** -/
theorem wellFormed_afterAll (operations : List CatalogOperation) :
    (afterAll operations).WellFormed := by
  have hrun : ∀ (operations : List CatalogOperation) (c : Catalog), c.WellFormed →
      (operations.foldl after c).WellFormed := by
    intro operations
    induction operations with
    | nil => exact fun c h => h
    | cons operation rest ih => exact fun c h => ih (c.after operation) (h.after operation)
  exact hrun operations empty wellFormed_empty

/-! ### Refused operations -/

private theorem require_eq (c : Catalog) (name : String) :
    c.require name = match c.get? name with
      | some d => .ok d
      | none => .error (.unknown name) := rfl

/-- **When an operation is refused.** -/
theorem refuses_iff (c : Catalog) (operation : CatalogOperation) :
    c.Refuses operation ↔ ∃ e, c.perform operation = .error e := by
  cases operation with
  | define name kind multiple enumeration default =>
      rw [Refuses, perform, define, isSome_get?]
      cases c.definitions.contains (Text.trim name) with
      | true => exact iff_of_true (.inl rfl) ⟨_, rfl⟩
      | false =>
          cases Definition.new name kind multiple enumeration default with
          | error e => exact iff_of_true (.inr (by simp)) ⟨e, rfl⟩
          | ok d =>
              refine iff_of_false (by simp) ?_
              rintro ⟨_, ⟨⟩⟩
  | rename old new =>
      rw [Refuses, perform, rename, isSome_get?, require_eq]
      cases c.get? old with
      | none => exact iff_of_true (.inl rfl) ⟨_, rfl⟩
      | some d =>
          dsimp only
          cases (Text.trim new).isEmpty with
          | true => exact iff_of_true (.inr (.inl rfl)) ⟨_, rfl⟩
          | false =>
              cases c.definitions.contains (Text.trim new) with
              | true => exact iff_of_true (.inr (.inr rfl)) ⟨_, rfl⟩
              | false =>
                  refine iff_of_false (by simp) ?_
                  rintro ⟨_, ⟨⟩⟩
  | remove name =>
      rw [Refuses, perform, remove, require_eq]
      cases c.get? name with
      | none => exact iff_of_true rfl ⟨_, rfl⟩
      | some d =>
          refine iff_of_false (by simp) ?_
          rintro ⟨_, ⟨⟩⟩
  | setMultiplicity name multiple =>
      rw [Refuses, perform, setMultiplicity, require_eq]
      cases c.get? name with
      | none => exact iff_of_true rfl ⟨_, rfl⟩
      | some d =>
          refine iff_of_false (by simp) ?_
          rintro ⟨_, ⟨⟩⟩
  | describeAll =>
      refine iff_of_false id ?_
      rintro ⟨_, ⟨⟩⟩

/-- The definitions are listed once each, in the order of their names. -/
theorem WellFormed.ordered (h : c.WellFormed) :
    c.toList.Pairwise fun d d' => compare d.name d'.name = .lt := by
  have hkeys := ExtTreeMap.ordered_keys (t := c.definitions)
  rw [← OrderedMap.map_key_values h.keyed] at hkeys
  exact List.pairwise_map.mp hkeys

/-- **Definitions stay well formed, and the catalog describes the ones that it has.**  After any
run, refused operations included, each definition is kept under its name, which is not blank and
has no blanks around it.  An enumeration has two members at least, told apart and of the kind of
the property, and begins with the default.  The default is of that kind and passes the check
alone and unchanged.  What is described are the definitions that the catalog has, each once and
in the order of their names.  An operation is refused if and only if one of its names is taken,
blank or unknown or its definition cannot be made, and then it changes nothing. -/
theorem definitions_stay_well_formed (operations : List CatalogOperation) :
    let c := afterAll operations
    (∀ name d, c.get? name = some d →
        d.name = name ∧ d.WellFormed ∧ c.validate name [d.default] = .ok [d.default]) ∧
      (∃ definitions : List Definition, c.describeAll.1 = definitions.map Definition.describe ∧
        (∀ d, d ∈ definitions ↔ c.get? d.name = some d) ∧
        definitions.Pairwise fun d d' => compare d.name d'.name = .lt) ∧
      ∀ operation, (c.Refuses operation ↔ ∃ e, c.perform operation = .error e) ∧
        (c.Refuses operation → c.after operation = c) := by
  intro c
  have h : c.WellFormed := wellFormed_afterAll operations
  refine ⟨fun name d hd => ⟨h.keyed name d hd, h.formed name d hd, ?_⟩,
    ⟨c.toList, h.describeAll_eq, fun d => OrderedMap.mem_values h.keyed, h.ordered⟩,
    fun operation => ⟨c.refuses_iff operation, fun hrefuses => ?_⟩⟩
  · rw [validate_eq, hd]
    exact Definition.validate_of_admits (h.formed name d hd).admits_default
  · obtain ⟨e, he⟩ := (c.refuses_iff operation).mp hrefuses
    rw [after, he]

end Catalog

end MediaLibrary
