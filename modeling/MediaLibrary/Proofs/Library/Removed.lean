/-
Properties that are removed, and properties that are confined to a single value.

Both changes look up the records that hold the property in the index of tags, by the bytes with
which its name is written, and do not pass over the records.  `Removes` says what removing comes
to all the same, record by record and entry by entry: nothing of the property is left, and
nothing of another one is touched, however alike their names are.  A property may be confined to
a single value exactly when no record holds two, and records are not changed by asking.

Nobody holds a property that is not defined.  So whatever happens after a property was removed,
one that is defined under its name again starts without values.
-/
import MediaLibrary.Proofs.Library.Sound
import MediaLibrary.Proofs.Store.TagKey

namespace MediaLibrary

open Std

/-! ### Records and their tags -/

namespace Catalog

variable {c : Catalog}

/-- A record that does not hold a property has no entry for it to lose. -/
theorem Admits.without {r : Record} (h : c.Admits r) (name : String) :
    (if PlainStore.holds name r then r.setValues name [] else r) = r.setValues name [] := by
  split
  · rfl
  · rename_i hholds
    have hnone : r.properties[name]? = none :=
      h.getElem?_eq_none (by simpa [PlainStore.holds] using hholds)
    have hsame : r.properties.erase name = r.properties := by
      refine ExtTreeMap.ext_getElem? fun other => ?_
      rw [OrderedMap.getElem?_erase]
      split
      · rename_i heq
        rw [← heq, hnone]
      · rfl
    show r = { r with properties := r.properties.erase name }
    rw [hsame]

theorem remove_eq {name : String} {d : Definition} (hname : c.get? name = some d) :
    c.remove name = .ok (changed (c.definitions.erase name), .removed name) := by
  rw [remove, require, hname]
  rfl

theorem setMultiplicity_eq {name : String} {d : Definition} (hname : c.get? name = some d)
    (multiple : Bool) :
    c.setMultiplicity name multiple =
      .ok (changed (c.definitions.insert name { d with multiple }),
        .multiplicity name multiple) := by
  rw [setMultiplicity, require, hname]
  rfl

/-- A definition that can be made is added under a name that is free. -/
theorem define_eq {name : String} {kind : Kind} {multiple : Bool}
    {enumeration : Option (List Value)} {default : Option Value} {d : Definition}
    (hd : Definition.new name kind multiple enumeration default = .ok d)
    (hfree : c.get? (Text.trim name) = none) :
    c.define name kind multiple enumeration default =
      .ok (changed (c.definitions.insert d.name d), .defined d.name) := by
  have hcontains : c.definitions.contains (Text.trim name) = false := by
    rw [← isSome_get?, hfree]
    rfl
  rw [define, hd, hcontains]
  rfl

end Catalog

namespace Store

variable {s s' : Store}

/-- The entry of a tag depends on which records have it. -/
theorem Sound.tag_entry_congr (h : s.Sound) (h' : s'.Sound) {tag : Tag}
    (hsame : ∀ id : RecordId,
      (∃ r : Record, s'.records[id]? = some r ∧ tag.value ∈ r.values tag.property) ↔
        ∃ r : Record, s.records[id]? = some r ∧ tag.value ∈ r.values tag.property) :
    s'.tags[tag]? = s.tags[tag]? := by
  have hids : s'.plain.idsWhere (tag.value ∈ ·.values tag.property) =
      s.plain.idsWhere (tag.value ∈ ·.values tag.property) := by
    refine (h'.idsWhere_ascending _).eq_of_mem_iff (h.idsWhere_ascending _) fun id => ?_
    rw [h'.mem_idsWhere, h.mem_idsWhere]
    simpa using hsame id
  have hentry := h.tag_entry tag.property tag.value
  rw [← hids] at hentry
  exact (h'.tag_entry tag.property tag.value).trans hentry.symm

/-- There is no entry for a tag that no record has. -/
theorem Sound.tag_entry_eq_none (h : s.Sound) {tag : Tag}
    (hnone : ∀ (id : RecordId) (r : Record), s.records[id]? = some r →
      tag.value ∉ r.values tag.property) :
    s.tags[tag]? = none := by
  have hids : s.plain.idsWhere (tag.value ∈ ·.values tag.property) = [] := by
    refine List.eq_nil_iff_forall_not_mem.mpr fun id hid => ?_
    obtain ⟨r, hr, hvalue⟩ := h.mem_idsWhere.mp hid
    exact hnone id r hr (by simpa using hvalue)
  have hentry := h.tag_entry tag.property tag.value
  rwa [if_pos hids] at hentry

/-- Confining a property to a single value is refused on account of the records, and does not
change them. -/
theorem applyChange_multiplicity (s : Store) (name : String) (multiple : Bool) :
    (∀ count s', s.applyChange (.multiplicity name multiple) = .ok (count, s') → s' = s) ∧
      ((∃ answer, s.applyChange (.multiplicity name multiple) = .ok answer) ↔
        (multiple = true ∨ s.maxValueCount name ≤ 1)) := by
  unfold applyChange
  dsimp only
  split
  · rename_i hfew
    refine ⟨?_, fun _ => by simpa using hfew, fun _ => ⟨_, rfl⟩⟩
    rintro count s' ⟨⟩
    rfl
  · rename_i hmany
    refine ⟨?_, ?_, fun hfew => absurd (by simpa using hfew) hmany⟩
    · rintro count s' ⟨⟩
    · rintro ⟨answer, ⟨⟩⟩

/-- The greatest number of values is that of a record. -/
theorem Sound.maxValueCount_le_iff (h : s.Sound) {name : String} {bound : Nat} :
    s.maxValueCount name ≤ bound ↔
      ∀ id r, s.get? id = some r → (r.values name).length ≤ bound := by
  rw [h.maxValueCount_eq, PlainStore.maxValueCount_le_iff]
  constructor
  · intro hall id r hr
    obtain rfl : r.id = id := h.keyed id r hr
    exact hall r (h.mem_toList.mpr hr)
  · exact fun hall r hr => hall r.id r (h.mem_toList.mp hr)

end Store

namespace Library

open LibraryM

variable {l l' : Library} {name : String} {d : Definition}

/-- What removing a property does to a library. -/
structure Removes (name : String) (l l' : Library) : Prop where
  /-- Each record is as it was, but without the property. -/
  records : ∀ id, l'.store.get? id =
    (l.store.get? id).map fun r => { r with properties := r.properties.erase name }
  /-- The index of tags has lost all entries of the property, and no other. -/
  entries : ∀ tag : Tag, l'.store.tags[tag]? =
    if tag.property = name then none else l.store.tags[tag]?
  nextId : l'.store.nextId = l.store.nextId
  gone : l'.catalog.get? name = none
  others : ∀ other, other ≠ name → l'.catalog.get? other = l.catalog.get? other

/-- The property is defined, and no record holds it. -/
structure WithoutValues (name : String) (l : Library) : Prop where
  defined : ∃ d, l.catalog.get? name = some d
  records : ∀ id r, l.store.get? id = some r → r.properties[name]? = none
  entries : ∀ tag : Tag, tag.property = name → l.store.tags[tag]? = none

/-! ### Removing a property -/

private theorem Sound.removesProperty (h : l.Sound) {catalog : Catalog} {count : Nat}
    {store : Store} {parameters : Parameters Caches}
    (hchanges : l.catalog.Changes catalog (.removed name))
    (hs : l.store.applyChange (.removed name) = .ok (count, store)) :
    Removes name l ⟨store.keepDefinitions catalog (.removed name), catalog, parameters⟩ := by
  obtain ⟨hsound, _⟩ := h.store.of_applyChange hs
  obtain ⟨hkept, hrecords, hnextId⟩ := hsound.keepDefinitions catalog (.removed name)
  have hedited : store.plain = l.store.plain.edit (PlainStore.holds name) (·.setValues name []) :=
    congrArg Prod.snd (Except.ok.inj (h.store.plain_of_applyChange hs))
  have hget : ∀ id, (store.keepDefinitions catalog (.removed name)).get? id =
      (l.store.get? id).map fun r => r.setValues name [] := by
    intro id
    have hstored : store.records[id]? = store.plain.records[id]? := rfl
    rw [Store.get?, hrecords, hstored, hedited, PlainStore.getElem?_edit]
    exact Option.map_congr fun r hr => (h.admitted id r hr).without name
  refine ⟨hget, fun tag => ?_, ?_, ?_, fun other hne => ?_⟩
  · split
    · rename_i hproperty
      refine hkept.tag_entry_eq_none fun id r hr hvalue => ?_
      obtain ⟨q, _, rfl⟩ := Option.map_eq_some_iff.mp ((hget id).symm.trans hr)
      rw [hproperty, Record.values_setValues_self] at hvalue
      cases hvalue
    · rename_i hproperty
      refine h.store.tag_entry_congr hkept fun id => ?_
      have hvalues : ∀ r : Record,
          (r.setValues name []).values tag.property = r.values tag.property :=
        fun r => r.values_setValues_of_ne (Ne.symm hproperty) []
      have hget : (store.keepDefinitions catalog (.removed name)).records[id]? =
          l.store.records[id]?.map fun r => r.setValues name [] := hget id
      rw [hget]
      cases l.store.records[id]? with
      | none => simp
      | some r => simp [hvalues]
  · exact hnextId.trans (congrArg PlainStore.nextId hedited)
  · cases hchanges
    rw [Catalog.get?_erase, if_pos rfl]
  · cases hchanges
    rw [Catalog.get?_erase, if_neg (Ne.symm hne)]
    rfl

/-- **What removing a property leaves.** -/
theorem Sound.exists_removes (h : l.Sound) (hname : l.catalog.get? name = some d) :
    ∃ l', removeProperty name l = .ok () l' ∧ Removes name l l' := by
  have hensures : Ensures (removeProperty name) l (fun _ l' => Removes name l l')
      fun _ => False := by
    unfold removeProperty
    exact ensures_bind.mpr (ensures_changeCatalog_of_ok (Catalog.remove_eq hname) rfl
      (ensures_modify.mpr (h.removesProperty (.removed name) rfl)))
  obtain ⟨_, l', hrun, hremoves⟩ := hensures.exists_ok
  exact ⟨l', hrun, hremoves⟩

/-! ### Defining a property again -/

/-- **A property that is defined has no values to begin with**, for nobody could hold it. -/
theorem Sound.withoutValues (h : l.Sound) {kind : Kind} {multiple : Bool}
    {enumeration : Option (List Value)} {default : Option Value}
    (hrun : defineProperty name kind multiple enumeration default l = .ok () l') :
    WithoutValues (Text.trim name) l' := by
  have hsound : l'.Sound :=
    after_of_ok (.defineProperty name kind multiple enumeration default) hrun ▸ h.after _
  have hensures : Ensures (defineProperty name kind multiple enumeration default) l
      (fun _ l' => (∃ d, l'.catalog.get? (Text.trim name) = some d) ∧
        l.catalog.get? (Text.trim name) = none ∧ l'.store.records = l.store.records)
      fun _ => True := by
    unfold defineProperty
    refine ensures_bind.mpr (ensures_changeCatalog (fun _ _ => trivial) (fun _ _ _ _ _ => trivial)
      fun catalog change count store hc hs => ?_)
    obtain ⟨d, hd, hfree, rfl, rfl⟩ := Catalog.exists_new_of_define hc
    rw [Definition.name_of_new hd] at hfree hs ⊢
    cases hs
    refine ⟨⟨d, ?_⟩, hfree, (h.store.keepDefinitions _ _).2.1⟩
    rw [Catalog.get?_insert, if_pos rfl]
  obtain ⟨hdefined, hfree, hrecords⟩ := hensures.of_ok hrun
  have hnone : ∀ id r, l'.store.get? id = some r → r.properties[Text.trim name]? = none := by
    intro id r hr
    have hr : l.store.records[id]? = some r := hrecords ▸ hr
    exact Option.eq_none_iff_forall_ne_some.mpr fun values hvalues =>
      (h.admitted id r hr).name_ne hvalues hfree rfl
  refine ⟨hdefined, hnone, ?_⟩
  rintro ⟨_, value⟩ rfl
  refine hsound.store.tag_entry_eq_none fun id r hr hvalue => ?_
  have hvalue : value ∈ r.values (Text.trim name) := hvalue
  rw [Record.values, ExtTreeMap.getD_eq_getD_getElem?, hnone id r hr] at hvalue
  cases hvalue

/-- A definition that can be made is taken over under a name that is free. -/
theorem exists_defineProperty {kind : Kind} {multiple : Bool} {enumeration : Option (List Value)}
    {default : Option Value} (hd : Definition.new name kind multiple enumeration default = .ok d)
    (hfree : l.catalog.get? (Text.trim name) = none) :
    ∃ l', defineProperty name kind multiple enumeration default l = .ok () l' := by
  have hensures : Ensures (defineProperty name kind multiple enumeration default) l
      (fun _ _ => True) fun _ => False := by
    unfold defineProperty
    exact ensures_bind.mpr
      (ensures_changeCatalog_of_ok (Catalog.define_eq hd hfree) rfl trivial)
  obtain ⟨_, l', hrun, _⟩ := hensures.exists_ok
  exact ⟨l', hrun⟩

/-! ### Several values, or one only -/

/-- Only the kept definitions follow, be the change refused or not. -/
theorem store_after_setMultiplicity (l : Library) (name : String) (multiple : Bool) :
    (l.after (.setMultiplicity name multiple)).store =
      { l.store with
        definitions := (l.after (.setMultiplicity name multiple)).store.definitions } := by
  have hleaves : Leaves (LibraryOperation.setMultiplicity name multiple).program l
      fun l' => l'.store = { l.store with definitions := l'.store.definitions } := by
    refine ensures_setMultiplicity rfl fun catalog count store _ hs => ?_
    rw [(l.store.applyChange_multiplicity name multiple).1 count store hs]
    exact l.store.keepDefinitions_eq catalog (.multiplicity name multiple)
  exact after_of_leaves hleaves

/-- **A property may be confined to a single value if no record holds two.** -/
theorem Sound.exists_setMultiplicity_iff (h : l.Sound) (hname : l.catalog.get? name = some d) :
    (∃ l', setMultiplicity name false l = .ok () l') ↔
      ∀ id r, l.store.get? id = some r → (r.values name).length ≤ 1 := by
  rw [← h.store.maxValueCount_le_iff]
  have hfollows := (l.store.applyChange_multiplicity name false).2
  simp only [Bool.false_eq_true, false_or] at hfollows
  constructor
  · rintro ⟨l', hrun⟩
    have hensures : Ensures (setMultiplicity name false) l
        (fun _ _ => l.store.maxValueCount name ≤ 1) fun _ => True :=
      ensures_setMultiplicity trivial fun _ _ _ _ hs => hfollows.mp ⟨_, hs⟩
    exact hensures.of_ok hrun
  · intro hfew
    obtain ⟨answer, hanswer⟩ := hfollows.mpr hfew
    have hensures : Ensures (setMultiplicity name false) l (fun _ _ => True) fun _ => False := by
      unfold setMultiplicity
      exact ensures_bind.mpr
        (ensures_changeCatalog_of_ok (Catalog.setMultiplicity_eq hname false) hanswer trivial)
    obtain ⟨_, l', hrun, _⟩ := hensures.exists_ok
    exact ⟨l', hrun⟩

/-- **A property that is removed leaves nothing behind.**  Take any state that a run reaches,
refused operations included, and a property that is defined in it.  Removing it is not refused,
and afterwards every record is as it was, but without the property, and the index of tags lists
the property no more and everything else as before.  The name can be taken again at once, and
whenever that is done, the property starts without values.  In the index of tags the bytes of the
name are found in front of its own keys only.  The property can be confined to a single value
exactly if no record holds more than one, and asking for it changes neither the records nor the
indices, be it refused or not. -/
theorem removed_property_leaves_nothing (operations : List LibraryOperation)
    (hname : (afterAll operations).catalog.get? name = some d) :
    let l := afterAll operations
    (∃ l', removeProperty name l = .ok () l' ∧ Removes name l l' ∧
      ∀ again kind multiple enumeration default, Text.trim again = name →
        (∀ d', Definition.new again kind multiple enumeration default = .ok d' →
          ∃ l'', defineProperty again kind multiple enumeration default l' = .ok () l'') ∧
        ∀ (more : List LibraryOperation) (l'' : Library),
          defineProperty again kind multiple enumeration default (more.foldl after l') =
            .ok () l'' → WithoutValues name l'') ∧
      (∀ tag : Tag, Bytes.Addressable name → Bytes.Addressable tag.property →
        (Tag.keyStart name <+: tag.key ↔ tag.property = name)) ∧
      ((∃ l', setMultiplicity name false l = .ok () l') ↔
        ∀ id r, l.store.get? id = some r → (r.values name).length ≤ 1) ∧
      (l.after (.setMultiplicity name false)).store =
        { l.store with
          definitions := (l.after (.setMultiplicity name false)).store.definitions } := by
  intro l
  have h : l.Sound := sound_afterAll operations
  refine ⟨?_, fun tag hown htag => Tag.keyStart_isPrefix_key hown htag,
    h.exists_setMultiplicity_iff hname, l.store_after_setMultiplicity name false⟩
  obtain ⟨l', hrun, hremoves⟩ := h.exists_removes hname
  refine ⟨l', hrun, hremoves, ?_⟩
  rintro again kind multiple enumeration default rfl
  refine ⟨fun d' hd' => exists_defineProperty hd' hremoves.gone, fun more l'' hdefined => ?_⟩
  have hreached : more.foldl after l' =
      afterAll (operations ++ .removeProperty (Text.trim again) :: more) := by
    rw [afterAll_append, List.foldl_cons, after_of_ok (.removeProperty (Text.trim again)) hrun]
  have hsound : (more.foldl after l').Sound := hreached ▸ sound_afterAll _
  exact hsound.withoutValues hdefined

/-- Three properties of which each name begins with the one before. -/
theorem removed_mood_leaves_moody :
    let properties : Properties := .ofList [("moo", [.str "no"]),
      ("mood", [.str "calm", .str "wild"]), ("moody", [.str "calm"])] compare
    let others : Properties := .ofList [("moo", [.str "no"]), ("moody", [.str "calm"])] compare
    let operations : List LibraryOperation :=
      [.defineProperty "moo" .str false none none, .defineProperty "mood" .str true none none,
        .defineProperty "moody" .str true none none,
        .importRecords [{ path := "/a.mkv", properties }]]
    let l := afterAll operations
    (∃ l', removeProperty "mood" l = .ok () l' ∧
      l'.store.get? 1 = some { id := 1, path := "/a.mkv", properties := others } ∧
      l'.store.tags[(⟨"moody", .str "calm"⟩ : Tag)]? = some ⟨[1]⟩ ∧
      l'.store.tags[(⟨"moo", .str "no"⟩ : Tag)]? = some ⟨[1]⟩ ∧
      l'.store.tags[(⟨"mood", .str "calm"⟩ : Tag)]? = none) ∧
      ¬∃ l', setMultiplicity "mood" false l = .ok () l' := by
  intro properties others operations l
  have hsome : (l.catalog.get? "mood").isSome := by decide +kernel
  obtain ⟨d, hname⟩ := Option.isSome_iff_exists.mp hsome
  have hstored : l.store.get? 1 = some { id := 1, path := "/a.mkv", properties } := by
    decide +kernel
  obtain ⟨⟨l', hrun, hremoves, _⟩, _, hconfined, _⟩ :=
    removed_property_leaves_nothing operations hname
  refine ⟨⟨l', hrun, ?_, ?_, ?_, ?_⟩, fun hc => ?_⟩
  · have hothers : properties.erase "mood" = others := by decide +kernel
    rw [hremoves.records, hstored, ← hothers]
    rfl
  · rw [hremoves.entries, if_neg (by decide)]
    decide +kernel
  · rw [hremoves.entries, if_neg (by decide)]
    decide +kernel
  · rw [hremoves.entries, if_pos rfl]
  · have hfew := hconfined.mp hc 1 _ hstored
    exact absurd hfew (by decide +kernel)

end Library

end MediaLibrary
