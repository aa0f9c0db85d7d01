/-
What the operations of the library do.

One rule for each operation on records, definitions and moved files.  A rule lists the ways
in which the operation ends and the library that it leaves each time, so that an invariant
is kept if it survives each of them.  Only an import can be refused after it has changed
something: it stores one record after the other, and its rule asks for a condition that
each of them keeps.
-/
import MediaLibrary.Proofs.Library.Run
import MediaLibrary.Proofs.Property.Catalog
import MediaLibrary.Proofs.Store.Refinement

namespace MediaLibrary

namespace Library

/-- The index of moved files that the library tells of: the remembered one, or else that of its
records. -/
def knownMoves (l : Library) : MoveIndex :=
  (l.parameters.caches.moves.indexOf l.store.toList).1

/-- The library that remembers the index of moved files that it tells of. -/
def withKnownMoves (l : Library) : Library :=
  { l with parameters.caches.moves := (l.parameters.caches.moves.indexOf l.store.toList).2 }

end Library

namespace LibraryM

variable {l : Library} {refused : Library → Prop}

/-! ### Records -/

theorem ensures_importRecords {records : List Record} {post : List RecordId → Library → Prop}
    (during : Library → Prop) (hstart : during l)
    (hstore : ∀ (l' : Library) (q r : Record) (id : RecordId) (store : Store), during l' →
      l.catalog.validateRecord q = .ok r → l'.store.insert r = .ok (id, store) →
      during { l' with store })
    (hrefused : ∀ l', during l' → refused l')
    (hpost : ∀ ids l', during l' →
      post ids { l' with parameters := l'.parameters.forceUpdate }) :
    Ensures (importRecords records) l post refused := by
  unfold importRecords
  refine ensures_bind.mpr (ensures_get.mpr ?_)
  dsimp only
  split
  · exact hrefused l hstart
  · refine ensures_bind.mpr ?_
    refine ensures_check (fun checked hchecked => ?_) fun e _ => hrefused l hstart
    -- What is stored, with an identifier of its own or without, has been checked.
    have hstored : ∀ (which : Record → Bool) (l' : Library), during l' →
        Leaves ((checked.filter which).mapM storeRecord) l' during := by
      intro which l' hl'
      refine leaves_mapM _ (fun r hr l' hl' => ?_) hl'
      obtain ⟨q, _, hq⟩ := Checked.exists_of_mem_mapM _ hchecked (List.mem_filter.mp hr).1
      exact ensures_storeRecord (fun id store h => hstore l' q r id store hl' hq h) fun e _ => hl'
    refine ensures_bind.mpr ((hstored _ l hstart).imp (fun _ l' hl' => ?_) hrefused)
    refine ensures_bind.mpr ((hstored _ l' hl').imp (fun assigned l' hl' => ?_) hrefused)
    exact ensures_bind.mpr (ensures_forceUpdate.mpr (hpost _ l' hl'))

theorem ensures_insertRecord {r : Record} {post : RecordId → Library → Prop} (hrefused : refused l)
    (hpost : ∀ (answer : RecordId) (r' : Record) (id : RecordId) (store : Store),
      l.catalog.validateRecord r = .ok r' → l.store.insert r' = .ok (id, store) →
      post answer { l with store, parameters := l.parameters.forceUpdate }) :
    Ensures (insertRecord r) l post refused := by
  unfold insertRecord importRecords
  refine ensures_bind.mpr (ensures_bind.mpr (ensures_get.mpr ?_))
  dsimp only
  split
  · exact hrefused
  · refine ensures_bind.mpr (ensures_check (fun checked hchecked => ?_) fun e _ => hrefused)
    obtain ⟨r', others, hr', hothers, rfl⟩ := Checked.mapM_cons_ok hchecked
    rw [List.mapM_nil] at hothers
    cases hothers
    -- One of the two rounds stores the record, and the other has nothing to do.
    by_cases hid : r'.id = 0
    · have hown : [r'].filter (·.id ≠ 0) = [] := by simp [hid]
      have hnew : [r'].filter (·.id = 0) = [r'] := by simp [hid]
      rw [hown, hnew]
      simp only [List.mapM_nil, List.mapM_cons, pure_bind, bind_assoc]
      refine ensures_bind.mpr (ensures_storeRecord (fun id store h => ?_) fun e _ => hrefused)
      exact ensures_bind.mpr (ensures_forceUpdate.mpr (hpost _ r' id store hr' h))
    · have hown : [r'].filter (·.id ≠ 0) = [r'] := by simp [hid]
      have hnew : [r'].filter (·.id = 0) = [] := by simp [hid]
      rw [hown, hnew]
      simp only [List.mapM_nil, List.mapM_cons, pure_bind, bind_assoc]
      refine ensures_bind.mpr (ensures_storeRecord (fun id store h => ?_) fun e _ => hrefused)
      exact ensures_bind.mpr (ensures_forceUpdate.mpr (hpost _ r' id store hr' h))

theorem ensures_updateRecord {r : Record} {post : Unit → Library → Prop} (hrefused : refused l)
    (hpost : ∀ (r' : Record) (id : RecordId) (store : Store),
      l.catalog.validateRecord r = .ok r' → l.store.insert r' = .ok (id, store) →
      post () { l with store, parameters := l.parameters.forceUpdate }) :
    Ensures (updateRecord r) l post refused := by
  unfold updateRecord
  refine ensures_bind.mpr (ensures_get.mpr ?_)
  refine ensures_bind.mpr (ensures_check (fun old _ => ?_) fun e _ => hrefused)
  refine ensures_bind.mpr (ensures_check (fun r' hr' => ?_) fun e _ => hrefused)
  refine ensures_bind.mpr (ensures_storeRecord (fun id store h => ?_) fun e _ => hrefused)
  exact ensures_forceUpdate.mpr (hpost r' id store hr' h)

/-- Removing a record that is not there does nothing. -/
theorem ensures_removeRecord {id : RecordId} {post : Bool → Library → Prop}
    (hremoved : l.store.contains id = true → post true
      { l with store := (l.store.remove id).2, parameters := l.parameters.forceUpdate })
    (habsent : post false l) :
    Ensures (removeRecord id) l post refused := by
  unfold removeRecord
  refine ensures_bind.mpr (ensures_changeStore.mpr ?_)
  cases hcontains : l.store.contains id with
  | true =>
      have hfound : (l.store.remove id).1 = true := hcontains
      rw [hfound]
      exact hremoved hcontains
  | false =>
      have hfound : (l.store.remove id).1 = false := hcontains
      rw [hfound, Store.remove_of_absent hcontains]
      exact habsent

theorem ensures_setTag {ids : List RecordId} {property : String} {raw : List Value}
    {post : Nat → Library → Prop} (hrefused : refused l)
    (hpost : ∀ (values : List Value) (count : Nat) (store : Store),
      l.catalog.validate property raw = .ok values →
      l.store.setValues ids property values = .ok (count, store) →
      post count { l with store, parameters := (l.parameters.notifyModified property true).2 }) :
    Ensures (setTag ids property raw) l post refused := by
  unfold setTag
  refine ensures_bind.mpr (ensures_get.mpr ?_)
  refine ensures_bind.mpr (ensures_check (fun values hvalues => ?_) fun e _ => hrefused)
  refine ensures_bind.mpr (ensures_check (fun answer hanswer => ?_) fun e _ => hrefused)
  exact hpost values answer.1 answer.2 hvalues hanswer

/-! ### Definitions -/

/-- A change is refused by the catalog, or by the records that would have to follow it. -/
theorem ensures_changeCatalog {f : Catalog → Except SchemaError (Catalog × CatalogChange)}
    {post : CatalogChange → Library → Prop}
    (hrefused : ∀ e, f l.catalog = .error e → refused l)
    (hheld : ∀ (catalog : Catalog) (change : CatalogChange) (e : StoreError),
      f l.catalog = .ok (catalog, change) → l.store.applyChange change = .error e → refused l)
    (hpost : ∀ (catalog : Catalog) (change : CatalogChange) (count : Nat) (store : Store),
      f l.catalog = .ok (catalog, change) → l.store.applyChange change = .ok (count, store) →
      post change ⟨store.keepDefinitions catalog change, catalog, l.parameters.forceUpdate⟩) :
    Ensures (changeCatalog f) l post refused := by
  unfold changeCatalog commit
  refine ensures_bind.mpr (ensures_get.mpr ?_)
  refine ensures_bind.mpr (ensures_check (fun answer hanswer => ?_) hrefused)
  obtain ⟨catalog, change⟩ := answer
  refine ensures_bind.mpr (ensures_bind.mpr (ensures_get.mpr ?_))
  refine ensures_bind.mpr (ensures_check (fun applied happlied => ?_) fun e =>
    hheld catalog change e hanswer)
  exact hpost catalog change applied.1 applied.2 hanswer happlied

/-- A change that neither the catalog nor the records refuse is taken over. -/
theorem ensures_changeCatalog_of_ok
    {f : Catalog → Except SchemaError (Catalog × CatalogChange)} {catalog : Catalog}
    {change : CatalogChange} {count : Nat} {store : Store} {post : CatalogChange → Library → Prop}
    (hf : f l.catalog = .ok (catalog, change))
    (hs : l.store.applyChange change = .ok (count, store))
    (hpost : post change
      ⟨store.keepDefinitions catalog change, catalog, l.parameters.forceUpdate⟩) :
    Ensures (changeCatalog f) l post refused := by
  refine ensures_changeCatalog (fun e he => ?_) (fun _ _ e hf' hs' => ?_)
    fun _ _ _ _ hf' hs' => ?_
  · cases hf.symm.trans he
  · cases hf.symm.trans hf'
    cases hs.symm.trans hs'
  · cases hf.symm.trans hf'
    cases hs.symm.trans hs'
    exact hpost

variable {post : Unit → Library → Prop}

theorem ensures_defineProperty {name : String} {kind : Kind} {multiple : Bool}
    {enumeration : Option (List Value)} {default : Option Value} (hrefused : refused l)
    (hpost : ∀ (catalog : Catalog) (name : String) (count : Nat) (store : Store),
      l.catalog.Changes catalog (.defined name) →
      l.store.applyChange (.defined name) = .ok (count, store) →
      post () ⟨store.keepDefinitions catalog (.defined name), catalog,
        l.parameters.forceUpdate⟩) :
    Ensures (defineProperty name kind multiple enumeration default) l post refused := by
  unfold defineProperty
  refine ensures_bind.mpr (ensures_changeCatalog (fun _ _ => hrefused) (fun _ _ _ _ _ => hrefused)
    fun catalog change count store h hs => ?_)
  obtain ⟨hchanges, name, rfl⟩ := Catalog.changes_of_define h
  exact hpost catalog name count store hchanges hs

/-- Records always follow a new name. -/
theorem ensures_renameProperty {old new : String}
    (hrefused : ∀ e, l.catalog.rename old new = .error e → refused l)
    (hpost : ∀ (catalog : Catalog) (count : Nat) (store : Store),
      l.catalog.Changes catalog (.renamed old (Text.trim new)) →
      l.store.applyChange (.renamed old (Text.trim new)) = .ok (count, store) →
      post () ⟨store.keepDefinitions catalog (.renamed old (Text.trim new)), catalog,
        l.parameters.forceUpdate.renameGroupingProperty old (Text.trim new)⟩) :
    Ensures (renameProperty old new) l post refused := by
  unfold renameProperty
  have hfollows : ∀ (catalog : Catalog) (change : CatalogChange) (e : StoreError),
      l.catalog.rename old new = .ok (catalog, change) →
      l.store.applyChange change = .error e → refused l := by
    intro catalog change e h hs
    obtain ⟨_, rfl⟩ := Catalog.changes_of_rename h
    cases hs
  refine ensures_bind.mpr (ensures_changeCatalog hrefused hfollows
    fun catalog change count store h hs => ?_)
  obtain ⟨hchanges, rfl⟩ := Catalog.changes_of_rename h
  exact hpost catalog count store hchanges hs

theorem ensures_removeProperty {name : String} (hrefused : refused l)
    (hpost : ∀ (catalog : Catalog) (count : Nat) (store : Store),
      l.catalog.Changes catalog (.removed name) →
      l.store.applyChange (.removed name) = .ok (count, store) →
      post () ⟨store.keepDefinitions catalog (.removed name), catalog,
        if l.parameters.forceUpdate.groupsBy name true then
          l.parameters.forceUpdate.reset .grouping
        else l.parameters.forceUpdate⟩) :
    Ensures (removeProperty name) l post refused := by
  unfold removeProperty
  refine ensures_bind.mpr (ensures_changeCatalog (fun _ _ => hrefused) (fun _ _ _ _ _ => hrefused)
    fun catalog change count store h hs => ?_)
  obtain ⟨hchanges, rfl⟩ := Catalog.changes_of_remove h
  exact hpost catalog count store hchanges hs

theorem ensures_setMultiplicity {name : String} {multiple : Bool} (hrefused : refused l)
    (hpost : ∀ (catalog : Catalog) (count : Nat) (store : Store),
      l.catalog.Changes catalog (.multiplicity name multiple) →
      l.store.applyChange (.multiplicity name multiple) = .ok (count, store) →
      post () ⟨store.keepDefinitions catalog (.multiplicity name multiple), catalog,
        if multiple then l.parameters.forceUpdate
        else if (l.parameters.forceUpdate.notifyModified name true).1 then
          (l.parameters.forceUpdate.notifyModified name true).2.classifierReset
        else (l.parameters.forceUpdate.notifyModified name true).2⟩) :
    Ensures (setMultiplicity name multiple) l post refused := by
  unfold setMultiplicity
  refine ensures_bind.mpr (ensures_changeCatalog (fun _ _ => hrefused) (fun _ _ _ _ _ => hrefused)
    fun catalog change count store h hs => ?_)
  obtain ⟨hchanges, rfl⟩ := Catalog.changes_of_setMultiplicity h
  have hpost := hpost catalog count store hchanges hs
  cases multiple with
  | true => exact hpost
  | false => exact hpost

/-- Describing the properties may only change what is remembered of the descriptions. -/
theorem ensures_describeProperties {post : List Description → Library → Prop}
    (hpost : ∀ answer described, post answer { l with catalog := { l.catalog with described } }) :
    Ensures describeProperties l post refused := by
  unfold describeProperties
  refine ensures_modifyGet.mpr ?_
  unfold Catalog.describeAll
  cases l.catalog.described with
  | none => exact hpost _ _
  | some known => exact hpost known l.catalog.described

/-! ### Moved files -/

/-- Asking for moved files only changes what is remembered of them. -/
theorem ensures_moveIndex {post : MoveIndex → Library → Prop} :
    Ensures moveIndex l post refused ↔ post l.knownMoves l.withKnownMoves := Iff.rfl

theorem ensures_moveCandidates {id : RecordId} {post : List MoveDestination → Library → Prop} :
    Ensures (moveCandidates id) l post refused ↔
      post (l.knownMoves.candidates id) l.withKnownMoves :=
  ensures_bind

theorem ensures_moveLabel {id : RecordId} {post : Option String → Library → Prop} :
    Ensures (moveLabel id) l post refused ↔ post (l.knownMoves.label? id) l.withKnownMoves :=
  ensures_bind

/-- A move is refused before anything is changed.  Once the found record is removed nothing is
refused any more, for the missing record has been stored before. -/
theorem ensures_applyMove {missing found : RecordId} (hs : l.store.Sound)
    (hrefused : refused l.withKnownMoves)
    (hmoved : ∀ (record destination : Record) (id : RecordId) (store : Store),
      (∃ d ∈ l.knownMoves.candidates missing, d.recordId = found) →
      l.store.get? missing = some record → l.store.get? found = some destination →
      (l.store.remove found).2.insert
        { record with path := destination.path, flags := destination.flags } = .ok (id, store) →
      post () { l with store, parameters := l.parameters.forceUpdate }) :
    Ensures (applyMove missing found) l post refused := by
  unfold applyMove
  refine ensures_bind.mpr (ensures_moveCandidates.mpr ?_)
  refine ensures_ite (fun hlisted => ?_) fun _ => ensures_bind.mpr (ensures_throw.mpr hrefused)
  have hlisted : ∃ d ∈ l.knownMoves.candidates missing, d.recordId = found := by
    simpa using hlisted
  refine ensures_bind.mpr (ensures_get.mpr ?_)
  refine ensures_bind.mpr (ensures_check (fun record hrecord => ?_) fun e _ => hrefused)
  refine ensures_bind.mpr (ensures_check (fun destination hdestination => ?_)
    fun e _ => hrefused)
  have hrecord := Store.get?_of_require hrecord
  have hdestination := Store.get?_of_require hdestination
  have hstored := hs.insert_moved hrecord hdestination
  refine ensures_bind.mpr (ensures_changeStore.mpr (ensures_bind.mpr ?_))
  refine ensures_storeRecord (fun id store h => ?_) fun e h => ?_
  · exact ensures_forceUpdate.mpr
      (hmoved record destination id store hlisted hrecord hdestination h)
  · cases hstored.symm.trans h

end LibraryM

end MediaLibrary
