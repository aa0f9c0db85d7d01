/-
From the layers of a view to filters.

The sources and the search of a view become one filter, and so does the membership
of a group.  Searching for terms asks an index, which may fail; where no record can
come from the sources, the index is not asked.
-/
import MediaLibrary.Grouping.Groups

namespace MediaLibrary

/-- An index from terms to the records that hold all, or any, of them. -/
abbrev TermIndex := List String → Combination → Except StoreError IdSet

namespace TermIndex

/-- The records with the terms of a text; a text without terms has none. -/
def textFilter (index : TermIndex) (text : String) (mode : Combination) :
    Except QueryError Filter :=
  match Text.terms text with
  | [] => .ok .never
  | terms => ((index terms mode).mapError .store).map .idIn

/-- The filter of a search layer. -/
def searchFilter (index : TermIndex) (search : Option Search) : Except QueryError Filter :=
  match search with
  | none => .ok .always
  | some s =>
    if s.isBlank then .ok .always
    else
      let text := Text.trim s.text
      match s.condition with
      | .id =>
        match Text.unsigned64? text with
        | none => .ok .never
        | some id => .ok (.idIn (Std.ExtTreeSet.ofList [id] compare))
      | .and => index.textFilter text .all
      | .or => index.textFilter text .any
      | .exact => do
        let terms ← index.textFilter text .all
        return .all [terms, .containsText text]

/-- The filter of the sources and the search layer together. -/
def viewFilter (index : TermIndex) (sources : List SourcePath) (search : Option Search) :
    Except QueryError Filter :=
  let bySource := sourcesFilter sources
  if bySource.isNever then .ok .never
  else (index.searchFilter search).map fun bySearch => .all [bySource, bySearch]

end TermIndex

/-- The records of a group on a basis, among those that passed the other layers. -/
def Basis.groupFilter (path : List Value) (group : Group) : Basis → Filter
  | field f =>
    match group.value with
    | some (.field value) => .fieldIs f value
    | _ => .never
  | single property default =>
    match group.value with
    | some (.property value) =>
      if value = default then .any [.holds property value, .lacks property]
      else .holds property value
    | _ => .lacks property
  | several property =>
    if group.classified then .holdsAll property path
    else match group.value with
      | some (.property value) => .holdsAll property (path ++ [value])
      | _ => if path.isEmpty then .lacks property else .never

/-- The records of a group, among those that passed the other layers. -/
def groupFilter (catalog : Catalog) (g : Grouping) (path : List Value) (group : Group) :
    Except QueryError Filter :=
  (g.basis catalog).map fun basis => basis.groupFilter path group

end MediaLibrary
