/-
The types that have a form in JSON.

`JsonForm` gives a type the form in which its values are written in JSON and from which
they are read.  All types of the domain that are exchanged with others have one.
-/
import MediaLibrary.Json.Property
import MediaLibrary.Json.View

namespace MediaLibrary

/-- Types whose values are written in JSON and read from it. -/
class JsonForm (α : Type) where
  /-- a value in JSON -/
  write : α → Json
  /-- the value that JSON stands for -/
  read? : Json → Option α

namespace JsonForm

instance : JsonForm Record := ⟨Record.toJson, Record.ofJson?⟩
instance : JsonForm Flags := ⟨Flags.toJson, Flags.ofJson?⟩
instance : JsonForm Field := ⟨Field.toJson, Field.ofJson?⟩
instance : JsonForm FieldValue := ⟨FieldValue.toJson, FieldValue.ofJson?⟩
instance : JsonForm Kind := ⟨Kind.toJson, Kind.ofJson?⟩
instance : JsonForm Value := ⟨Value.toJson, Value.ofJson?⟩
instance : JsonForm Definition := ⟨Definition.toJson, Definition.ofJson?⟩
instance : JsonForm Description := ⟨Description.toJson, Description.ofJson?⟩
instance : JsonForm SourceSegment := ⟨SourceSegment.toJson, SourceSegment.ofJson?⟩
instance : JsonForm SourcePath := ⟨SourcePath.toJson, SourcePath.ofJson?⟩
instance : JsonForm SearchCondition := ⟨SearchCondition.toJson, SearchCondition.ofJson?⟩
instance : JsonForm Search := ⟨Search.toJson, Search.ofJson?⟩
instance : JsonForm GroupOrder := ⟨GroupOrder.toJson, GroupOrder.ofJson?⟩
instance : JsonForm Grouping := ⟨Grouping.toJson, Grouping.ofJson?⟩
instance : JsonForm SortKey := ⟨SortKey.toJson, SortKey.ofJson?⟩
instance : JsonForm Layer := ⟨Layer.toJson, Layer.ofJson?⟩
instance : JsonForm Layers := ⟨Layers.toJson, Layers.ofJson?⟩
instance : JsonForm Selector := ⟨Selector.toJson, Selector.ofJson?⟩
instance : JsonForm PageRequest := ⟨PageRequest.toJson, PageRequest.ofJson?⟩

end JsonForm

end MediaLibrary
