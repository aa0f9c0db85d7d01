/-
Names that mean nothing.

Kinds, fields, layers and the like are written by name.  A text that is none of the
names is refused with the noun that was expected.
-/

namespace MediaLibrary

/-- A text that should have been one of the names of something. -/
structure UnknownName where
  noun : String
  text : String
  deriving DecidableEq

/-- What the text should have named, and the text. -/
def UnknownName.message (e : UnknownName) : String :=
  s!"unknown {e.noun} '{e.text}'"

/-- The named thing, if there is one. -/
def UnknownName.orElse {α : Type} (noun text : String) : Option α → Except UnknownName α
  | some a => .ok a
  | none => .error ⟨noun, text⟩

end MediaLibrary
