/-
Programs that were carried out.

A command that was not refused went through all of its steps, and each of them left the
session in which the next one was run.  The rules here take such a program apart step by step;
an operation of the library changes the library and prints nothing.
-/
import MediaLibrary.Command.Session

namespace MediaLibrary.CommandM

variable {α β ε : Type} {s s' : Session}

/-- What was not refused went through both steps. -/
theorem exists_of_bind_ok {program : CommandM α} {next : α → CommandM β} {b : β}
    (h : (program >>= next) s = .ok b s') :
    ∃ a between, program s = .ok a between ∧ next a between = .ok b s' := by
  have h : EStateM.bind program next s = .ok b s' := h
  unfold EStateM.bind at h
  cases hrun : program s with
  | error e between =>
      rw [hrun] at h
      cases h
  | ok a between =>
      rw [hrun] at h
      exact ⟨a, between, rfl, h⟩

/-- What went through a check was gone on with where it stood. -/
theorem of_check_bind_ok {cause : ε → CommandError} {result : Except ε α} {next : α → CommandM β}
    {b : β} (h : (check cause result >>= next) s = .ok b s') :
    ∃ a, result = .ok a ∧ next a s = .ok b s' := by
  cases result with
  | error e => cases h
  | ok a => exact ⟨a, rfl, h⟩

theorem of_pure_ok {a b : α} (h : (pure a : CommandM α) s = .ok b s') : a = b ∧ s' = s := by
  cases h
  exact ⟨rfl, rfl⟩

/-- A step that may be left out: it was, or its check was passed and it was gone on with. -/
theorem of_unless_ok {skip : Bool} {cause : ε → CommandError} {result : Except ε α}
    {next : α → CommandM Unit}
    (h : (unless skip do let a ← check cause result; next a) s = .ok () s') :
    (skip = true ∧ s' = s) ∨ (skip = false ∧ ∃ a, result = .ok a ∧ next a s = .ok () s') := by
  cases skip with
  | true => exact Or.inl ⟨rfl, (of_pure_ok h).2⟩
  | false => exact Or.inr ⟨rfl, of_check_bind_ok h⟩

/-- An operation of the library prints nothing. -/
theorem of_onLibrary_ok {operation : LibraryM α} {a : α}
    (h : onLibrary operation s = .ok a s') :
    ∃ library, operation s.library = .ok a library ∧ s' = { s with library } := by
  unfold onLibrary EStateM.run at h
  cases hrun : operation s.library with
  | error e library =>
      rw [hrun] at h
      cases h
  | ok b library =>
      rw [hrun] at h
      cases h
      exact ⟨library, rfl, rfl⟩

end MediaLibrary.CommandM
