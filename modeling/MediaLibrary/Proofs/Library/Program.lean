/-
How a program of the library ends.

An operation reads and changes the library step by step and may be refused at any step,
with what was changed before staying changed.  `Ensures` says how it ends, in either way.
There is one rule for each kind of step; an operation is reasoned about by following its
steps with the rules, and never by running it.
-/
import MediaLibrary.Library.Basic

namespace MediaLibrary.LibraryM

variable {α β : Type} {l : Library} {refused : Library → Prop}

/-- Run on a library, the program answers and leaves a library as `post` says, or is refused
and leaves one as `refused` says. -/
def Ensures (program : LibraryM α) (l : Library) (post : α → Library → Prop)
    (refused : Library → Prop) : Prop :=
  match program l with
  | .ok a l => post a l
  | .error _ l => refused l

/-- Run on a library, the program leaves one that meets a condition, however it ends. -/
abbrev Leaves (program : LibraryM α) (l : Library) (holds : Library → Prop) : Prop :=
  Ensures program l (fun _ => holds) holds

theorem Ensures.imp {program : LibraryM α} {post post' : α → Library → Prop}
    {refused' : Library → Prop} (h : Ensures program l post refused)
    (hpost : ∀ a l, post a l → post' a l) (hrefused : ∀ l, refused l → refused' l) :
    Ensures program l post' refused' := by
  unfold Ensures at *
  split at h
  · exact hpost _ _ h
  · exact hrefused _ h

/-- A program that answers leaves what it ensures. -/
theorem Ensures.of_ok {program : LibraryM α} {post : α → Library → Prop} {a : α} {l' : Library}
    (h : Ensures program l post refused) (hrun : program l = .ok a l') : post a l' := by
  unfold Ensures at h
  rwa [hrun] at h

/-- A program that is not refused answers. -/
theorem Ensures.exists_ok {program : LibraryM α} {post : α → Library → Prop}
    (h : Ensures program l post fun _ => False) : ∃ a l', program l = .ok a l' ∧ post a l' := by
  unfold Ensures at h
  cases hrun : program l with
  | ok a l' =>
      rw [hrun] at h
      exact ⟨a, l', rfl, h⟩
  | error e l' =>
      rw [hrun] at h
      exact h.elim

theorem Ensures.of_error {program : LibraryM α} {post : α → Library → Prop} {e : LibraryError}
    {l' : Library} (h : Ensures program l post refused) (hrun : program l = .error e l') :
    refused l' := by
  unfold Ensures at h
  rwa [hrun] at h

/-! ### Runs -/

section

variable {program : LibraryM β} {next : β → LibraryM α} {l' : Library}

theorem get_bind {next : Library → LibraryM α} : (get >>= next) l = next l l := rfl

/-- What is answered is gone on with. -/
theorem bind_of_ok {b : β} (h : program l = .ok b l') : (program >>= next) l = next b l' := by
  show EStateM.bind program next l = next b l'
  unfold EStateM.bind
  rw [h]

/-- Nothing is done after a refusal. -/
theorem bind_of_error {e : LibraryError} (h : program l = .error e l') :
    (program >>= next) l = .error e l' := by
  show EStateM.bind program next l = .error e l'
  unfold EStateM.bind
  rw [h]

end

/-! ### Steps -/

section

variable {post : α → Library → Prop}

theorem ensures_throw {e : LibraryError} :
    Ensures (throw e : LibraryM α) l post refused ↔ refused l := Iff.rfl

theorem ensures_bind {program : LibraryM β} {next : β → LibraryM α} :
    Ensures (program >>= next) l post refused ↔
      Ensures program l (fun b l => Ensures (next b) l post refused) refused := by
  show (match EStateM.bind program next l with
    | .ok a l => post a l
    | .error _ l => refused l) ↔ _
  unfold Ensures EStateM.bind
  cases program l <;> rfl

theorem ensures_map {program : LibraryM β} {f : β → α} :
    Ensures (f <$> program) l post refused ↔
      Ensures program l (fun b => post (f b)) refused := by
  show (match EStateM.map f program l with
    | .ok a l => post a l
    | .error _ l => refused l) ↔ _
  unfold Ensures EStateM.map
  cases program l <;> rfl

theorem ensures_get {post : Library → Library → Prop} :
    Ensures get l post refused ↔ post l l := Iff.rfl

theorem ensures_set {l' : Library} {post : PUnit → Library → Prop} :
    Ensures (set l') l post refused ↔ post ⟨⟩ l' := Iff.rfl

theorem ensures_modify {change : Library → Library} {post : PUnit → Library → Prop} :
    Ensures (modify change) l post refused ↔ post ⟨⟩ (change l) := Iff.rfl

theorem ensures_modifyGet {change : Library → α × Library} :
    Ensures (modifyGet change) l post refused ↔ post (change l).1 (change l).2 := Iff.rfl

/-- A result that is not refused is gone on with. -/
theorem ensures_check {ε : Type} {cause : ε → LibraryError} {result : Except ε α}
    (hpost : ∀ a, result = .ok a → post a l) (hrefused : ∀ e, result = .error e → refused l) :
    Ensures (check cause result) l post refused := by
  cases result with
  | error e => exact hrefused e rfl
  | ok a => exact hpost a rfl

theorem ensures_ite {condition : Prop} [Decidable condition] {program other : LibraryM α}
    (hthen : condition → Ensures program l post refused)
    (helse : ¬condition → Ensures other l post refused) :
    Ensures (if condition then program else other) l post refused := by
  split
  · rename_i h
    exact hthen h
  · rename_i h
    exact helse h

end

/-- What each item keeps is kept by all of them one after the other. -/
theorem leaves_mapM {step : α → LibraryM β} {keeps : Library → Prop} (items : List α)
    (hstep : ∀ a ∈ items, ∀ l, keeps l → Leaves (step a) l keeps) :
    ∀ {l : Library}, keeps l → Leaves (items.mapM step) l keeps := by
  induction items with
  | nil => intro l h; exact h
  | cons a rest ih =>
      intro l h
      rw [List.mapM_cons]
      refine ensures_bind.mpr ((hstep a (by simp) l h).imp (fun b l h => ?_) fun _ h => h)
      have hrest := ih (fun c hc => hstep c (by simp [hc])) h
      exact ensures_bind.mpr (hrest.imp (fun _ _ h => h) fun _ h => h)

/-! ### Steps of the library -/

theorem ensures_storeRecord {r : Record} {post : RecordId → Library → Prop}
    (hpost : ∀ id store, l.store.insert r = .ok (id, store) → post id { l with store })
    (hrefused : ∀ e, l.store.insert r = .error e → refused l) :
    Ensures (storeRecord r) l post refused := by
  unfold storeRecord
  rw [ensures_bind, ensures_get, ensures_bind]
  exact ensures_check (fun answer hanswer => hpost answer.1 answer.2 hanswer) hrefused

theorem ensures_changeStore {change : Store → α × Store} {post : α → Library → Prop} :
    Ensures (changeStore change) l post refused ↔
      post (change l.store).1 { l with store := (change l.store).2 } := Iff.rfl

theorem ensures_forceUpdate {post : PUnit → Library → Prop} :
    Ensures forceUpdate l post refused ↔
      post ⟨⟩ { l with parameters := l.parameters.forceUpdate } := Iff.rfl

end MediaLibrary.LibraryM
