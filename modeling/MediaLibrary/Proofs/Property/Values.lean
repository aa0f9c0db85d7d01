/-
What comes of raw values.

Raw values come from outside: texts that were read, numbers of either sort, the same value twice.
Whether a property takes them and what it then holds can be said without following the check.
`Definition.Accepts` says the first of the raw values as they stand, and `FirstOccurrences` the
second.  The order in which a check goes about it then does not matter: two whole numbers that
become one float count as one value, and repeating all values once more changes nothing.
-/
import Mathlib.Data.List.Induction
import MediaLibrary.Proofs.Property.Definition

namespace MediaLibrary

/-! ### First occurrences -/

/-- The items of a list are kept once each, in the order in which they come for the first time. -/
structure FirstOccurrences {α : Type} [DecidableEq α] (all kept : List α) : Prop where
  mem : ∀ a, a ∈ kept ↔ a ∈ all
  ascending : kept.Pairwise fun a b => all.idxOf a < all.idxOf b

section

variable {α : Type} [DecidableEq α]

theorem eraseDups_concat (items : List α) (a : α) :
    (items ++ [a]).eraseDups = if a ∈ items then items.eraseDups else items.eraseDups ++ [a] := by
  have hone : [a].eraseDups = [a] := rfl
  rw [List.eraseDups_append]
  by_cases h : a ∈ items <;> simp [h, hone, List.removeAll]

/-- **What is left when repeated items are dropped are the first occurrences.**  By induction from
the end of the list: a further item comes after all others unless it is one of them. -/
theorem firstOccurrences_eraseDups (items : List α) : FirstOccurrences items items.eraseDups := by
  refine ⟨fun a => List.mem_eraseDups, ?_⟩
  induction items using List.reverseRecOn with
  | nil => exact .nil
  | append_singleton items a ih =>
      have hearlier : items.eraseDups.Pairwise fun b c =>
          (items ++ [a]).idxOf b < (items ++ [a]).idxOf c := by
        refine ih.imp_of_mem fun {b c} hb hc hlt => ?_
        rw [List.idxOf_append_of_mem (List.mem_eraseDups.mp hb),
          List.idxOf_append_of_mem (List.mem_eraseDups.mp hc)]
        exact hlt
      rw [eraseDups_concat]
      split
      · exact hearlier
      · rename_i hnew
        refine List.pairwise_append.mpr ⟨hearlier, List.pairwise_singleton _ a, fun b hb c hc => ?_⟩
        have hb : b ∈ items := List.mem_eraseDups.mp hb
        rw [List.mem_singleton.mp hc, List.idxOf_append_of_mem hb, List.idxOf_append_of_notMem hnew]
        exact Nat.lt_of_lt_of_le (List.idxOf_lt_length_of_mem hb) (Nat.le_add_right _ _)

/-- Repeating all items once more brings no new ones. -/
theorem eraseDups_append_self (items : List α) : (items ++ items).eraseDups = items.eraseDups := by
  have hnone : items.removeAll items = [] := by simp [List.removeAll]
  rw [List.eraseDups_append, hnone, List.eraseDups_nil, List.append_nil]

/-- One item at most is left if all items are the same. -/
theorem length_eraseDups_le_one_iff {items : List α} :
    items.eraseDups.length ≤ 1 ↔ ∀ a ∈ items, ∀ b ∈ items, a = b := by
  have hnodup := nodup_eraseDups items
  simp only [← List.mem_eraseDups (l := items)]
  generalize items.eraseDups = kept at hnodup
  match kept with
  | [] => simp
  | [a] => simp
  | a :: b :: rest =>
      have hne : a ≠ b := fun heq => (List.nodup_cons.mp hnodup).1 (heq ▸ List.mem_cons_self)
      refine iff_of_false (by simp) fun hsame => hne ?_
      exact hsame a (by simp) b (by simp)

end

/-! ### One value -/

namespace Value

/-- The value is of the kind that is asked for, or a whole number where floats are. -/
def Suits (value : Value) (kind : Kind) : Prop :=
  value.kind = kind ∨ value.kind = .int ∧ kind = .float

/-- The value as one of a kind: where floats are asked for, a whole number is the nearest one. -/
def widened (kind : Kind) : Value → Value
  | .int i => if kind = .float then .float (Binary64.ofInt i.toInt) else .int i
  | value => value

theorem coerce_eq_ok_iff {kind : Kind} {raw value : Value} :
    raw.coerce kind = .ok value ↔ raw.Suits kind ∧ value = raw.widened kind := by
  cases raw <;> cases kind <;> simp [coerce, Suits, widened, Value.kind, eq_comm]

end Value

namespace Definition

variable {d : Definition} {raw values : List Value}

/-- The property takes the raw value, if it takes it alone. -/
structure Takes (d : Definition) (raw : Value) : Prop where
  suits : raw.Suits d.kind
  member : ∀ members, d.enumeration = some members → raw.widened d.kind ∈ members

theorem conform_eq_ok_iff (raw value : Value) :
    d.conform raw = .ok value ↔ d.Takes raw ∧ value = raw.widened d.kind := by
  have hmember : d.enumeration.all (raw.widened d.kind ∈ ·) = true ↔
      ∀ members, d.enumeration = some members → raw.widened d.kind ∈ members := by
    cases d.enumeration <;> simp
  constructor
  · intro h
    obtain ⟨coerced, hcoerced, h⟩ := Checked.exists_of_bind_ok h
    obtain ⟨hsuits, rfl⟩ := Value.coerce_eq_ok_iff.mp (Checked.ok_of_mapError_ok hcoerced)
    split at h
    · rename_i hall
      cases h
      exact ⟨⟨hsuits, hmember.mp hall⟩, rfl⟩
    · cases h
  · rintro ⟨htakes, rfl⟩
    rw [conform, Value.coerce_eq_ok_iff.mpr ⟨htakes.suits, rfl⟩]
    exact if_pos (hmember.mpr htakes.member)

/-! ### All values -/

/-- The property takes the raw values: it takes each of them, and they all come to one value where
there may be one only. -/
structure Accepts (d : Definition) (raw : List Value) : Prop where
  takes : ∀ value ∈ raw, d.Takes value
  single : d.multiple = false →
    ∀ value ∈ raw, ∀ other ∈ raw, value.widened d.kind = other.widened d.kind

/-- **What the check comes to.** -/
theorem validate_eq_ok_iff :
    d.validate raw = .ok values ↔
      d.Accepts raw ∧ values = (raw.map (Value.widened d.kind)).eraseDups := by
  have hconform (conformed : List Value) : raw.mapM d.conform = .ok conformed ↔
      (∀ value ∈ raw, d.Takes value) ∧ conformed = raw.map (Value.widened d.kind) :=
    Checked.mapM_eq_ok_iff conform_eq_ok_iff raw
  have hsingle : (raw.map (Value.widened d.kind)).eraseDups.length ≤ 1 ↔
      ∀ value ∈ raw, ∀ other ∈ raw, value.widened d.kind = other.widened d.kind := by
    simp [length_eraseDups_le_one_iff]
  constructor
  · intro h
    obtain ⟨conformed, hconformed, h⟩ := Checked.exists_of_bind_ok h
    obtain ⟨htakes, rfl⟩ := (hconform conformed).mp hconformed
    dsimp only at h
    split at h
    · cases h
    · rename_i hfew
      cases h
      exact ⟨⟨htakes, fun hone => hsingle.mp (by simpa [hone] using hfew)⟩, rfl⟩
  · rintro ⟨haccepts, rfl⟩
    rw [validate, (hconform _).mpr ⟨haccepts.takes, rfl⟩]
    refine if_neg fun hseveral => ?_
    obtain ⟨hone, hseveral⟩ := (Bool.and_eq_true _ _).mp hseveral
    have hle := hsingle.mpr (haccepts.single (by simpa using hone))
    exact absurd (of_decide_eq_true hseveral) (Nat.not_lt.mpr hle)

/-- Values that are checked twice over are refused or held as those that are checked once. -/
theorem validate_append_self (d : Definition) (raw : List Value) :
    d.validate (raw ++ raw) = d.validate raw := by
  rw [validate, validate, List.mapM_append]
  cases raw.mapM d.conform with
  | error e => rfl
  | ok conformed =>
      show (if !d.multiple && 1 < (conformed ++ conformed).eraseDups.length then _ else _) = _
      rw [eraseDups_append_self]
      rfl

/-- **A property holds what it was given, each value once.**  Raw values are taken if and only if
each of them is of the kind of the property, or a whole number where that is floats, each is a
member of the enumeration if there is one, and they all come to one value where the property may
have one only.  What is then held are the first occurrences of the values that they come to, whole
numbers having become floats before they are compared.  These values are left as they are by
another check, and repeating all raw values once more makes no difference. -/
theorem checked_values_are_first_occurrences (d : Definition) (raw : List Value) :
    ((∃ values, d.validate raw = .ok values) ↔ d.Accepts raw) ∧
      (∀ values, d.validate raw = .ok values →
        FirstOccurrences (raw.map (Value.widened d.kind)) values ∧
          d.validate values = .ok values) ∧
      d.validate (raw ++ raw) = d.validate raw := by
  refine ⟨⟨?_, fun haccepts => ⟨_, validate_eq_ok_iff.mpr ⟨haccepts, rfl⟩⟩⟩, fun values h => ⟨?_, ?_⟩,
    d.validate_append_self raw⟩
  · rintro ⟨values, h⟩
    exact (validate_eq_ok_iff.mp h).1
  · rw [(validate_eq_ok_iff.mp h).2]
    exact firstOccurrences_eraseDups _
  · exact validate_of_admits (admits_of_validate h)

/-- The float after 2^53 is 2^53 + 2, so the number between them is taken for the one below. -/
example :
    let rate : Definition := ⟨"rate", .float, false, none, Kind.zero .float⟩
    rate.validate [.int 9007199254740992, .int 9007199254740993] =
      .ok [.float ⟨0x4340000000000000⟩] := by
  decide +kernel

end Definition

end MediaLibrary
