/-
Members found under their names.

What a structure is read from is looked up by name, and a name occurs once at most in an object
that is read at all.  So an object can be changed member by member: where one is left out the
field has its default, and where one is replaced only that field is read anew.

Numbers, lists and optional values are read back from what they are written as.
-/
import MediaLibrary.Json.Shape

namespace MediaLibrary.Json

/-! ### Changed members -/

/-- The value without the members that are missing. -/
def without (missing : String → Bool) : Json → Json
  | obj members => obj (members.filter fun m => !missing m.1)
  | j => j

/-- The value with another one in its members of a name. -/
def mapMember (name : String) (change : Json → Json) : Json → Json
  | obj members => obj (members.map fun m => if m.1 = name then (m.1, change m.2) else m)
  | j => j

/-- The written fields but those that are missing. -/
def Fields.without (missing : String → Bool) (f : Fields) : Fields :=
  ⟨f.written.filter fun m => !missing m.1⟩

/-- The written fields with another value in that of a name. -/
def Fields.mapMember (name : String) (change : Json → Json) (f : Fields) : Fields :=
  ⟨f.written.map fun m => if m.1 = name then (m.1, change m.2) else m⟩

variable {α : Type} {members : List (String × Json)} {names : List String} {name : String}

theorem lookup_cons_of_ne {first : String} {j : Json} (h : name ≠ first) :
    ((first, j) :: members).lookup name = members.lookup name := by
  have h : (name == first) = false := by simpa using h
  rw [List.lookup_cons, h]

theorem lookup_filter (missing : String → Bool) :
    (members.filter fun m => !missing m.1).lookup name =
      if missing name then none else members.lookup name := by
  induction members with
  | nil => simp
  | cons m rest ih =>
      obtain ⟨first, j⟩ := m
      rw [List.filter_cons]
      by_cases hfirst : name = first
      · subst hfirst
        cases hmissing : missing name with
        | true => simpa [hmissing] using ih
        | false => simp
      · rw [lookup_cons_of_ne hfirst, ← ih]
        split
        · exact lookup_cons_of_ne hfirst
        · rfl

theorem lookup_mapMember (changed : String) (change : Json → Json) :
    (members.map fun m => if m.1 = changed then (m.1, change m.2) else m).lookup name =
      if name = changed then (members.lookup name).map change else members.lookup name := by
  induction members with
  | nil => simp
  | cons m rest ih =>
      obtain ⟨first, j⟩ := m
      rw [List.map_cons]
      by_cases hfirst : name = first
      · subst hfirst
        split <;> simp
      · rw [lookup_cons_of_ne hfirst, ← ih]
        split <;> exact lookup_cons_of_ne hfirst

/-- An object is read if no field is written twice. -/
theorem fields?_obj {f : Fields} :
    (obj members).fields? names = some f ↔
      (∀ name ∈ names, countMember name members ≤ 1) ∧ ⟨members⟩ = f := by
  rw [fields?]
  split
  · rename_i htwice
    obtain ⟨name, hname, hcount⟩ := List.any_eq_true.mp htwice
    refine iff_of_false (by simp) fun ⟨honce, _⟩ => ?_
    exact absurd (honce name hname) (by simpa using hcount)
  · rename_i honce
    rw [Option.some.injEq]
    refine (and_iff_right fun name hname => ?_).symm
    have honce : ∀ name ∈ names, countMember name members ≤ 1 := by simpa using honce
    exact honce name hname

theorem fields?_of_nodup (h : (members.map Prod.fst).Nodup) :
    (obj members).fields? names = some ⟨members⟩ := by
  refine fields?_obj.mpr ⟨fun name _ => ?_, rfl⟩
  have hcount : countMember name members = (members.map Prod.fst).count name := by
    rw [List.count_eq_countP, List.countP_map]
    refine List.countP_congr fun m _ => ?_
    simp
  rw [hcount]
  exact List.nodup_iff_count.mp h name

theorem fields?_without (missing : String → Bool) {f : Fields}
    (h : (obj members).fields? names = some f) :
    ((obj members).without missing).fields? names = some (f.without missing) := by
  obtain ⟨honce, rfl⟩ := fields?_obj.mp h
  refine fields?_obj.mpr ⟨fun name hname => ?_, rfl⟩
  exact Nat.le_trans List.filter_sublist.countP_le (honce name hname)

theorem fields?_mapMember (changed : String) (change : Json → Json) {f : Fields}
    (h : (obj members).fields? names = some f) :
    ((obj members).mapMember changed change).fields? names =
      some (f.mapMember changed change) := by
  obtain ⟨honce, rfl⟩ := fields?_obj.mp h
  refine fields?_obj.mpr ⟨fun name hname => ?_, rfl⟩
  refine Nat.le_trans (Nat.le_of_eq ?_) (honce name hname)
  rw [countMember, countMember, List.countP_map]
  refine List.countP_congr fun m _ => ?_
  simp only [Function.comp_apply]
  split <;> rfl

/-! ### Fields -/

/-- Of what is read in steps, each step is read. -/
theorem bind_eq_some_iff {β : Type} {x : Option α} {next : α → Option β} {b : β} :
    x >>= next = some b ↔ ∃ a, x = some a ∧ next a = some b :=
  Option.bind_eq_some_iff

namespace Fields

variable {read : Json → Option α} {default a : α} {j : Json}

theorem withDefault_of_lookup (hj : members.lookup name = some j) (hread : read j = some a) :
    withDefault ⟨members⟩ name read default = some a := by
  rw [withDefault, hj]
  exact hread

variable {f : Fields}

/-- A missing field has its default, and any other is read as before. -/
theorem withDefault_without (missing : String → Bool)
    (h : f.withDefault name read default = some a) :
    (f.without missing).withDefault name read default =
      some (if missing name then default else a) := by
  rw [withDefault] at h ⊢
  rw [without, lookup_filter]
  cases missing name with
  | true => rfl
  | false => exact h

/-- A change of one field leaves the others as they were. -/
theorem withDefault_mapMember_of_ne {changed : String} (change : Json → Json)
    (hne : name ≠ changed) :
    (f.mapMember changed change).withDefault name read default =
      f.withDefault name read default := by
  rw [withDefault, withDefault, mapMember, lookup_mapMember, if_neg hne]

theorem withDefault_mapMember_self {change : Json → Json} (hj : f.written.lookup name = some j)
    (hread : read (change j) = some a) :
    (f.mapMember name change).withDefault name read default = some a := by
  refine withDefault_of_lookup ?_ hread
  rw [lookup_mapMember, if_pos rfl, hj, Option.map_some]

end Fields

/-! ### What is read back -/

theorem toUInt32?_ofUInt32 (n : UInt32) : toUInt32? (ofUInt32 n) = some n := by
  have hlt : n.toUInt64.toNat < UInt32.size := by
    rw [UInt32.toNat_toUInt64]
    exact n.toNat_lt
  rw [ofUInt32, toUInt32?, if_pos hlt, UInt32.toUInt32_toUInt64]

theorem int64OfInt?_toInt (i : Int64) : Text.int64OfInt? i.toInt = some i := by
  rw [Text.int64OfInt?, if_pos ⟨i.minValue_le_toInt, i.toInt_le⟩, Int64.ofInt_toInt]

theorem toInt64?_ofInt64 (i : Int64) : toInt64? (ofInt64 i) = some i := by
  rw [ofInt64]
  split
  · rename_i hnonneg
    have htoInt : (i.toUInt64.toNat : Int) = i.toInt := by
      rw [Int64.toNat_toUInt64_of_le hnonneg]
      exact Int.toNat_of_nonneg (Int64.le_iff_toInt_le.mp hnonneg)
    rw [toInt64?, htoInt, int64OfInt?_toInt]
  · rfl

theorem readList_map {read : Json → Option α} {write : α → Json} (items : List α)
    (h : ∀ a ∈ items, read (write a) = some a) :
    readList read (arr (items.map write)) = some items := by
  rw [readList]
  induction items with
  | nil => rfl
  | cons a rest ih =>
      rw [List.map_cons, List.mapM_cons, h a (by simp), ih fun b hb => h b (by simp [hb])]
      rfl

theorem readOption_of_ne_null {read : Json → Option α} {j : Json} (h : j ≠ null) :
    readOption read j = (read j).map some := by
  unfold readOption
  split
  · contradiction
  · rfl

theorem readOption_ofOption {read : Json → Option α} {write : α → Json} (a? : Option α)
    (hnull : ∀ a, write a ≠ null) (h : ∀ a, read (write a) = some a) :
    readOption read (ofOption write a?) = some a? := by
  cases a? with
  | none => rfl
  | some a => rw [ofOption, readOption_of_ne_null (hnull a), h, Option.map_some]

end MediaLibrary.Json
