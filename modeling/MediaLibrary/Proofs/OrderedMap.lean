/-
Ordered lists, and maps whose values know their keys.

A list in strict order is determined by its members, whatever the order is.  That is how
lists made in different ways are shown to be the same list throughout.

Records are kept under their identifiers and definitions under their names, so the
values of such a map are all there is to it: putting them one after the other into an
empty map gives the map back.
-/
import Std.Data.ExtTreeMap
import Std.Data.ExtTreeSet

namespace MediaLibrary.OrderedMap

open Std

/-- **A list in strict order is determined by its members.** -/
theorem eq_of_mem_iff {α : Type} {R : α → α → Prop} (hasymm : ∀ a b, R a b → ¬R b a)
    {xs ys : List α} (hx : xs.Pairwise R) (hy : ys.Pairwise R) (h : ∀ a, a ∈ xs ↔ a ∈ ys) :
    xs = ys := by
  have hne : ∀ {a b}, R a b → a ≠ b := fun {a b} hab hc => by
    subst hc
    exact hasymm a a hab hab
  have hperm : xs.Perm ys := (List.perm_ext_iff_of_nodup (hx.imp hne) (hy.imp hne)).mpr h
  exact hperm.eq_of_pairwise (fun a b _ _ hab hba => absurd hba (hasymm a b hab)) hx hy

/-- **Of two elements of a sorted list the first one is less**, if no two of them tie: sorting
promises the weak order only. -/
theorem pairwise_lt_mergeSort {α : Type} {cmp : α → α → Ordering} [TransCmp cmp] {xs : List α}
    (hne : xs.Pairwise fun a b => cmp a b ≠ .eq) :
    (xs.mergeSort fun a b => (cmp a b).isLE).Pairwise fun a b => cmp a b = .lt := by
  have hsorted : (xs.mergeSort fun a b => (cmp a b).isLE).Pairwise fun a b => (cmp a b).isLE := by
    refine List.pairwise_mergeSort (fun a b c => TransCmp.isLE_trans) (fun a b => ?_) xs
    have hswap : cmp b a = (cmp a b).swap := OrientedCmp.eq_swap
    rw [hswap]
    cases cmp a b <;> rfl
  have hne : (xs.mergeSort fun a b => (cmp a b).isLE).Pairwise fun a b => cmp a b ≠ .eq := by
    refine (List.mergeSort_perm _ _).symm.pairwise hne fun {a b} hab hba => hab ?_
    exact OrientedCmp.eq_symm hba
  refine (hsorted.and hne).imp fun {a b} ⟨hle, hne⟩ => ?_
  exact (Ordering.isLE_iff_eq_lt_or_eq_eq.mp hle).resolve_right hne

variable {κ β : Type} [Ord κ] [LawfulEqOrd κ]

theorem compare_eq_iff {k k' : κ} : compare k k' = .eq ↔ k = k' :=
  ⟨LawfulEqOrd.eq_of_compare, fun h => by rw [h, ReflOrd.compare_self]⟩

variable [TransOrd κ]

theorem getElem?_insert [DecidableEq κ] (m : ExtTreeMap κ β) (k k' : κ) (b : β) :
    (m.insert k b)[k']? = if k = k' then some b else m[k']? := by
  simp only [ExtTreeMap.getElem?_insert, compare_eq_iff]

theorem getElem?_erase [DecidableEq κ] (m : ExtTreeMap κ β) (k k' : κ) :
    (m.erase k)[k']? = if k = k' then none else m[k']? := by
  simp only [ExtTreeMap.getElem?_erase, compare_eq_iff]

/-- **The entries of a map give the map back.** -/
theorem foldl_insert_toList [DecidableEq κ] (m : ExtTreeMap κ β) :
    m.toList.foldl (fun all e => all.insert e.1 e.2) ∅ = m := by
  rw [← ExtTreeMap.insertMany_list_eq_foldl]
  refine ExtTreeMap.ext_getElem? fun k => ?_
  cases hk : m[k]? with
  | none =>
      have hkeys : (m.toList.map Prod.fst).contains k = false := by
        rw [ExtTreeMap.map_fst_toList_eq_keys]
        simpa using hk
      rw [ExtTreeMap.getElem?_insertMany_list_of_contains_eq_false hkeys,
        ExtTreeMap.getElem?_empty]
  | some b =>
      exact ExtTreeMap.getElem?_insertMany_list_of_mem ReflOrd.compare_self
        ExtTreeMap.distinct_keys_toList (ExtTreeMap.mem_toList_iff_getElem?_eq_some.mpr hk)

/-- **Entries that are given in the order of their keys are listed as they are given.** -/
theorem toList_ofList [DecidableEq κ] {entries : List (κ × β)}
    (h : entries.Pairwise fun e e' => compare e.1 e'.1 = .lt) :
    (ExtTreeMap.ofList entries compare).toList = entries := by
  have hdistinct : entries.Pairwise fun e e' => ¬compare e.1 e'.1 = .eq :=
    h.imp fun hlt heq => by rw [hlt] at heq; cases heq
  have hfound : ∀ k v, (k, v) ∈ entries → (ExtTreeMap.ofList entries compare)[k]? = some v :=
    fun k v hmem => ExtTreeMap.getElem?_ofList_of_mem ReflOrd.compare_self hdistinct hmem
  refine eq_of_mem_iff (fun e e' hlt hgt => ?_) ExtTreeMap.ordered_keys_toList h fun ⟨k, v⟩ => ?_
  · have hswap : compare e'.1 e.1 = (compare e.1 e'.1).swap := OrientedCmp.eq_swap
    rw [hswap, hlt] at hgt
    cases hgt
  rw [ExtTreeMap.mem_toList_iff_getElem?_eq_some]
  refine ⟨fun hget => ?_, hfound k v⟩
  by_cases hmem : k ∈ entries.map Prod.fst
  · obtain ⟨⟨_, v'⟩, hentry, rfl⟩ := List.mem_map.mp hmem
    cases hget.symm.trans (hfound _ v' hentry)
    exact hentry
  · rw [ExtTreeMap.getElem?_ofList_of_contains_eq_false (by simpa using hmem)] at hget
    cases hget

/-- The values of a map in the order of their keys. -/
abbrev values (m : ExtTreeMap κ β) : List β := m.toList.map Prod.snd

/-- Each value is kept under the key that it names. -/
def Keyed (key : β → κ) (m : ExtTreeMap κ β) : Prop :=
  ∀ (k : κ) (b : β), m[k]? = some b → key b = k

theorem Keyed.insert [DecidableEq κ] {key : β → κ} {m : ExtTreeMap κ β} (h : Keyed key m) (b : β) :
    Keyed key (m.insert (key b) b) := by
  intro k c hc
  rw [getElem?_insert] at hc
  split at hc
  · rename_i heq
    cases hc
    exact heq
  · exact h k c hc

theorem Keyed.erase [DecidableEq κ] {key : β → κ} {m : ExtTreeMap κ β} (h : Keyed key m) (k : κ) :
    Keyed key (m.erase k) := by
  intro k' c hc
  rw [getElem?_erase] at hc
  split at hc
  · cases hc
  · exact h k' c hc

theorem mem_values {key : β → κ} {m : ExtTreeMap κ β} (h : Keyed key m) {b : β} :
    b ∈ values m ↔ m[key b]? = some b := by
  constructor
  · intro hb
    obtain ⟨⟨k, b'⟩, hmem, rfl⟩ := List.mem_map.mp hb
    rw [ExtTreeMap.mem_toList_iff_getElem?_eq_some] at hmem
    rw [h k b' hmem]
    exact hmem
  · intro hb
    exact List.mem_map.mpr ⟨(key b, b), ExtTreeMap.mem_toList_iff_getElem?_eq_some.mpr hb, rfl⟩

/-- The keys that the values name ascend. -/
theorem map_key_values {key : β → κ} {m : ExtTreeMap κ β} (h : Keyed key m) :
    (values m).map key = m.keys := by
  rw [List.map_map, ← ExtTreeMap.map_fst_toList_eq_keys]
  refine List.map_congr_left fun p hp => ?_
  exact h p.1 p.2 (ExtTreeMap.mem_toList_iff_getElem?_eq_some.mp hp)

/-! ### Putting values one after the other into a map -/

private theorem getElem?_foldl_insert_of_forall_ne {key : β → κ} {k : κ} (bs : List β) :
    ∀ m : ExtTreeMap κ β, (∀ b ∈ bs, key b ≠ k) →
      (bs.foldl (fun all b => all.insert (key b) b) m)[k]? = m[k]? := by
  induction bs with
  | nil => intro m _; rfl
  | cons b rest ih =>
      intro m hne
      rw [List.foldl_cons, ih _ (fun c hc => hne c (by simp [hc])), ExtTreeMap.getElem?_insert,
        if_neg fun hc => hne b (by simp) (compare_eq_iff.mp hc)]

private theorem getElem?_foldl_insert_of_mem {key : β → κ} {v : β} (bs : List β) :
    ∀ m : ExtTreeMap κ β, (∀ b ∈ bs, key b = key v → b = v) → v ∈ bs →
      (bs.foldl (fun all b => all.insert (key b) b) m)[key v]? = some v := by
  induction bs with
  | nil => intro m _ hv; simp at hv
  | cons b rest ih =>
      intro m hunique hv
      have hrest : ∀ c ∈ rest, key c = key v → c = v := fun c hc => hunique c (by simp [hc])
      rw [List.foldl_cons]
      by_cases hmem : v ∈ rest
      · exact ih _ hrest hmem
      · -- The last occurrence of the key is at the front, and nothing overwrites it.
        obtain rfl : v = b := by simpa [hmem] using hv
        have hne : ∀ c ∈ rest, key c ≠ key v := fun c hc hk => hmem (hrest c hc hk ▸ hc)
        rw [getElem?_foldl_insert_of_forall_ne rest _ hne, ExtTreeMap.getElem?_insert_self]

/-- **The values of a map give the map back.** -/
theorem foldl_insert_values {key : β → κ} {m : ExtTreeMap κ β} (h : Keyed key m) :
    (values m).foldl (fun all b => all.insert (key b) b) ∅ = m := by
  refine ExtTreeMap.ext_getElem? fun k => ?_
  cases hk : m[k]? with
  | none =>
      have hne : ∀ b ∈ values m, key b ≠ k := by
        intro b hb hkey
        have hb := (mem_values h).mp hb
        rw [hkey, hk] at hb
        simp at hb
      rw [getElem?_foldl_insert_of_forall_ne _ _ hne, ExtTreeMap.getElem?_empty]
  | some v =>
      have hkey : key v = k := h k v hk
      subst hkey
      have hunique : ∀ b ∈ values m, key b = key v → b = v := by
        intro b hb hkey
        have hb := (mem_values h).mp hb
        rw [hkey, hk] at hb
        exact (Option.some.inj hb).symm
      exact getElem?_foldl_insert_of_mem _ _ hunique ((mem_values h).mpr hk)

end MediaLibrary.OrderedMap
