/-
Keys of tags.

Tags are kept under keys, and the tags of a property are looked for by the bytes with which its
name is written.  The length of the name stands in front of it.  So no key begins with these bytes
but those of the property itself, not even where one name begins with the other: the bytes of a
name are read back as that name and no other, whatever value follows.

The value is read back too.  Its kind comes first, and each kind has its own written form; so a key
says which tag it belongs to, and goes on saying so whatever is put behind it.  `Store.scan` looks
at nothing but keys, and collects what `Store.tagEntries` takes from the tags themselves.
-/
import MediaLibrary.Proofs.Bytes.Reads
import MediaLibrary.Store.Basic

namespace MediaLibrary

/-- The texts of the value have lengths that texts in memory can have. -/
def Value.Addressable : Value → Prop
  | .str s => Bytes.Addressable s
  | _ => True

open Bytes in
/-- **A value is read back**, whatever follows it. -/
theorem Value.reads_toBytes {value : Value} (h : value.Addressable) :
    Reads Value.read value.toBytes value := by
  have hkind : ∀ n, n ≤ 3 → Reads natural32 (ofNat n) n := fun n hn =>
    reads_natural32 (Nat.lt_of_le_of_lt hn (by decide))
  cases value with
  | bool b => exact (hkind 0 (by decide)).bind ((reads_bool b).map (reads_pure _))
  | int i => exact (hkind 1 (by decide)).bind ((reads_signed64 i).map (reads_pure _))
  | float x =>
      have hbits : x.bits.toNat < 256 ^ 8 := x.bits.toNat_lt
      refine (hkind 2 (by decide)).bind ((reads_fixed hbits).map ?_)
      rw [UInt64.ofNat_toNat]
      exact reads_pure _
  | str s => exact (hkind 3 (by decide)).bind ((reads_text h).map (reads_pure _))

namespace Tag

/-- The texts of the tag have lengths that texts in memory can have. -/
structure Addressable (t : Tag) : Prop where
  property : Bytes.Addressable t.property
  value : t.value.Addressable

variable {name : String} {tag : Tag}

/-- **A scan over the bytes of a name finds the tags of that property and no others.** -/
theorem keyStart_isPrefix_key (hname : Bytes.Addressable name)
    (htag : Bytes.Addressable tag.property) :
    keyStart name <+: tag.key ↔ tag.property = name := by
  constructor
  · rintro ⟨rest, hrest⟩
    have hsame : Bytes.ofText name ++ rest = Bytes.ofText tag.property ++ tag.value.toBytes := hrest
    exact ((Bytes.reads_text hname).cancel (Bytes.reads_text htag) hsame).1.symm
  · rintro rfl
    exact ⟨tag.value.toBytes, rfl⟩

/-- **A tag is read back from its key**, whatever follows the key. -/
theorem ofKey_key_append (h : tag.Addressable) (rest : List UInt8) :
    ofKey (tag.key ++ rest) = .ok tag := by
  have hreads : Bytes.Reads (do return Tag.mk (← Bytes.text) (← Value.read)) tag.key tag :=
    (Bytes.reads_text h.property).bind ((Value.reads_toBytes h.value).map (Bytes.reads_pure tag))
  rw [ofKey, Bytes.first, hreads rest]
  rfl

theorem ofKey_key (h : tag.Addressable) : ofKey tag.key = .ok tag := by
  have hread := ofKey_key_append h []
  rwa [List.append_nil] at hread

/-- Two tags have one key only if they are one tag. -/
theorem key_inj {tag' : Tag} (h : tag.Addressable) (h' : tag'.Addressable) :
    tag.key = tag'.key ↔ tag = tag' := by
  refine ⟨fun heq => ?_, congrArg key⟩
  have hread := ofKey_key h
  rw [heq, ofKey_key h'] at hread
  exact (Except.ok.inj hread).symm

end Tag

/-! ### Scans -/

/-- The entries of the index of tags whose keys begin with some bytes, each with the value that is
read from its key. -/
def Store.scan (s : Store) (start : List UInt8) : List (Value × IdList) :=
  s.tags.toList.filterMap fun (tag, ids) =>
    if start.isPrefixOf tag.key then (Tag.ofKey tag.key).toOption.map fun read => (read.value, ids)
    else none

/-- **A scan collects the entries of one property.** -/
theorem Store.scan_keyStart {s : Store} {name : String} (hname : Bytes.Addressable name)
    (htags : ∀ entry ∈ s.tags.toList, entry.1.Addressable) :
    s.scan (Tag.keyStart name) = s.tagEntries name := by
  rw [scan, tagEntries]
  generalize s.tags.toList = entries at htags
  induction entries with
  | nil => rfl
  | cons entry rest ih =>
      obtain ⟨tag, ids⟩ := entry
      obtain ⟨htag, hrest⟩ := List.forall_mem_cons.mp htags
      have hstart : (Tag.keyStart name).isPrefixOf tag.key = decide (tag.property = name) := by
        rw [Bool.eq_iff_iff, List.isPrefixOf_iff_prefix, decide_eq_true_eq]
        exact Tag.keyStart_isPrefix_key hname htag.property
      rw [List.filterMap_cons, List.filter_cons, ih hrest]
      dsimp only
      rw [hstart, Tag.ofKey_key htag]
      by_cases hproperty : tag.property = name <;> simp [hproperty, Except.toOption]

namespace Tag

/-- **Keys tell tags apart, and their beginnings tell properties apart.**  A tag is read back from
its key, be it of any kind and whatever follows, so that different tags have different keys.  A
key begins with the bytes of a name if and only if its tag is one of the property of that name,
and so a scan over these bytes collects the entries of that property and no others. -/
theorem keys_tell_tags_apart {tag : Tag} {name : String} (htag : tag.Addressable)
    (hname : Bytes.Addressable name) :
    (∀ rest, ofKey (tag.key ++ rest) = .ok tag) ∧
      (∀ tag' : Tag, tag'.Addressable → (tag.key = tag'.key ↔ tag = tag')) ∧
      (keyStart name <+: tag.key ↔ tag.property = name) ∧
      ∀ s : Store, (∀ entry ∈ s.tags.toList, entry.1.Addressable) →
        s.scan (keyStart name) = s.tagEntries name :=
  ⟨ofKey_key_append htag, fun _ => key_inj htag, keyStart_isPrefix_key hname htag.property,
    fun _ => Store.scan_keyStart hname⟩

/-- One name begins with the other, and the lowest of all numbers takes the longest form. -/
theorem keys_tell_moo_from_mood :
    let tag : Tag := ⟨"mood", .int Int64.minValue⟩
    ofKey (tag.key ++ [0, 255]) = .ok tag ∧ ¬keyStart "moo" <+: tag.key := by
  intro tag
  have hname : Bytes.Addressable "moo" := by unfold Bytes.Addressable; decide
  have htag : tag.Addressable := ⟨by unfold Bytes.Addressable; decide, trivial⟩
  obtain ⟨hread, _, hstart, _⟩ := keys_tell_tags_apart htag hname
  exact ⟨hread [0, 255], fun hprefix => absurd (hstart.mp hprefix) (by decide)⟩

end Tag

end MediaLibrary
