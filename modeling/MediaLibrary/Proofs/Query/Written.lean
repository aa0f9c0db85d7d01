/-
Source paths and sort keys as they are written.

A path is written as the names of its segments with hyphens between them.  No name has a hyphen
or a blank at its ends, so what is written is cut into the same names, and naming a segment is
the only way to write it.  Reading goes through the pieces of a text in their order: it takes
those that are left when blanks are cut off and nothing remains of some, and is refused at the
first one that names no segment.  A text of which nothing is left is refused as a whole.

The hyphen in front of a sort key is its direction, and no name of a field begins with a sign.
-/
import MediaLibrary.Proofs.Checked
import MediaLibrary.Proofs.Text.Split
import MediaLibrary.Query.Source
import MediaLibrary.View.Sort

namespace MediaLibrary

/-! ### Segments -/

namespace SourceSegment

/-- The text is the name of a segment. -/
def IsName (text : String) : Prop :=
  ∃ segment : SourceSegment, segment.name = text

theorem ofName?_name (segment : SourceSegment) : ofName? segment.name = some segment := by
  cases segment <;> rfl

theorem name_of_ofName? {text : String} {segment : SourceSegment}
    (h : ofName? text = some segment) : segment.name = text := by
  rw [ofName?] at h
  simpa using List.find?_some h

/-- A segment is written by its name, and in no other way. -/
theorem ofText_eq_ok_iff {text : String} {segment : SourceSegment} :
    ofText text = .ok segment ↔ text = segment.name := by
  constructor
  · intro h
    unfold ofText at h
    split at h
    · rename_i hname
      cases h
      exact (name_of_ofName? hname).symm
    · cases h
  · rintro rfl
    rw [ofText, ofName?_name]

theorem isName_iff {text : String} : IsName text ↔ ∃ segment, ofText text = .ok segment :=
  exists_congr fun _ => eq_comm.trans ofText_eq_ok_iff.symm

theorem ofText_eq_error_iff {text : String} {e : QueryError} :
    ofText text = .error e ↔ ¬IsName text ∧ e = .unknownSource text := by
  rw [isName_iff, ofText]
  cases ofName? text with
  | some segment => simp
  | none => simp [eq_comm]

/-- What hyphens and blanks have to do with names: nothing. -/
theorem name_is_piece (segment : SourceSegment) :
    '-' ∉ segment.name.toList ∧ Text.trim segment.name = segment.name ∧
      segment.name.isEmpty = false := by
  cases segment <;> decide

end SourceSegment

/-! ### Paths -/

namespace SourcePath

open SourceSegment (IsName)

/-- A path is read from a text by its pieces, if there are some. -/
theorem ofText_eq {s : String} {segments : List SourceSegment}
    (h : (pieces s).mapM SourceSegment.ofText = .ok segments) :
    ofText s = if segments = [] then .error (.unknownSource s) else .ok ⟨segments⟩ := by
  rw [ofText, h]
  cases segments <;> rfl

theorem mapM_pieces_iff {s : String} {segments : List SourceSegment} :
    (pieces s).mapM SourceSegment.ofText = .ok segments ↔
      pieces s = segments.map SourceSegment.name :=
  Checked.mapM_eq_ok_iff_map (fun _ _ => SourceSegment.ofText_eq_ok_iff) (pieces s)

/-- **A text is read if its pieces are names, and there are some**; they are the names of the
segments. -/
theorem ofText_eq_ok_iff {s : String} {p : SourcePath} :
    ofText s = .ok p ↔ p.segments ≠ [] ∧ pieces s = p.segments.map SourceSegment.name := by
  constructor
  · intro h
    obtain ⟨segments, hsegments, _⟩ := Checked.exists_of_bind_ok h
    rw [ofText_eq hsegments] at h
    split at h
    · cases h
    · rename_i hne
      cases h
      exact ⟨hne, mapM_pieces_iff.mp hsegments⟩
  · rintro ⟨hne, hpieces⟩
    rw [ofText_eq (mapM_pieces_iff.mpr hpieces), if_neg hne]

/-- **A text without pieces is refused as a whole, and one with others at the first piece that
is no name.** -/
theorem ofText_eq_error_iff {s : String} {e : QueryError} :
    ofText s = .error e ↔ pieces s = [] ∧ e = .unknownSource s ∨
      ∃ earlier piece later, pieces s = earlier ++ piece :: later ∧
        (∀ name ∈ earlier, IsName name) ∧ ¬IsName piece ∧ e = .unknownSource piece := by
  have hread : (pieces s).mapM SourceSegment.ofText = .error e ↔
      ∃ earlier piece later, pieces s = earlier ++ piece :: later ∧
        (∀ name ∈ earlier, IsName name) ∧ ¬IsName piece ∧ e = .unknownSource piece := by
    simp only [Checked.mapM_eq_error_iff, SourceSegment.ofText_eq_error_iff,
      ← SourceSegment.isName_iff]
  rw [← hread]
  cases hpieces : (pieces s).mapM SourceSegment.ofText with
  | error e' =>
      have hne : pieces s ≠ [] := fun hc => by simp [hc, pure, Except.pure] at hpieces
      rw [ofText, hpieces]
      simp [hne, bind, Except.bind]
  | ok segments =>
      rw [ofText_eq hpieces, mapM_pieces_iff.mp hpieces]
      cases segments with
      | nil => simp [eq_comm]
      | cons first rest => simp

/-- The pieces of what is written are the names that were written. -/
theorem pieces_text {p : SourcePath} (h : p.segments ≠ []) :
    pieces p.text = p.segments.map SourceSegment.name := by
  have hsplits : Text.Splits '-' p.text (p.segments.map SourceSegment.name) := by
    refine ⟨rfl, List.forall_mem_map.mpr fun segment _ => segment.name_is_piece.1, ?_⟩
    simpa using h
  rw [pieces, ← hsplits.eq_split, List.map_map,
    List.map_congr_left fun segment _ => segment.name_is_piece.2.1]
  refine List.filter_eq_self.mpr (List.forall_mem_map.mpr fun segment _ => ?_)
  rw [segment.name_is_piece.2.2]
  rfl

end SourcePath

/-! ### Sort keys -/

/-- No name of a field begins with a sign, and there are no blanks around it, with or without a
sign in front. -/
theorem Field.name_is_read (f : Field) :
    SortKey.splitDirection f.name.toList = (false, f.name.toList) ∧
      (∀ sign ∈ ["", "-"], Text.trim (sign ++ f.name) = sign ++ f.name) ∧
      ofText? f.name = some f := by
  cases f <;> decide +kernel

/-- **A sort key is read back from its text.** -/
theorem SortKey.ofText_text (key : SortKey) : ofText key.text = .ok key := by
  obtain ⟨field, descending⟩ := key
  obtain ⟨hsign, htrim, hfield⟩ := field.name_is_read
  cases descending with
  | false =>
      have htext : text ⟨field, false⟩ = field.name := String.empty_append
      have htrim : Text.trim field.name = field.name := by simpa using htrim "" (by simp)
      rw [ofText, htext, htrim, hsign]
      dsimp only
      rw [String.ofList_toList, hfield]
  | true =>
      have htext : text ⟨field, true⟩ = "-" ++ field.name := rfl
      have hchars : ("-" ++ field.name).toList = '-' :: field.name.toList := by simp
      rw [ofText, htext, htrim "-" (by simp), hchars, splitDirection]
      dsimp only
      rw [String.ofList_toList, hfield]

/-! ### Texts and what they write -/

/-- How a text is read, if some pieces are left of it. -/
structure SourcePath.ReadBy (s : String) (pieces : List String) : Prop where
  read : ∀ p, ofText s = .ok p ↔ p.segments ≠ [] ∧ pieces = p.segments.map SourceSegment.name
  /-- It is not refused if there are pieces, and all of them are names. -/
  accepted : (∃ p, ofText s = .ok p) ↔
    pieces ≠ [] ∧ ∀ piece ∈ pieces, SourceSegment.IsName piece
  /-- What is refused is the text without pieces, or the first piece that is no name. -/
  refused : ∀ e, ofText s = .error e ↔ pieces = [] ∧ e = .unknownSource s ∨
    ∃ earlier piece later, pieces = earlier ++ piece :: later ∧
      (∀ name ∈ earlier, SourceSegment.IsName name) ∧ ¬SourceSegment.IsName piece ∧
      e = .unknownSource piece

theorem SourcePath.readBy_pieces (s : String) : ReadBy s (pieces s) := by
  refine ⟨fun p => ofText_eq_ok_iff, ?_, fun e => ofText_eq_error_iff⟩
  constructor
  · rintro ⟨p, hp⟩
    obtain ⟨hne, hpieces⟩ := ofText_eq_ok_iff.mp hp
    rw [hpieces]
    exact ⟨by simpa using hne, List.forall_mem_map.mpr fun segment _ => ⟨segment, rfl⟩⟩
  · rintro ⟨hne, hnames⟩
    cases hread : ofText s with
    | ok p => exact ⟨p, rfl⟩
    | error e =>
        rcases ofText_eq_error_iff.mp hread with ⟨hnone, _⟩ | ⟨_, piece, _, hpieces, _, hpiece, _⟩
        · exact absurd hnone hne
        · exact absurd (hnames piece (by simp [hpieces])) hpiece

/-- **Paths and sort keys are read as they are written.**  A path of some segments is read back
from its text.  Every text is cut at its hyphens in one way, and without the blanks around its
pieces, and without those that are then empty, it is read piece by piece.  And a sort key is read
back from its text, whatever text it was read from. -/
theorem paths_and_keys_are_read_as_written :
    (∀ p : SourcePath, p.segments ≠ [] → SourcePath.ofText p.text = .ok p) ∧
    (∀ s, ∃ parts, (∀ others, Text.Splits '-' s others ↔ others = parts) ∧
      SourcePath.ReadBy s ((parts.map Text.trim).filter (!·.isEmpty))) ∧
    ∀ s key, SortKey.ofText s = .ok key → SortKey.ofText key.text = .ok key := by
  refine ⟨fun p hp => ?_, fun s => ?_, fun _ key _ => key.ofText_text⟩
  · exact SourcePath.ofText_eq_ok_iff.mpr ⟨hp, SourcePath.pieces_text hp⟩
  · exact ⟨Text.split '-' s, fun _ => Text.splits_iff, SourcePath.readBy_pieces s⟩

/-- Names with underscores in a path, and the other name of a field in a sort key. -/
theorem unreadable_files_are_written_and_read :
    let p : SourcePath := ⟨[.unreadable, .notFound, .withoutThumbnails]⟩
    let key : SortKey := ⟨.length, true⟩
    p.segments ≠ [] ∧ SourcePath.ofText p.text = .ok p ∧
      SortKey.ofText " -duration " = .ok key ∧ SortKey.ofText key.text = .ok key := by
  intro p key
  obtain ⟨hpath, -, hkey⟩ := paths_and_keys_are_read_as_written
  have hread : SortKey.ofText " -duration " = .ok key := by rfl
  exact ⟨by decide, hpath p (by decide), hread, hkey _ key hread⟩

end MediaLibrary
