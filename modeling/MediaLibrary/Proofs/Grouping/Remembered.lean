/-
Groups that are computed once.

A memo is asked for groups, and is told from time to time that what it remembers is out of date.
Whether an answer is the right one cannot be read off the memo: it depends on what was computed,
and when.  So the computations that are run are recorded here, together with the times at which
everything before them became out of date, and the answers are compared with this record.

What becomes out of date need not be dropped.  It may be kept for any time, and any part of it
may go at any moment.  None of it is found again, because no entry is of a generation that is
still to come, and a lookup is for the generation of now.
-/
import Mathlib.Data.List.DropRight
import Mathlib.Data.List.Induction
import MediaLibrary.Grouping.Memo

namespace MediaLibrary

/-- A filter that keeps the entries of a key does not change what is found under it. -/
private theorem lookup_filter_of_keeps {α β : Type} [BEq α] [LawfulBEq α] {p : α × β → Bool} {k : α}
    (h : ∀ e : α × β, e.1 = k → p e = true) (entries : List (α × β)) :
    (entries.filter p).lookup k = entries.lookup k := by
  induction entries with
  | nil => rfl
  | cons e rest ih =>
      by_cases hkey : k = e.1
      · rw [List.filter_cons_of_pos (h e hkey.symm), List.lookup_cons, List.lookup_cons, ih]
      · have hskip : (e :: rest).lookup k = rest.lookup k := by
          rw [List.lookup_cons, beq_false_of_ne hkey]
        rw [hskip, ← ih, List.filter_cons]
        split
        · rw [List.lookup_cons, beq_false_of_ne hkey]
        · rfl

namespace GroupMemo

variable {m : GroupMemo} {key : GroupingKey} {keep : (Nat × GroupingKey) × List Group → Bool}

/-! ### What is found -/

theorem find?_of_entries_eq_nil (h : m.entries = []) (key : GroupingKey) :
    m.find? key = none := by
  rw [find?, h]
  rfl

theorem find?_insert (m : GroupMemo) (key : GroupingKey) (groups : List Group)
    (other : GroupingKey) :
    (m.insert key groups).find? other = if key = other then some groups else m.find? other := by
  rw [find?, insert, List.lookup_cons]
  by_cases h : key = other
  · simp [h]
  · have hne : ((m.generation, other) == (m.generation, key)) = false := by
      simpa using Ne.symm h
    simp [h, hne, find?]

theorem find?_insert_self (m : GroupMemo) (key : GroupingKey) (groups : List Group) :
    (m.insert key groups).find? key = some groups := by
  rw [find?_insert, if_pos rfl]

/-- Drops entries of former generations, except for those that are to be kept. -/
def evict (keep : (Nat × GroupingKey) × List Group → Bool) (m : GroupMemo) : GroupMemo :=
  { m with entries := m.entries.filter fun e => e.1.1 == m.generation || keep e }

theorem find?_evict (m : GroupMemo) (key : GroupingKey) :
    (m.evict keep).find? key = m.find? key := by
  refine lookup_filter_of_keeps (fun e he => ?_) m.entries
  have hgeneration : e.1.1 = m.generation := congrArg Prod.fst he
  simp [hgeneration]

/-- No entry is of a generation that is still to come. -/
def Past (m : GroupMemo) : Prop := ∀ e ∈ m.entries, e.1.1 ≤ m.generation

/-- **Nothing is found in a new generation**, whatever is kept of the old ones. -/
theorem find?_invalidateKeeping (h : m.Past) (key : GroupingKey) :
    (m.invalidateKeeping keep).find? key = none := by
  refine List.lookup_eq_none_iff.mpr fun e he => ?_
  have hpast := h e (List.mem_of_mem_filter he)
  have hne : (m.generation + 1, key) ≠ e.1 := fun hc => by
    have hgeneration := congrArg Prod.fst hc
    omega
  exact bne_iff_ne.mpr hne

/-! ### Generations as words -/

/-- What is found if a generation is a word of 64 bits. -/
def findByWord? (m : GroupMemo) (key : GroupingKey) : Option (List Group) :=
  (m.entries.map fun e => ((UInt64.ofNat e.1.1, e.1.2), e.2)).lookup
    (UInt64.ofNat m.generation, key)

/-- Words tell the generations apart until there are more of them than words. -/
theorem findByWord?_eq_find? (h : m.Past) (hword : m.generation < UInt64.size) :
    m.findByWord? key = m.find? key := by
  have hsame : ∀ e ∈ m.entries,
      ((UInt64.ofNat m.generation, key) == (UInt64.ofNat e.1.1, e.1.2)) =
        ((m.generation, key) == e.1) := by
    intro e he
    have hgeneration := h e he
    have hiff : UInt64.ofNat m.generation = UInt64.ofNat e.1.1 ↔ m.generation = e.1.1 := by
      rw [← UInt64.toNat_inj, UInt64.toNat_ofNat_of_lt' hword,
        UInt64.toNat_ofNat_of_lt' (by omega)]
    rw [Bool.eq_iff_iff, beq_iff_eq, beq_iff_eq, Prod.ext_iff, Prod.ext_iff, hiff]
  unfold findByWord? find?
  generalize m.entries = entries at hsame
  induction entries with
  | nil => rfl
  | cons e rest ih =>
      rw [List.map_cons, List.lookup_cons, List.lookup_cons, hsame e List.mem_cons_self,
        ih fun e he => hsame e (List.mem_cons_of_mem _ he)]

end GroupMemo

/-! ### What has been computed -/

/-- Something that happens around a memo: a computation is run, or all before becomes out of
date. -/
inductive MemoEvent where
  | computed (key : GroupingKey) (outcome : Except QueryError (List Group))
  | invalidated

namespace MemoEvent

variable {log : List MemoEvent} {key : GroupingKey}

/-- Whether a computation was run. -/
def isComputed : MemoEvent → Bool
  | .computed .. => true
  | .invalidated => false

/-- The groups that were computed for a key. -/
def groupsFor? (key : GroupingKey) : MemoEvent → Option (List Group)
  | .computed key' (.ok groups) => if key' = key then some groups else none
  | _ => none

/-- The computations since everything before became out of date. -/
def sinceInvalidation (log : List MemoEvent) : List MemoEvent := log.rtakeWhile isComputed

/-- The result of the first of these that succeeded for a key. -/
def firstSince (log : List MemoEvent) (key : GroupingKey) : Option (List Group) :=
  (sinceInvalidation log).findSome? (groupsFor? key)

theorem firstSince_invalidated : firstSince (log ++ [.invalidated]) key = none := by
  rw [firstSince, sinceInvalidation, List.rtakeWhile_concat_neg _ _ _ (by simp [isComputed])]
  rfl

theorem sinceInvalidation_computed {outcome : Except QueryError (List Group)} :
    sinceInvalidation (log ++ [.computed key outcome]) =
      sinceInvalidation log ++ [.computed key outcome] :=
  List.rtakeWhile_concat_pos _ _ _ rfl

theorem firstSince_computed {key' : GroupingKey} {outcome : Except QueryError (List Group)} :
    firstSince (log ++ [.computed key' outcome]) key =
      (firstSince log key).or (groupsFor? key (.computed key' outcome)) := by
  rw [firstSince, sinceInvalidation_computed, List.findSome?_append, List.findSome?_singleton,
    firstSince]

theorem mem_of_firstSince {groups : List Group} (h : firstSince log key = some groups) :
    .computed key (.ok groups) ∈ sinceInvalidation log := by
  obtain ⟨e, he, hgroups⟩ := List.exists_of_findSome?_eq_some h
  unfold groupsFor? at hgroups
  split at hgroups
  · split at hgroups
    · rename_i hkey
      cases hgroups
      exact hkey ▸ he
    · cases hgroups
  · cases hgroups

end MemoEvent

/-! ### Calls -/

/-- Something that is done with a memo.  What is kept of former generations is up to whoever
keeps the entries. -/
inductive MemoCall where
  | groups (key : GroupingKey) (outcome : Except QueryError (List Group))
  | invalidate (keep : (Nat × GroupingKey) × List Group → Bool)
  | evict (keep : (Nat × GroupingKey) × List Group → Bool)

/-- A memo, and all that has happened around it. -/
structure RecordedMemo where
  memo : GroupMemo := {}
  log : List MemoEvent := []

namespace RecordedMemo

open MemoEvent

variable {r : RecordedMemo} {key : GroupingKey} {outcome : Except QueryError (List Group)}

/-- Runs a computation, and records that it is run. -/
def recorded (key : GroupingKey) (outcome : Except QueryError (List Group)) :
    StateM (List MemoEvent) (Except QueryError (List Group)) := do
  modify (· ++ [.computed key outcome])
  return outcome

/-- Asks for groups, with a computation that would come out in some way. -/
def ask (r : RecordedMemo) (key : GroupingKey) (outcome : Except QueryError (List Group)) :
    Except QueryError (List Group) × RecordedMemo :=
  let ((answer, memo), log) := (r.memo.groupsWithM key fun _ => recorded key outcome).run r.log
  (answer, ⟨memo, log⟩)

/-- What a call makes of a memo. -/
def after (r : RecordedMemo) : MemoCall → RecordedMemo
  | .groups key outcome => (r.ask key outcome).2
  | .invalidate keep => ⟨r.memo.invalidateKeeping keep, r.log ++ [.invalidated]⟩
  | .evict keep => { r with memo := r.memo.evict keep }

/-- What some calls make of a memo that is new. -/
def afterAll (calls : List MemoCall) : RecordedMemo := calls.foldl after {}

theorem ask_of_some {groups : List Group} (h : r.memo.find? key = some groups) :
    r.ask key outcome = (.ok groups, r) := by
  unfold ask GroupMemo.groupsWithM
  rw [h]
  rfl

theorem ask_ok_of_none {groups : List Group} (h : r.memo.find? key = none) :
    r.ask key (.ok groups) =
      (.ok groups, ⟨r.memo.insert key groups, r.log ++ [.computed key (.ok groups)]⟩) := by
  unfold ask GroupMemo.groupsWithM
  rw [h]
  rfl

theorem ask_error_of_none {e : QueryError} (h : r.memo.find? key = none) :
    r.ask key (.error e) = (.error e, ⟨r.memo, r.log ++ [.computed key (.error e)]⟩) := by
  unfold ask GroupMemo.groupsWithM
  rw [h]
  rfl

/-- Recording makes no difference to the answer, nor to what is remembered. -/
theorem groupsWith_eq_ask (r : RecordedMemo) (key : GroupingKey)
    (outcome : Except QueryError (List Group)) :
    r.memo.groupsWith key (fun _ => outcome) =
      ((r.ask key outcome).1, (r.ask key outcome).2.memo) := by
  unfold ask GroupMemo.groupsWith GroupMemo.groupsWithM
  cases r.memo.find? key with
  | some groups => rfl
  | none => cases outcome <;> rfl

/-- **A computation that fails leaves no entry.** -/
theorem memo_of_ask_error {e : QueryError} (h : (r.ask key outcome).1 = .error e) :
    outcome = .error e ∧ (r.ask key outcome).2.memo = r.memo ∧
      (r.ask key outcome).2.memo.contains key = false := by
  cases hfind : r.memo.find? key with
  | some groups =>
      rw [ask_of_some hfind] at h
      cases h
  | none =>
      cases outcome with
      | error e' =>
          rw [ask_error_of_none hfind] at h ⊢
          cases h
          exact ⟨rfl, rfl, by rw [GroupMemo.contains, hfind]; rfl⟩
      | ok groups =>
          rw [ask_ok_of_none hfind] at h
          cases h

/-! ### What all calls keep -/

/-- What is found is what the record says, and nothing is ahead of its time. -/
structure Follows (r : RecordedMemo) : Prop where
  found : ∀ key, r.memo.find? key = firstSince r.log key
  past : r.memo.Past

/-- **A step**: no call makes the memo differ from its record. -/
theorem Follows.after (h : r.Follows) (call : MemoCall) : (r.after call).Follows := by
  cases call with
  | groups key outcome =>
      cases hfind : r.memo.find? key with
      | some groups => rwa [RecordedMemo.after, ask_of_some hfind]
      | none =>
          have hfirst : firstSince r.log key = none := (h.found key).symm.trans hfind
          cases outcome with
          | error e =>
              rw [RecordedMemo.after, ask_error_of_none hfind]
              refine ⟨fun other => ?_, h.past⟩
              rw [firstSince_computed, h.found other]
              exact Option.or_none.symm
          | ok groups =>
              rw [RecordedMemo.after, ask_ok_of_none hfind]
              refine ⟨fun other => ?_, List.forall_mem_cons.mpr ⟨Nat.le_refl _, h.past⟩⟩
              rw [GroupMemo.find?_insert, firstSince_computed, h.found other, groupsFor?]
              split
              · rename_i heq
                rw [← heq, hfirst, Option.none_or]
              · rw [Option.or_none]
  | invalidate keep =>
      refine ⟨fun other => ?_, fun e he => ?_⟩
      · rw [RecordedMemo.after, firstSince_invalidated]
        exact GroupMemo.find?_invalidateKeeping h.past other
      · exact Nat.le_succ_of_le (h.past e (List.mem_of_mem_filter he))
  | evict keep =>
      refine ⟨fun other => ?_, fun e he => h.past e (List.mem_of_mem_filter he)⟩
      exact (GroupMemo.find?_evict r.memo other).trans (h.found other)

/-- **A run**: after any calls the memo is as its record says. -/
theorem afterAll_follows (calls : List MemoCall) : (afterAll calls).Follows := by
  induction calls using List.reverseRecOn with
  | nil => exact ⟨fun _ => rfl, fun e he => nomatch he⟩
  | append_singleton calls call ih =>
      rw [afterAll, List.foldl_append]
      exact ih.after call

/-! ### Answers -/

/-- **Groups that have been computed are not computed again.** -/
theorem Follows.ask_of_firstSince {groups : List Group} (h : r.Follows)
    (hfirst : firstSince r.log key = some groups) : r.ask key outcome = (.ok groups, r) :=
  ask_of_some ((h.found key).trans hfirst)

/-- **Groups that have not been computed are, once.** -/
theorem Follows.ask_of_none (h : r.Follows) (hfirst : firstSince r.log key = none) :
    (r.ask key outcome).1 = outcome ∧
      (r.ask key outcome).2.log = r.log ++ [.computed key outcome] := by
  have hfind : r.memo.find? key = none := (h.found key).trans hfirst
  cases outcome with
  | error e => rw [ask_error_of_none hfind]; exact ⟨rfl, rfl⟩
  | ok groups => rw [ask_ok_of_none hfind]; exact ⟨rfl, rfl⟩

/-- **No answer is out of date.** -/
theorem Follows.mem_of_ask {groups : List Group} (h : r.Follows)
    (hanswer : (r.ask key outcome).1 = .ok groups) :
    .computed key (.ok groups) ∈ sinceInvalidation (r.ask key outcome).2.log := by
  cases hfirst : firstSince r.log key with
  | some groups' =>
      rw [h.ask_of_firstSince hfirst] at hanswer ⊢
      exact Except.ok.inj hanswer ▸ mem_of_firstSince hfirst
  | none =>
      obtain ⟨houtcome, hlog⟩ : _ ∧ (r.ask key outcome).2.log = _ := h.ask_of_none hfirst
      rw [hlog, sinceInvalidation_computed, ← houtcome, hanswer]
      exact List.mem_concat_self

/-- **Groups are computed once.**  After any calls, groups are asked for.  If they have been
computed since the memo was last told that it is out of date, the answer is the first result that
came out, and nothing is computed; otherwise the computation is run, once, and its outcome is the
answer.  What is answered was always computed since then.  A computation that fails leaves no
entry.  The same is found if generations are words, until there are more of them than words. -/
theorem answers_first_computed (calls : List MemoCall) (key : GroupingKey)
    (outcome : Except QueryError (List Group)) :
    let r := afterAll calls
    let asked := r.ask key outcome
    r.memo.groupsWith key (fun _ => outcome) = (asked.1, asked.2.memo) ∧
    (∀ groups, firstSince r.log key = some groups → asked = (.ok groups, r)) ∧
    (firstSince r.log key = none →
      asked.1 = outcome ∧ asked.2.log = r.log ++ [.computed key outcome]) ∧
    (∀ groups, asked.1 = .ok groups →
      .computed key (.ok groups) ∈ sinceInvalidation asked.2.log) ∧
    (∀ e, asked.1 = .error e →
      outcome = .error e ∧ asked.2.memo = r.memo ∧ asked.2.memo.contains key = false) ∧
    (r.memo.generation < UInt64.size → r.memo.findByWord? key = r.memo.find? key) := by
  intro r asked
  have hfollows : r.Follows := afterAll_follows calls
  exact ⟨groupsWith_eq_ask r key outcome, fun _ => hfollows.ask_of_firstSince,
    hfollows.ask_of_none, fun _ => hfollows.mem_of_ask, fun _ => memo_of_ask_error,
    GroupMemo.findByWord?_eq_find? hfollows.past⟩

/-- An entry that is kept is not found in the next generation. -/
example (old new : List Group) :
    ((afterAll [.groups key (.ok old), .invalidate fun _ => true]).ask key (.ok new)).1 =
      .ok new := rfl

end RecordedMemo

end MediaLibrary
