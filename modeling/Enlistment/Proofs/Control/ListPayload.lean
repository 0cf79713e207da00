import Enlistment.Control.ListPayload
import Enlistment.Proofs.Text.Size
import Mathlib.Algebra.GroupWithZero.Nat

/-!
Lists in one text and back. Escaping keeps the characters that end an entry or a line out of an
entry, and unescaping undoes it; so a payload gives back the entries that were put into it, in their
order, except for those that are empty. What is read from a payload that nobody wrote this way is
written and read again without a change. How long a payload is depends on its entries alone.
-/

namespace Enlistment.Control

theorem escapeEntryCharacter_of_plain {character : Char} (percent : character ≠ '%')
    (lineFeed : character ≠ '\n') (carriageReturn : character ≠ '\r')
    (zero : character ≠ '\x00') : escapeEntryCharacter character = [character] := by
  unfold escapeEntryCharacter
  split <;> first | contradiction | rfl

theorem unescapeEntry_of_plain {character : Char} (percent : character ≠ '%')
    (rest : List Char) : unescapeEntry (character :: rest) = character :: unescapeEntry rest := by
  rw [unescapeEntry.eq_def]
  split <;> simp_all

theorem unescapeEntry_escapeEntryCharacter (character : Char) (rest : List Char) :
    unescapeEntry (escapeEntryCharacter character ++ rest) = character :: unescapeEntry rest := by
  by_cases percent : character = '%'
  · subst percent
    rfl
  by_cases lineFeed : character = '\n'
  · subst lineFeed
    rfl
  by_cases carriageReturn : character = '\r'
  · subst carriageReturn
    rfl
  by_cases zero : character = '\x00'
  · subst zero
    rfl
  rw [escapeEntryCharacter_of_plain percent lineFeed carriageReturn zero]
  exact unescapeEntry_of_plain percent rest

@[simp]
theorem unescapeEntry_escapeEntry (entry : List Char) :
    unescapeEntry (escapeEntry entry) = entry := by
  induction entry with
  | nil => rfl
  | cons character rest ih =>
      rw [escapeEntry, List.flatMap_cons, unescapeEntry_escapeEntryCharacter]
      exact congrArg (character :: ·) ih

@[simp]
theorem escapeEntry_eq_nil_iff (entry : List Char) : escapeEntry entry = [] ↔ entry = [] := by
  constructor
  · intro empty
    rw [← unescapeEntry_escapeEntry entry, empty]
    rfl
  · rintro rfl
    rfl

@[simp]
theorem unescapeEntry_eq_nil_iff (entry : List Char) : unescapeEntry entry = [] ↔ entry = [] := by
  constructor
  · intro empty
    rw [unescapeEntry.eq_def] at empty
    split at empty <;> simp_all
  · rintro rfl
    rfl

theorem not_mem_escapeEntryCharacter {special : Char}
    (listed : special ∈ ['\n', '\r', '\x00']) (character : Char) :
    special ∉ escapeEntryCharacter character := by
  have which : special = '\n' ∨ special = '\r' ∨ special = '\x00' := by simpa using listed
  by_cases percent : character = '%'
  · subst percent
    rcases which with rfl | rfl | rfl <;> decide
  by_cases lineFeed : character = '\n'
  · subst lineFeed
    rcases which with rfl | rfl | rfl <;> decide
  by_cases carriageReturn : character = '\r'
  · subst carriageReturn
    rcases which with rfl | rfl | rfl <;> decide
  by_cases zero : character = '\x00'
  · subst zero
    rcases which with rfl | rfl | rfl <;> decide
  rw [escapeEntryCharacter_of_plain percent lineFeed carriageReturn zero, List.mem_singleton]
  rintro rfl
  simp_all

theorem not_mem_escapeEntry {special : Char} (listed : special ∈ ['\n', '\r', '\x00'])
    (entry : List Char) : special ∉ escapeEntry entry := by
  intro member
  obtain ⟨character, _, inside⟩ := List.mem_flatMap.mp member
  exact not_mem_escapeEntryCharacter listed character inside

theorem not_mem_joinList {special : Char} (listed : special ∈ ['\n', '\r'])
    (entries : List String) : special ∉ (joinList entries).toList := by
  rw [joinList, String.toList_ofList]
  intro member
  obtain ⟨entry, _, inside⟩ := List.mem_flatMap.mp member
  rcases List.mem_append.mp inside with escaped | final
  · refine not_mem_escapeEntry ?_ entry.toList escaped
    simp only [List.mem_cons] at listed ⊢
    rcases listed with first | second | none
    · exact .inl first
    · exact .inr (.inl second)
    · exact absurd none (by simp)
  · rw [List.mem_singleton.mp final] at listed
    exact absurd listed (by decide)

theorem splitOn_joinList (entries : List String) :
    (joinList entries).toList.splitOn '\x00' =
      entries.map (fun entry => escapeEntry entry.toList) ++ [[]] := by
  rw [joinList, String.toList_ofList]
  induction entries with
  | nil => rfl
  | cons entry rest ih =>
      have absent : '\x00' ∉ escapeEntry entry.toList := not_mem_escapeEntry (by decide) _
      rw [List.flatMap_cons, List.append_assoc, List.singleton_append,
        List.splitOn_append_cons_self, List.splitOn_eq_singleton absent, ih]
      rfl

theorem count_escapeEntry (entry : List Char) : (escapeEntry entry).count '\x00' = 0 :=
  List.count_eq_zero.mpr (not_mem_escapeEntry (by decide) entry)

@[simp]
theorem count_joinList (entries : List String) :
    (joinList entries).toList.count '\x00' = entries.length := by
  rw [joinList, String.toList_ofList]
  induction entries with
  | nil => rfl
  | cons entry rest ih =>
      rw [List.flatMap_cons, List.count_append, List.count_append, count_escapeEntry, ih,
        List.count_singleton_self, List.length_cons]
      omega

/-- What is read from a payload are the entries that are not empty. -/
theorem splitList_joinList (entries : List String) :
    splitList (joinList entries) = entries.filter (· ≠ "") := by
  rw [splitList, splitOn_joinList, List.filter_append, List.filter_map, List.map_append,
    List.map_map]
  have last : ([[]] : List (List Char)).filter (fun entry => !entry.isEmpty) = [] := rfl
  have kept : ∀ entry : String,
      (!(escapeEntry entry.toList).isEmpty) = decide (entry ≠ "") := by
    intro entry
    rw [Bool.eq_iff_iff]
    simp
  have restored : (fun entry : List Char => String.ofList (unescapeEntry entry)) ∘
      (fun entry : String => escapeEntry entry.toList) = id := by
    funext entry
    simp
  rw [last, restored, List.map_nil, List.append_nil, List.map_id]
  exact List.filter_congr fun entry _ => kept entry

theorem splitList_joinList_eq_self_iff (entries : List String) :
    splitList (joinList entries) = entries ↔ ∀ entry ∈ entries, entry ≠ "" := by
  simp [splitList_joinList]

/-- No entry that is read is empty, whoever wrote the payload: no escape stands for nothing. -/
theorem ne_empty_of_mem_splitList {payload entry : String} (member : entry ∈ splitList payload) :
    entry ≠ "" := by
  obtain ⟨part, kept, rfl⟩ := List.mem_map.mp member
  have nonempty : part ≠ [] := by simpa using (List.mem_filter.mp kept).2
  intro empty
  refine nonempty ((unescapeEntry_eq_nil_iff part).mp ?_)
  rw [← String.toList_ofList (l := unescapeEntry part), empty]
  rfl

/-- Lists in one text. A list is read back from its payload exactly if no entry is empty, the payload
stays on one line with one delimiter for each entry, and what was read from any payload at all is
written and read again without a change. -/
theorem payload_carries_list :
    (∀ entries : List String,
      (splitList (joinList entries) = entries ↔ ∀ entry ∈ entries, entry ≠ "") ∧
      '\n' ∉ (joinList entries).toList ∧ '\r' ∉ (joinList entries).toList ∧
      (joinList entries).toList.count '\x00' = entries.length) ∧
    ∀ payload : String, splitList (joinList (splitList payload)) = splitList payload := by
  refine ⟨fun entries => ⟨splitList_joinList_eq_self_iff entries, ?_, ?_, count_joinList entries⟩,
    fun payload => ?_⟩
  · exact not_mem_joinList (by decide) entries
  · exact not_mem_joinList (by decide) entries
  · exact (splitList_joinList_eq_self_iff (splitList payload)).mpr fun _ member =>
      ne_empty_of_mem_splitList member

/-- Escapes that are unknown or cut off, also by a longer character, are written in full. -/
example : joinList (splitList "100%\x00\x00%2é%0\x00%zz%%0d") =
    "100%25\x00%252é%250\x00%25zz%25%0D\x00" := by
  cbv

def isEscaped (character : Char) : Bool :=
  ['%', '\n', '\r', '\x00'].contains character

theorem utf8Len_escapeEntryCharacter (character : Char) :
    String.utf8Len (escapeEntryCharacter character) =
      character.utf8Size + if isEscaped character then 2 else 0 := by
  by_cases escaped : isEscaped character = true
  · have listed : character ∈ ['%', '\n', '\r', '\x00'] := List.contains_iff_mem.mp escaped
    simp only [List.mem_cons, List.not_mem_nil, or_false] at listed
    rcases listed with rfl | rfl | rfl | rfl <;> decide
  · have plain : character ∉ ['%', '\n', '\r', '\x00'] := fun listed =>
      escaped (List.contains_iff_mem.mpr listed)
    simp only [List.mem_cons, List.not_mem_nil, or_false, not_or] at plain
    obtain ⟨percent, lineFeed, carriageReturn, zero⟩ := plain
    rw [escapeEntryCharacter_of_plain percent lineFeed carriageReturn zero, if_neg escaped,
      String.utf8Len_cons, String.utf8Len_nil, Nat.zero_add, Nat.add_zero]

def listedSize (entry : String) : Nat :=
  entry.utf8ByteSize + 2 * entry.toList.countP isEscaped + 1

theorem utf8ByteSize_joinList (entries : List String) :
    (joinList entries).utf8ByteSize = (entries.map listedSize).sum := by
  rw [joinList, Text.utf8ByteSize_ofList]
  induction entries with
  | nil => rfl
  | cons entry rest ih =>
      have terminator : String.utf8Len ['\x00'] = 1 := by decide
      rw [List.flatMap_cons, String.utf8Len_append, String.utf8Len_append, ih, escapeEntry,
        Text.utf8Len_flatMap utf8Len_escapeEntryCharacter, String.utf8Len_toList, terminator,
        List.map_cons, List.sum_cons, listedSize]

end Enlistment.Control
