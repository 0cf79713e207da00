import Enlistment.Proofs.Path.CaseKey

/-!
The folders above an entry. They are the entries made of the first segments of the entry, so the
folders above one of them are folders above the entry as well, and lowercasing an entry lowercases
the folders above it.
-/

namespace Enlistment.Path

open Text

def folderOf (parts : List (List Char)) : List Char :=
  parts.flatMap (· ++ [separator])

theorem foldersOnTheWay_eq (above : List Char) (parts : List (List Char)) :
    foldersOnTheWay above parts =
      (List.range (parts.length - 1)).map fun index =>
        above ++ folderOf (parts.take (index + 1)) := by
  fun_induction foldersOnTheWay above parts with
  | case1 => rfl
  | case2 => rfl
  | case3 above segment next rest folder ih =>
      simp only [List.length_cons, Nat.add_sub_cancel, List.range_succ_eq_map, List.map_cons,
        List.map_map] at ih ⊢
      rw [ih]
      simp [folder, folderOf]

def depth (entry : String) : Nat :=
  (segments entry.toList).length

theorem ancestorFolders_eq (entry : String) :
    ancestorFolders entry =
      (List.range (depth entry - 1)).map fun index =>
        String.ofList (folderOf ((segments entry.toList).take (index + 1))) := by
  simp [ancestorFolders, foldersOnTheWay_eq, depth]

theorem mem_ancestorFolders_iff (folder entry : String) :
    folder ∈ ancestorFolders entry ↔
      ∃ count, 0 < count ∧ count < depth entry ∧
        folder = String.ofList (folderOf ((segments entry.toList).take count)) := by
  rw [ancestorFolders_eq]
  simp only [List.mem_map, List.mem_range]
  constructor
  · rintro ⟨index, below, same⟩
    exact ⟨index + 1, by omega, by omega, same.symm⟩
  · rintro ⟨count, positive, below, same⟩
    exact ⟨count - 1, by omega, by rw [Nat.sub_add_cancel positive]; exact same.symm⟩

theorem segments_folderOf {parts : List (List Char)}
    (absent : ∀ part ∈ parts, separator ∉ part) (nonempty : ∀ part ∈ parts, part ≠ []) :
    segments (folderOf parts) = parts := by
  induction parts with
  | nil => rfl
  | cons first rest ih =>
      have tail := ih (fun part member => absent part (List.mem_cons_of_mem _ member))
        (fun part member => nonempty part (List.mem_cons_of_mem _ member))
      have unfolded : folderOf (first :: rest) = first ++ separator :: folderOf rest := by
        simp [folderOf]
      rw [unfolded, segments_append_separator, tail,
        segments_of_absent (absent first List.mem_cons_self) (nonempty first List.mem_cons_self)]
      rfl

theorem segments_folderOf_take (text : List Char) (count : Nat) :
    segments (folderOf ((segments text).take count)) = (segments text).take count := by
  apply segments_folderOf
  · exact fun part member => absent_of_mem_segments (List.mem_of_mem_take member)
  · exact fun part member => ne_nil_of_mem_segments (List.mem_of_mem_take member)

theorem lowercaseAfter_folderOf (parts : List (List Char)) :
    lowercaseAfter [] (folderOf parts) = folderOf (parts.map (lowercaseAfter [])) := by
  induction parts with
  | nil => rfl
  | cons first rest ih =>
      have unfolded : folderOf (first :: rest) = first ++ separator :: folderOf rest := by
        simp [folderOf]
      rw [unfolded, lowercaseAfter_append_separator, ih]
      simp [folderOf]

theorem toList_caseKey (entry : String) :
    (caseKey entry).toList = lowercaseAfter [] entry.toList := by
  simp [caseKey, lowercase]

@[simp]
theorem depth_caseKey (entry : String) : depth (caseKey entry) = depth entry := by
  simp [depth, toList_caseKey]

/-- The folders above a case key are the case keys of the folders above the entry. -/
@[simp]
theorem ancestorFolders_caseKey (entry : String) :
    ancestorFolders (caseKey entry) = (ancestorFolders entry).map caseKey := by
  rw [ancestorFolders_eq, ancestorFolders_eq, depth_caseKey, List.map_map]
  apply List.map_congr_left
  intro index _
  simp [caseKey, lowercase, lowercaseAfter_folderOf, List.map_take]

theorem map_caseKey_ancestorFolders_congr {left right : String}
    (same : caseKey left = caseKey right) :
    (ancestorFolders left).map caseKey = (ancestorFolders right).map caseKey := by
  rw [← ancestorFolders_caseKey, ← ancestorFolders_caseKey, same]

theorem depth_lt_of_mem_ancestorFolders {folder entry : String}
    (above : folder ∈ ancestorFolders entry) : depth folder < depth entry := by
  obtain ⟨count, positive, below, same⟩ := (mem_ancestorFolders_iff folder entry).mp above
  rw [same, depth, String.toList_ofList, segments_folderOf_take, List.length_take]
  exact Nat.lt_of_le_of_lt (Nat.min_le_left _ _) below

theorem mem_ancestorFolders_trans {outer folder entry : String}
    (outside : outer ∈ ancestorFolders folder) (above : folder ∈ ancestorFolders entry) :
    outer ∈ ancestorFolders entry := by
  obtain ⟨count, positive, below, same⟩ := (mem_ancestorFolders_iff folder entry).mp above
  obtain ⟨less, lessPositive, lessBelow, outerSame⟩ :=
    (mem_ancestorFolders_iff outer folder).mp outside
  have folderSegments : segments folder.toList = (segments entry.toList).take count := by
    rw [same, String.toList_ofList, segments_folderOf_take]
  have lessCount : less < count := by
    rw [depth, folderSegments, List.length_take] at lessBelow
    exact Nat.lt_of_lt_of_le lessBelow (Nat.min_le_left _ _)
  apply (mem_ancestorFolders_iff outer entry).mpr
  refine ⟨less, lessPositive, Nat.lt_trans lessCount below, ?_⟩
  rw [outerSame, folderSegments, List.take_take, Nat.min_eq_left (Nat.le_of_lt lessCount)]

/-! The folders above an entry, one after the other. -/

@[simp]
theorem length_ancestorFolders (entry : String) :
    (ancestorFolders entry).length = depth entry - 1 := by
  rw [ancestorFolders_eq, List.length_map, List.length_range]

theorem folderOf_take_succ {parts : List (List Char)} {count : Nat} {part : List Char}
    (next : parts[count]? = some part) :
    folderOf (parts.take (count + 1)) = folderOf (parts.take count) ++ part ++ [separator] := by
  rw [List.take_add_one, next]
  simp [folderOf]

/-- The folders above a folder on the way to an entry are those that come before it. -/
theorem ancestorFolders_folderOf_take {entry : String} {count : Nat} (below : count < depth entry) :
    ancestorFolders (String.ofList (folderOf ((segments entry.toList).take count))) =
      (ancestorFolders entry).take (count - 1) := by
  have steps : depth (String.ofList (folderOf ((segments entry.toList).take count))) = count := by
    rw [depth, String.toList_ofList, segments_folderOf_take, List.length_take]
    exact Nat.min_eq_left (Nat.le_of_lt below)
  rw [ancestorFolders_eq, ancestorFolders_eq entry, steps, ← List.map_take, List.take_range,
    Nat.min_eq_left (Nat.sub_le_sub_right (Nat.le_of_lt below) 1)]
  apply List.map_congr_left
  intro index within
  have less : index + 1 ≤ count := by
    rw [List.mem_range] at within
    omega
  rw [String.toList_ofList, segments_folderOf_take, List.take_take, Nat.min_eq_left less]

section Place

variable {entry folder : String} {above below : List String}
  (place : ancestorFolders entry = above ++ folder :: below)

include place

theorem length_above : above.length + 1 < depth entry := by
  have counted := length_ancestorFolders entry
  rw [place, List.length_append, List.length_cons] at counted
  omega

theorem eq_folderOf_take_of_place :
    folder = String.ofList (folderOf ((segments entry.toList).take (above.length + 1))) := by
  have found : (ancestorFolders entry)[above.length]? = some folder := by
    rw [place]
    simp
  rw [ancestorFolders_eq, List.getElem?_map, Option.map_eq_some_iff] at found
  obtain ⟨index, same, rfl⟩ := found
  obtain ⟨_, rfl⟩ := List.getElem?_eq_some_iff.mp same
  rw [List.getElem_range]

/-- The folder before, or nothing before the first one. -/
theorem getLast?_above :
    above.getLast?.getD "" =
      String.ofList (folderOf ((segments entry.toList).take above.length)) := by
  rcases List.eq_nil_or_concat above with rfl | ⟨outer, last, rfl⟩
  · rfl
  · rw [List.concat_eq_append, List.append_assoc] at place
    simpa using eq_folderOf_take_of_place place

theorem ancestorFolders_of_place : ancestorFolders folder = above := by
  have within : above.length + 1 < depth entry := length_above place
  rw [eq_folderOf_take_of_place place, ancestorFolders_folderOf_take within, place]
  simp

theorem exists_segment_of_place :
    ∃ segment, (segments entry.toList)[above.length]? = some segment ∧
      folder.toList = (above.getLast?.getD "").toList ++ segment ++ [separator] := by
  have within : above.length < (segments entry.toList).length :=
    Nat.lt_of_succ_lt (length_above place)
  refine ⟨_, List.getElem?_eq_getElem within, ?_⟩
  rw [getLast?_above place, eq_folderOf_take_of_place place, String.toList_ofList,
    String.toList_ofList, folderOf_take_succ (List.getElem?_eq_getElem within)]

end Place

/-- The folders above a case key are the case keys of the folders above the entry. There is one for
each segment but the last, the key itself is none of them, and each has those before it above it and
adds one segment and a separator to the last of these. -/
theorem folders_above_caseKey (entry : String) :
    let folders := ancestorFolders (caseKey entry)
    folders = (ancestorFolders entry).map caseKey ∧
    folders.length = (segments entry.toList).length - 1 ∧
    caseKey entry ∉ folders ∧
    ∀ above folder below, folders = above ++ folder :: below →
      ancestorFolders folder = above ∧
      ∃ segment, (segments (caseKey entry).toList)[above.length]? = some segment ∧
        segment ≠ [] ∧ separator ∉ segment ∧
        folder.toList = (above.getLast?.getD "").toList ++ segment ++ [separator] := by
  intro folders
  refine ⟨ancestorFolders_caseKey entry, ?_, ?_, ?_⟩
  · exact (length_ancestorFolders (caseKey entry)).trans
      (congrArg (· - 1) (depth_caseKey entry))
  · intro listed
    exact Nat.lt_irrefl _ (depth_lt_of_mem_ancestorFolders listed)
  · intro above folder below place
    obtain ⟨segment, found, extended⟩ := exists_segment_of_place place
    have listed := List.mem_of_getElem? found
    exact ⟨ancestorFolders_of_place place, segment, found, ne_nil_of_mem_segments listed,
      absent_of_mem_segments listed, extended⟩

/-- A capital sigma is final where its segment ends. -/
example : ancestorFolders (caseKey "ΟΔΟΣ//İΣ.Σ/ΣΑΣ/") = ["οδος/", "οδος/i̇σ.ς/"] := by
  decide +kernel

end Enlistment.Path
