import Enlistment.Path.Names
import Enlistment.Proofs.Path.CaseKey

/-!
The names of paths that were joined. A plain name that is joined to a path is its last name, whatever
separators the path ends in, and the folder of a path has all its names but the last.
-/

namespace Enlistment.Path

structure IsPlainName (name : String) : Prop where
  nonempty : name ≠ ""
  noSeparator : '/' ∉ name.toList
  notDot : name ≠ "."
  notDots : name ≠ ".."

section Joined

variable {folder path name : String}

theorem IsPlainName.not_isAbsolute (plain : IsPlainName name) (behind : String) :
    isAbsolute (name ++ behind) = false := by
  obtain ⟨first, rest, characters⟩ :=
    List.exists_cons_of_ne_nil (mt String.toList_eq_nil_iff.mp plain.nonempty)
  have different : first ≠ '/' := by
    rintro rfl
    exact plain.noSeparator (characters ▸ List.mem_cons_self)
  simp [isAbsolute, String.toList_append, characters, different]

@[simp]
theorem names_empty : names "" = [] := by
  decide

theorem parts_of_split {before behind : List Char} (spelled : path.toList = before ++ '/' :: behind) :
    parts path = parts (String.ofList before) ++ parts (String.ofList behind) := by
  simp only [parts, spelled, String.toList_ofList]
  rw [List.splitOn_append_cons_self, List.map_append]

theorem parts_of_absent (absent : '/' ∉ name.toList) : parts name = [name] := by
  rw [parts, List.splitOn_eq_singleton absent, List.map_singleton, String.ofList_toList]

/-- Joining writes the name behind a separator, which the path may have had at its end. -/
theorem join_cases (plain : IsPlainName name) (folder : String) :
    (folder = "" ∧ join folder name = name) ∨
      ∃ before, (join folder name).toList = before ++ '/' :: name.toList ∧
        names (String.ofList before) = names folder := by
  have relative : isAbsolute name = false := by simpa using plain.not_isAbsolute ""
  by_cases empty : folder = ""
  · refine .inl ⟨empty, ?_⟩
    rw [join, empty, if_pos (by simp)]
  · refine .inr ?_
    have filled : folder.isEmpty = false := by simpa using empty
    by_cases ended : folder.toList.getLast? = some '/'
    · obtain ⟨before, spelled⟩ := List.getLast?_eq_some_iff.mp ended
      refine ⟨before, ?_, ?_⟩
      · rw [join, relative, filled, if_neg (by decide), if_pos ended, String.toList_append, spelled,
          List.append_assoc, List.singleton_append]
      · have split : parts folder = parts (String.ofList before) ++ [""] :=
          parts_of_split spelled
        rw [names, names, split, List.filter_append]
        exact (List.append_nil _).symm
    · refine ⟨folder.toList, ?_, by rw [String.ofList_toList]⟩
      rw [join, relative, filled, if_neg (by decide), if_neg ended, String.toList_append,
        String.toList_append, List.append_assoc]
      rfl

theorem names_join (plain : IsPlainName name) (folder : String) :
    names (join folder name) = names folder ++ [name] := by
  have own : (parts name).filter (fun part => !part.isEmpty && part != ".") = [name] := by
    rw [parts_of_absent plain.noSeparator, List.filter_cons_of_pos, List.filter_nil]
    simp [plain.nonempty, plain.notDot]
  rcases join_cases plain folder with ⟨rfl, joined⟩ | ⟨before, spelled, same⟩
  · rw [joined, names_empty, List.nil_append]
    exact own
  · rw [names, parts_of_split spelled, List.filter_append, String.ofList_toList, own, ← same]
    rfl

theorem not_endsInFolder_join (plain : IsPlainName name) (folder : String) :
    endsInFolder (join folder name) = false := by
  have last : (parts (join folder name)).getLast? = some name := by
    rcases join_cases plain folder with ⟨_, joined⟩ | ⟨before, spelled, _⟩
    · rw [joined, parts_of_absent plain.noSeparator]
      rfl
    · rw [parts_of_split spelled, String.ofList_toList, parts_of_absent plain.noSeparator,
        List.getLast?_concat]
  simp [endsInFolder, last, plain.nonempty, plain.notDot]

theorem isAbsolute_join (plain : IsPlainName name) (folder : String) :
    isAbsolute (join folder name) = isAbsolute folder := by
  have relative : isAbsolute name = false := by simpa using plain.not_isAbsolute ""
  unfold join
  by_cases empty : folder = ""
  · rw [empty, if_pos (by simp), relative]
    rfl
  · obtain ⟨first, rest, characters⟩ :=
      List.exists_cons_of_ne_nil (mt String.toList_eq_nil_iff.mp empty)
    have filled : folder.isEmpty = false := by simpa using empty
    rw [relative, filled, if_neg (by decide)]
    split <;> simp [isAbsolute, String.toList_append, characters]

theorem join_append (plain : IsPlainName name) (folder ending : String) :
    join folder name ++ ending = join folder (name ++ ending) := by
  have relative : isAbsolute name = false := by simpa using plain.not_isAbsolute ""
  unfold join
  rw [relative, plain.not_isAbsolute ending]
  split
  · rfl
  · split <;> simp only [String.append_assoc]

end Joined

section Parent

variable {path name : String}

theorem intercalate_sublist {within whole : List (List Char)} (sublist : within.Sublist whole) :
    (['/'].intercalate within).Sublist (['/'].intercalate whole) := by
  induction sublist with
  | slnil => exact .refl _
  | @cons within rest part inner ih =>
      cases rest with
      | nil =>
          rw [List.eq_nil_of_sublist_nil inner]
          exact List.nil_sublist _
      | cons next others =>
          rw [List.intercalate_cons_cons]
          exact ih.trans (List.sublist_append_right _ _)
  | @cons_cons within rest part inner ih =>
      cases within with
      | nil =>
          cases rest with
          | nil => exact .refl _
          | cons next others =>
              rw [List.intercalate_cons_cons, List.intercalate_singleton, List.append_assoc]
              exact List.sublist_append_left _ _
      | cons first others =>
          cases rest with
          | nil => exact absurd inner (by simp)
          | cons next others =>
              rw [List.intercalate_cons_cons, List.intercalate_cons_cons]
              exact List.Sublist.append_left ih _

theorem noSeparator_of_mem_parts (member : name ∈ parts path) : '/' ∉ name.toList := by
  obtain ⟨part, split, rfl⟩ := List.mem_map.mp member
  rw [String.toList_ofList]
  exact not_mem_of_mem_splitOn split

theorem intercalate_parts (path : String) :
    ['/'].intercalate ((parts path).map String.toList) = path.toList := by
  have same : (parts path).map String.toList = path.toList.splitOn '/' := by
    simp [parts, List.map_map, Function.comp_def]
  rw [same, List.intercalate_splitOn]

def rootParts (path : String) : List String :=
  if isAbsolute path then [""] else []

theorem rootParts_append_names_sublist (path : String) :
    (rootParts path ++ names path).Sublist (parts path) := by
  unfold rootParts
  split
  · rename_i absolute
    obtain ⟨rest, spelled⟩ : ∃ rest, path.toList = [] ++ '/' :: rest :=
      List.head?_eq_some_iff.mp (by simpa [isAbsolute] using absolute)
    have split : parts path = "" :: parts (String.ofList rest) := parts_of_split spelled
    rw [names, split, List.filter_cons_of_neg (by simp)]
    exact .cons_cons _ List.filter_sublist
  · exact List.filter_sublist

theorem ne_empty_of_mem_names (member : name ∈ names path) : name ≠ "" := by
  rintro rfl
  exact absurd (List.mem_filter.mp member).2 (by decide)

theorem parts_of_isAbsolute (absolute : isAbsolute path = true) : "" ∈ (parts path).head? := by
  obtain ⟨rest, spelled⟩ : ∃ rest, path.toList = [] ++ '/' :: rest :=
    List.head?_eq_some_iff.mp (by simpa [isAbsolute] using absolute)
  rw [parts_of_split spelled]
  rfl

def folderText (path : String) (above : List String) : String :=
  (if isAbsolute path then "/" else "") ++ "/".intercalate above

theorem toList_folderText {above : List String} (nonempty : above ≠ []) :
    (folderText path above).toList = ['/'].intercalate ((rootParts path ++ above).map String.toList) := by
  obtain ⟨first, rest, rfl⟩ := List.exists_cons_of_ne_nil nonempty
  simp only [folderText, rootParts, String.toList_append, String.toList_intercalate]
  split
  · simp [List.intercalate_cons_cons]
  · rfl

section Folder

variable {above : List String} (nonempty : above ≠ []) (fromPath : ∀ name ∈ above, name ∈ names path)

include nonempty fromPath

theorem parts_folderText : parts (folderText path above) = rootParts path ++ above := by
  rw [parts, toList_folderText nonempty, List.splitOn_intercalate, List.map_map]
  · simp [Function.comp_def]
  · intro part listed
    obtain ⟨name, member, rfl⟩ := List.mem_map.mp listed
    refine noSeparator_of_mem_parts ((rootParts_append_names_sublist path).subset ?_)
    rcases List.mem_append.mp member with root | named
    · exact List.mem_append_left _ root
    · exact List.mem_append_right _ (fromPath name named)
  · simp [nonempty]

theorem names_folderText : names (folderText path above) = above := by
  have root : (rootParts path).filter (fun part => !part.isEmpty && part != ".") = [] := by
    unfold rootParts
    split <;> rfl
  rw [names, parts_folderText nonempty fromPath, List.filter_append, root, List.nil_append,
    List.filter_eq_self]
  exact fun name member => (List.mem_filter.mp (fromPath name member)).2

theorem isAbsolute_folderText : isAbsolute (folderText path above) = isAbsolute path := by
  cases absolute : isAbsolute path with
  | true =>
      rw [folderText, absolute, if_pos rfl, isAbsolute, String.toList_append]
      rfl
  | false =>
      refine Bool.eq_false_iff.mpr fun absoluteText => ?_
      have head := parts_of_isAbsolute absoluteText
      rw [parts_folderText nonempty fromPath, rootParts, absolute, if_neg (by decide),
        List.nil_append] at head
      exact ne_empty_of_mem_names (fromPath _ (List.mem_of_mem_head? head)) rfl

end Folder

/-- The folder of a path is written no longer than the path, and has its names but for the last. -/
theorem parent?_of_names {above : List String} {last : String}
    (spelled : names path = above ++ [last]) (nonempty : above ≠ []) :
    ∃ text, parent? path = some text ∧ names text = above ∧ isAbsolute text = isAbsolute path ∧
      text ≠ "" ∧ text.toList.Sublist path.toList := by
  have within : (rootParts path ++ above).Sublist (parts path) := by
    refine .trans ?_ (rootParts_append_names_sublist path)
    rw [spelled, ← List.append_assoc]
    exact List.sublist_append_left _ _
  have named : ∀ name ∈ above, name ∈ names path := fun name member =>
    spelled ▸ List.mem_append_left _ member
  have found : parent? path = some (folderText path above) := by
    obtain ⟨first, rest, parts⟩ := List.exists_cons_of_ne_nil nonempty
    rw [parent?, spelled, parts, List.cons_append]
    simp only [← List.cons_append, List.dropLast_concat, ← parts, folderText]
  have spelledText := names_folderText nonempty named
  refine ⟨_, found, spelledText, isAbsolute_folderText nonempty named, ?_, ?_⟩
  · intro empty
    rw [empty, names_empty] at spelledText
    exact nonempty spelledText.symm
  · rw [toList_folderText nonempty, ← intercalate_parts path]
    exact intercalate_sublist (within.map _)

end Parent

end Enlistment.Path
