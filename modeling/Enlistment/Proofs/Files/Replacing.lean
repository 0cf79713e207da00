import Enlistment.Proofs.Files.Places
import Enlistment.Proofs.Path.Joined
import Enlistment.Proofs.Text.Size
import Mathlib.Data.List.Induction

/-!
A file that is put in the stead of another one. What is written beside a file and then moved to it is
there in the end, and nothing is beside it any more, unless a folder stands where it should go or the
disk does not let it go there: then what was written stays beside it.
-/

namespace Enlistment.Files

@[simp]
theorem find?_erase_self {place : Place} (nonempty : place ≠ []) (files : Files) :
    (files.erase place).find? place = none := by
  rw [find?, if_neg (by simpa using nonempty), erase, List.lookup_eq_none_iff]
  intro entry member
  exact bne_iff_ne.mpr (Ne.symm (by simpa using (List.mem_filter.mp member).2))

theorem isFolder_iff {files : Files} {place : Place} :
    files.isFolder place = true ↔ files.find? place = some .folder := by
  unfold isFolder
  cases files.find? place with
  | none => simp
  | some node => cases node <;> simp

/-- A path leads to a name in a folder that is there, whether or not the name is. -/
structure LeadsInto (files : Files) (folder : Place) (path : String) (parent : Place)
    (name : String) : Prop where
  reached : ∃ first above, start folder path = .ok first ∧ Path.names path = above ++ [name] ∧
    files.walk first above = .ok parent
  isFolder : files.isFolder parent = true
  fits : name.utf8ByteSize ≤ longestName
  down : name ≠ ".."
  noFolder : Path.endsInFolder path = false

section Leading

variable {files other : Files} {folder parent place : Place} {path name : String}

theorem entry_of_isFolder (isFolder : files.isFolder parent = true)
    (fits : name.utf8ByteSize ≤ longestName) : files.entry parent name = .ok (parent ++ [name]) := by
  rw [entry, isFolder, if_neg (by decide), if_neg (Nat.not_lt.mpr fits)]

theorem isFolder_of_entry (entered : files.entry parent name = .ok place) :
    files.isFolder parent = true ∧ name.utf8ByteSize ≤ longestName := by
  unfold entry at entered
  split at entered
  · exact absurd entered nofun
  · rename_i isFolder
    split at entered
    · exact absurd entered nofun
    · rename_i fits
      exact ⟨by simpa using isFolder, Nat.not_lt.mp fits⟩

theorem isFolder_of_follow (followed : files.follow parent name = .ok place) :
    files.isFolder parent = true ∧ name.utf8ByteSize ≤ longestName := by
  rw [follow_eq] at followed
  split at followed
  · exact absurd followed nofun
  · rename_i entered
    exact isFolder_of_entry entered

/-- A walk that ends in a folder passes through folders only, so it is the same wherever all of these
are. -/
theorem walk_of_folders (folders : ∀ place, files.isFolder place = true → other.isFolder place = true)
    {names : List String} {first : Place} (walked : files.walk first names = .ok place)
    (isFolder : files.isFolder place = true) : other.walk first names = .ok place := by
  induction names using List.reverseRecOn generalizing place with
  | nil => exact walked
  | append_singleton above last ih =>
      rw [walk_concat] at walked
      split at walked
      · exact absurd walked nofun
      · rename_i between reached
        obtain ⟨passed, fits⟩ := isFolder_of_follow walked
        rw [walk_concat, ih reached passed]
        dsimp only
        have spelled := eq_of_follow walked
        have there := isFolder_iff.mp (folders place isFolder)
        rw [follow_eq, entry_of_isFolder (folders between passed) fits]
        dsimp only
        cases up : last == ".." with
        | true => rw [if_pos rfl, spelled, descend, if_pos up]
        | false =>
            rw [descend, up, if_neg (by decide)] at spelled
            rw [if_neg (by decide), ← spelled, there]
            rfl

namespace LeadsInto

theorem mono (leads : files.LeadsInto folder path parent name)
    (folders : ∀ place, files.isFolder place = true → other.isFolder place = true) :
    other.LeadsInto folder path parent name := by
  obtain ⟨first, above, started, spelled, walked⟩ := leads.reached
  exact ⟨⟨first, above, started, spelled, walk_of_folders folders walked leads.isFolder⟩,
    folders parent leads.isFolder, leads.fits, leads.down, leads.noFolder⟩

theorem filePlace_eq (leads : files.LeadsInto folder path parent name) :
    files.filePlace folder path =
      if files.isFolder (parent ++ [name]) then .error .isADirectory
      else .ok (parent ++ [name]) := by
  obtain ⟨first, above, started, spelled, walked⟩ := leads.reached
  have placed : files.newPlace first (Path.names path) = .ok (parent ++ [name]) := by
    unfold newPlace
    rw [spelled, List.getLast?_concat, List.dropLast_concat]
    simp only [walked, entry_of_isFolder leads.isFolder leads.fits, bind, Except.bind]
    rw [if_neg (by simpa using leads.down)]
    rfl
  rw [filePlace, started]
  simp only [bind, Except.bind, placed, leads.noFolder, Bool.false_or]
  split <;> rfl

theorem resolve_eq (leads : files.LeadsInto folder path parent name) :
    files.resolve folder path =
      if (files.find? (parent ++ [name])).isSome then .ok (parent ++ [name])
      else .error .notFound := by
  obtain ⟨first, above, started, spelled, walked⟩ := leads.reached
  have followed : files.follow parent name =
      if (files.find? (parent ++ [name])).isSome then .ok (parent ++ [name])
      else .error .notFound := by
    rw [follow_eq, entry_of_isFolder leads.isFolder leads.fits]
    dsimp only
    rw [if_neg (by simpa using leads.down)]
  rw [resolve, started]
  simp only [bind, Except.bind, spelled, walk_concat, walked, followed]
  cases (files.find? (parent ++ [name])).isSome with
  | true => simp only [leads.noFolder, Bool.false_and, Bool.false_eq_true, if_true, if_false]; rfl
  | false => rfl

theorem at?_eq (leads : files.LeadsInto folder path parent name) :
    files.at? folder path = files.find? (parent ++ [name]) := by
  rw [at?, leads.resolve_eq]
  cases found : files.find? (parent ++ [name]) with
  | none => rfl
  | some node => exact found

end LeadsInto

/-- A place for a file is in a folder that its path leads into. -/
theorem leadsInto_of_filePlace (placed : files.filePlace folder path = .ok place) :
    ∃ parent name, files.LeadsInto folder path parent name ∧ place = parent ++ [name] ∧
      files.isFolder place = false := by
  obtain ⟨first, started, placed⟩ := exists_of_bind_eq_ok placed
  obtain ⟨found, new, placed⟩ := exists_of_bind_eq_ok placed
  split at placed
  · exact absurd placed nofun
  · rename_i file
    obtain rfl := Except.ok.inj placed
    obtain ⟨above, last, parent, spelled, down, walked, entered⟩ := newPlace_cases new
    obtain ⟨isFolder, fits⟩ := isFolder_of_entry entered
    simp only [Bool.or_eq_true, not_or, Bool.not_eq_true] at file
    exact ⟨parent, last, ⟨⟨first, above, started, spelled, walked⟩, isFolder, fits,
      by simpa using down, file.1⟩, eq_of_entry entered, file.2⟩

theorem start_of_sublist {text : String} {first : Place} (started : start folder path = .ok first)
    (nonempty : text ≠ "") (within : text.toList.Sublist path.toList)
    (alike : Path.isAbsolute text = Path.isAbsolute path) : start folder text = .ok first := by
  have shorter : text.utf8ByteSize ≤ path.utf8ByteSize := by
    rw [← String.utf8Len_toList, ← String.utf8Len_toList]
    exact String.utf8Len_le_of_sublist within
  unfold start at started ⊢
  split at started
  · exact absurd started nofun
  · rename_i noZero
    split at started
    · exact absurd started nofun
    · split at started
      · exact absurd started nofun
      · rename_i short
        have absent : ¬text.toList.contains '\x00' = true := fun zero =>
          noZero (List.contains_iff_mem.mpr (within.subset (List.contains_iff_mem.mp zero)))
        rw [if_neg absent, if_neg (by simpa using nonempty), if_neg (by omega), alike]
        exact started

/-- Where the folder of a path is there, nothing has to be made for it. -/
theorem createParents_of_leadsInto (leads : files.LeadsInto folder path parent name)
    (deep : 1 < (Path.names path).length) (disk : Disk) :
    files.createParents disk folder path = (.ok (), files) := by
  obtain ⟨first, above, started, spelled, walked⟩ := leads.reached
  have nonempty : above ≠ [] := by
    rintro rfl
    rw [spelled] at deep
    exact absurd deep (by simp)
  obtain ⟨text, found, spelledText, alike, filled, within⟩ :=
    Path.parent?_of_names spelled nonempty
  obtain ⟨last, rest, reversed⟩ := List.exists_cons_of_ne_nil (mt List.reverse_eq_nil_iff.mp nonempty)
  have made : files.makeFolder disk first (last :: rest).reverse = .ok files := by
    rw [← reversed, List.reverse_reverse, makeFolder, walked]
    simp only [leads.isFolder, if_true]
    rfl
  rw [createParents, found, Option.getD_some, createFolders, if_neg (by simpa using filled),
    start_of_sublist started filled within alike]
  dsimp only
  rw [spelledText, reversed, makeFolders, made]

/-- Something is only where a path leads into a folder. -/
theorem leadsInto_of_at? {node : FileNode} {above : List String}
    (found : files.at? folder path = some node) (spelled : Path.names path = above ++ [name])
    (down : name ≠ "..") (noFolder : Path.endsInFolder path = false) :
    ∃ parent, files.LeadsInto folder path parent name := by
  unfold at? at found
  cases resolved : files.resolve folder path with
  | error fault =>
      rw [resolved] at found
      exact absurd found nofun
  | ok place =>
      obtain ⟨first, started, resolved⟩ := exists_of_bind_eq_ok resolved
      obtain ⟨reached, walked, _⟩ := exists_of_bind_eq_ok resolved
      rw [spelled, walk_concat] at walked
      split at walked
      · exact absurd walked nofun
      · rename_i parent above
        obtain ⟨isFolder, fits⟩ := isFolder_of_follow walked
        exact ⟨parent, ⟨first, _, started, spelled, above⟩, isFolder, fits, down, noFolder⟩

/-- A path that is written longer by an ending leads into the same folder. -/
theorem leadsInto_of_append {upper beside ending : String} (plain : Path.IsPlainName name)
    (longer : Path.IsPlainName (name ++ ending))
    (leads : files.LeadsInto folder (Path.join upper name ++ ending) parent beside) :
    beside = name ++ ending ∧ files.LeadsInto folder (Path.join upper name) parent name := by
  obtain ⟨first, above, started, spelled, walked⟩ := leads.reached
  rw [Path.join_append plain, Path.names_join longer] at spelled
  obtain ⟨rfl, rfl⟩ := List.append_singleton_inj.mp spelled
  have nonempty : Path.join upper name ≠ "" := by
    intro empty
    have none := Path.names_join plain upper
    rw [empty, Path.names_empty] at none
    exact absurd none (by simp)
  have begins : start folder (Path.join upper name) = .ok first := by
    refine start_of_sublist started nonempty ?_ ?_
    · rw [String.toList_append]
      exact List.sublist_append_left _ _
    · rw [Path.join_append plain, Path.isAbsolute_join plain, Path.isAbsolute_join longer]
  have fits : name.utf8ByteSize ≤ longestName := by
    have whole := leads.fits
    rw [String.utf8ByteSize_append] at whole
    omega
  exact ⟨rfl, ⟨first, _, begins, Path.names_join plain upper, walked⟩, leads.isFolder, fits,
    plain.notDots, Path.not_endsInFolder_join plain upper⟩

/-- A file is written where nothing is, or in the stead of another file. -/
theorem write_cases {node : FileNode} {written : Files}
    (wrote : files.write folder path node = .ok written) :
    ∃ parent name, files.LeadsInto folder path parent name ∧
      files.isFolder (parent ++ [name]) = false ∧ written = files.put (parent ++ [name]) node := by
  obtain ⟨place, placed, wrote⟩ := exists_of_bind_eq_ok wrote
  obtain ⟨parent, name, leads, rfl, file⟩ := leadsInto_of_filePlace placed
  refine ⟨parent, name, leads, file, ?_⟩
  split at wrote
  · exact absurd wrote nofun
  · exact (Except.ok.inj wrote).symm

/-- A file that can be opened holds what the disk takes of what is written to it. -/
theorem writeFile_cases (disk : Disk) (folder : Place) (path : String) (content : ByteArray)
    (files : Files) :
    (∃ fault, files.writeFile disk folder path content = (.error fault, files)) ∨
      ∃ parent name, files.LeadsInto folder path parent name ∧
        files.isFolder (parent ++ [name]) = false ∧
        files.writeFile disk folder path content =
          (disk.finish content, files.put (parent ++ [name]) (.file (disk.taken content))) := by
  unfold writeFile
  dsimp only
  split
  · exact .inl ⟨_, rfl⟩
  · rename_i written opened
    obtain ⟨_, _, opened⟩ := exists_of_bind_eq_ok opened
    obtain ⟨_, _, wrote⟩ := exists_of_bind_eq_ok opened
    obtain ⟨parent, name, leads, file, rfl⟩ := write_cases wrote
    exact .inr ⟨parent, name, leads, file, rfl⟩

theorem rename_of_leadsInto {source target first : String} {node : FileNode}
    (leaves : files.LeadsInto folder source parent first)
    (found : files.find? (parent ++ [first]) = some node)
    (file : files.isFolder (parent ++ [first]) = false)
    (enters : files.LeadsInto folder target parent name) (disk : Disk) :
    files.rename disk folder source target =
      if files.isFolder (parent ++ [name]) then .error .isADirectory
      else (disk.permit (parent ++ [name])).map fun _ =>
        (files.erase (parent ++ [first])).put (parent ++ [name]) node := by
  have placed : files.filePlace folder source = .ok (parent ++ [first]) := by
    rw [leaves.filePlace_eq, file, if_neg (by decide)]
  have removed : files.remove folder source = .ok (files.erase (parent ++ [first])) := by
    rw [remove, leaves.resolve_eq, found]
    simp only [bind, Except.bind, Option.isSome_some, if_true, file, Bool.false_eq_true, if_false]
    rfl
  rw [rename, placed]
  simp only [bind, Except.bind, found, removed, enters.filePlace_eq]
  cases files.isFolder (parent ++ [name]) with
  | true => rfl
  | false =>
      simp only [Bool.false_eq_true, if_false]
      cases disk.permit (parent ++ [name]) <;> rfl

section Moved

variable {node : FileNode}

theorem ne_of_isFolder {place spot : Place} (file : files.isFolder place = false)
    (isFolder : files.isFolder spot = true) : spot ≠ place := by
  rintro rfl
  exact absurd (file.symm.trans isFolder) (by decide)

theorem isFolder_put {spot : Place} (file : files.isFolder place = false)
    (isFolder : files.isFolder spot = true) : (files.put place node).isFolder spot = true := by
  rw [isFolder_iff, find?_put_of_ne (ne_of_isFolder file isFolder)]
  exact isFolder_iff.mp isFolder

theorem isFolder_erase {spot : Place} (file : files.isFolder place = false)
    (isFolder : files.isFolder spot = true) : (files.erase place).isFolder spot = true := by
  rw [isFolder_iff, find?_erase_of_ne (ne_of_isFolder file isFolder)]
  exact isFolder_iff.mp isFolder

end Moved

section Staged

variable {source target beside : String} (content : ByteArray)

/-- What was written beside a file stays there as long as it is not moved. It is moved, and nothing else
is changed, unless a folder stands where it should go or the disk does not let it go there. -/
theorem rename_of_put_cases (leaves : files.LeadsInto folder source parent beside)
    (enters : files.LeadsInto folder target parent name) (different : beside ≠ name)
    (file : files.isFolder (parent ++ [beside]) = false) (disk : Disk) :
    let written := files.put (parent ++ [beside]) (.file content)
    written.at? folder target = files.at? folder target ∧
    written.at? folder source = some (.file content) ∧
    ((files.at? folder target = some .folder ∨ disk.permit (parent ++ [name]) ≠ .ok ()) ∧
        (∃ fault, written.rename disk folder source target = .error fault) ∨
      (files.at? folder target ≠ some .folder ∧ disk.permit (parent ++ [name]) = .ok ()) ∧
        ∃ after, written.rename disk folder source target = .ok after ∧
          after.at? folder target = some (.file content) ∧ after.at? folder source = none ∧
          ∀ place, place ≠ parent ++ [name] → place ≠ parent ++ [beside] →
            after.find? place = files.find? place) := by
  intro written
  have apart : parent ++ [name] ≠ parent ++ [beside] := by simpa using different.symm
  let left := written.erase (parent ++ [beside])
  have found : written.find? (parent ++ [beside]) = some (.file content) :=
    by simp [written]
  have writtenFile : written.isFolder (parent ++ [beside]) = false := by
    rw [Files.isFolder, found]
  have taken : written.isFolder (parent ++ [name]) = files.isFolder (parent ++ [name]) := by
    rw [Files.isFolder, find?_put_of_ne apart, ← Files.isFolder]
  have kept : ∀ spot, files.isFolder spot = true → written.isFolder spot = true :=
    fun _ => isFolder_put file
  have outcome := rename_of_leadsInto (leaves.mono kept) found writtenFile (enters.mono kept) disk
  have same : written.at? folder target = files.at? folder target := by
    rw [(enters.mono kept).at?_eq, enters.at?_eq, find?_put_of_ne apart]
  have stays : written.at? folder source = some (.file content) := by
    rw [(leaves.mono kept).at?_eq, found]
  refine ⟨same, stays, ?_⟩
  cases occupied : files.isFolder (parent ++ [name]) with
  | true =>
      rw [taken, if_pos occupied] at outcome
      exact .inl ⟨.inl (enters.at?_eq.trans (isFolder_iff.mp occupied)), _, outcome⟩
  | false =>
      have noFolder : files.at? folder target ≠ some .folder := by
        rw [enters.at?_eq, ne_eq, ← isFolder_iff, occupied]
        decide
      rw [taken, if_neg (by simp [occupied])] at outcome
      cases permitted : disk.permit (parent ++ [name]) with
      | error fault =>
          rw [permitted] at outcome
          exact .inl ⟨.inr nofun, _, outcome⟩
      | ok =>
          rw [permitted] at outcome
          have vacant : left.isFolder (parent ++ [name]) = false := by
            rw [Files.isFolder, find?_erase_of_ne apart, ← Files.isFolder, taken, occupied]
          have keptAll : ∀ spot, files.isFolder spot = true →
              (left.put (parent ++ [name]) (.file content)).isFolder spot = true :=
            fun _ isFolder => isFolder_put vacant (isFolder_erase writtenFile (kept _ isFolder))
          refine .inr ⟨⟨noFolder, rfl⟩, _, outcome, ?_, ?_, ?_⟩
          · rw [(enters.mono keptAll).at?_eq, find?_put_self (by simp)]
          · rw [(leaves.mono keptAll).at?_eq, find?_put_of_ne apart.symm,
              find?_erase_self (by simp)]
          · intro place notTarget notSource
            simp [written, find?_put_of_ne, find?_erase_of_ne, notTarget, notSource]

end Staged

end Leading

end Enlistment.Files
