import Enlistment.Files
import Enlistment.Proofs.Outcomes
import Enlistment.Store.StoreFile

/-!
Where paths lead. A path that leads somewhere leads to the place that its names spell, whatever else
is on the machine; so a path that led to a file leads there, or nowhere, ever after. Folders are made
only where nothing was, and so is a store.
-/

namespace Enlistment

namespace Files

theorem lookup_filter_ne {place other : Place} (different : other ≠ place)
    (nodes : List (Place × FileNode)) :
    (nodes.filter (·.1 ≠ place)).lookup other = nodes.lookup other := by
  induction nodes with
  | nil => rfl
  | cons first rest ih =>
      by_cases same : first.1 = place
      · have missed : (other == first.1) = false := beq_false_of_ne (same ▸ different)
        rw [List.filter_cons_of_neg (by simpa using same), ih, List.lookup_cons, missed]
      · rw [List.filter_cons_of_pos (by simpa using same), List.lookup_cons, List.lookup_cons, ih]

section Nodes

variable {place other : Place}

@[simp]
theorem find?_put_self (nonempty : place ≠ []) (node : FileNode) (files : Files) :
    (files.put place node).find? place = some node := by
  rw [find?, if_neg (by simpa using nonempty)]
  exact List.lookup_cons_self

theorem find?_put_of_ne (different : other ≠ place) (node : FileNode) (files : Files) :
    (files.put place node).find? other = files.find? other := by
  have missed : (other == place) = false := beq_false_of_ne different
  rw [find?, find?, put, List.lookup_cons, missed, lookup_filter_ne different]

theorem find?_erase_of_ne (different : other ≠ place) (files : Files) :
    (files.erase place).find? other = files.find? other := by
  rw [find?, find?, erase, lookup_filter_ne different]

end Nodes

def Keeps (before after : Files) : Prop :=
  ∀ place node, before.find? place = some node → after.find? place = some node

theorem Keeps.refl (files : Files) : files.Keeps files :=
  fun _ _ found => found

theorem Keeps.trans {before between after : Files} (first : before.Keeps between)
    (second : between.Keeps after) : before.Keeps after :=
  fun place node found => second place node (first place node found)

theorem keeps_put_of_vacant {place : Place} {files : Files} (vacant : files.find? place = none)
    (node : FileNode) : files.Keeps (files.put place node) := by
  intro other there found
  have different : other ≠ place := by
    rintro rfl
    rw [vacant] at found
    exact absurd found (by simp)
  rw [find?_put_of_ne different, found]

/-- Everything is as it was, but that folders were made where nothing was. -/
def GainsFolders (before after : Files) : Prop :=
  ∀ place, after.find? place = before.find? place ∨
    before.find? place = none ∧ after.find? place = some .folder

theorem GainsFolders.refl (files : Files) : files.GainsFolders files :=
  fun _ => .inl rfl

theorem GainsFolders.trans {before between after : Files} (first : before.GainsFolders between)
    (second : between.GainsFolders after) : before.GainsFolders after := by
  intro place
  rcases first place, second place with ⟨same | ⟨vacant, made⟩, kept | ⟨free, later⟩⟩
  · exact .inl (kept.trans same)
  · exact .inr ⟨same ▸ free, later⟩
  · exact .inr ⟨vacant, kept.trans made⟩
  · exact .inr ⟨vacant, later⟩

theorem GainsFolders.keeps {before after : Files} (gained : before.GainsFolders after) :
    before.Keeps after := by
  intro place node found
  rcases gained place with same | ⟨vacant, _⟩
  · exact same.trans found
  · exact absurd (vacant.symm.trans found) (by simp)

theorem gainsFolders_put_of_vacant {place : Place} {files : Files}
    (vacant : files.find? place = none) : files.GainsFolders (files.put place .folder) := by
  intro other
  by_cases same : other = place
  · subst same
    have nonempty : other ≠ [] := by
      rintro rfl
      exact absurd vacant (by simp [find?])
    exact .inr ⟨vacant, find?_put_self nonempty .folder files⟩
  · exact .inl (find?_put_of_ne same .folder files)

def descend (place : Place) (name : String) : Place :=
  if name == ".." then place.dropLast else place ++ [name]

section Places

variable {files : Files} {folder place found : Place} {name path : String} {names : List String}

theorem eq_of_start (started : start folder path = .ok found) :
    found = if Path.isAbsolute path then [] else folder := by
  unfold start at started
  split at started
  · exact absurd started nofun
  · split at started
    · exact absurd started nofun
    · split at started
      · exact absurd started nofun
      · exact (Except.ok.inj started).symm

theorem eq_of_entry (entered : files.entry place name = .ok found) : found = place ++ [name] := by
  unfold entry at entered
  split at entered
  · exact absurd entered (by simp)
  · split at entered
    · exact absurd entered (by simp)
    · exact (Except.ok.inj entered).symm

theorem follow_eq (files : Files) (place : Place) (name : String) :
    files.follow place name =
      match files.entry place name with
      | .error fault => .error fault
      | .ok found =>
          if name == ".." then .ok place.dropLast
          else if (files.find? found).isSome then .ok found
          else .error .notFound := by
  unfold follow
  cases files.entry place name <;> rfl

theorem eq_of_follow (followed : files.follow place name = .ok found) :
    found = descend place name := by
  rw [follow_eq] at followed
  split at followed
  · exact absurd followed (by simp)
  · rename_i entered
    rw [descend]
    split at followed
    · rename_i up
      rw [if_pos up]
      exact (Except.ok.inj followed).symm
    · rename_i down
      rw [if_neg down, ← eq_of_entry entered]
      split at followed
      · exact (Except.ok.inj followed).symm
      · exact absurd followed (by simp)

theorem walk_cons (name : String) (names : List String) (place : Place) (files : Files) :
    files.walk place (name :: names) =
      match files.follow place name with
      | .error fault => .error fault
      | .ok next => files.walk next names := by
  rw [walk, List.foldlM_cons]
  cases files.follow place name <;> rfl

theorem eq_of_walk (walked : files.walk place names = .ok found) :
    found = names.foldl descend place := by
  induction names generalizing place with
  | nil => exact (Except.ok.inj walked).symm
  | cons name rest ih =>
      rw [walk_cons] at walked
      split at walked
      · exact absurd walked (by simp)
      · rename_i next followed
        rw [List.foldl_cons, ← eq_of_follow followed]
        exact ih walked

theorem walk_concat (names : List String) (name : String) (place : Place) (files : Files) :
    files.walk place (names ++ [name]) =
      match files.walk place names with
      | .error fault => .error fault
      | .ok next => files.follow next name := by
  rw [walk, walk, List.foldlM_append]
  cases List.foldlM files.follow place names with
  | error fault => rfl
  | ok next =>
      show List.foldlM files.follow next [name] = files.follow next name
      rw [List.foldlM_cons]
      cases files.follow next name <;> rfl

/-- A new place is in a folder that is there, under a name that leads down. -/
theorem newPlace_cases (placed : files.newPlace place names = .ok found) :
    ∃ above last parent, names = above ++ [last] ∧ (last == "..") = false ∧
      files.walk place above = .ok parent ∧ files.entry parent last = .ok found := by
  unfold newPlace at placed
  split at placed
  · exact absurd placed nofun
  · rename_i last final
    obtain ⟨above, rfl⟩ := List.getLast?_eq_some_iff.mp final
    rw [List.dropLast_concat] at placed
    obtain ⟨parent, walked, placed⟩ := exists_of_bind_eq_ok placed
    obtain ⟨entry, entered, placed⟩ := exists_of_bind_eq_ok placed
    split at placed
    · exact absurd placed nofun
    · rename_i down
      obtain rfl := Except.ok.inj placed
      exact ⟨above, last, parent, rfl, by simpa using down, walked, entered⟩

theorem eq_of_newPlace (placed : files.newPlace place names = .ok found) :
    found = names.foldl descend place ∧ found ≠ [] := by
  obtain ⟨above, last, parent, rfl, down, walked, entered⟩ := newPlace_cases placed
  rw [List.foldl_append, ← eq_of_walk walked, eq_of_entry entered]
  refine ⟨?_, by simp⟩
  simp [descend, down]

theorem find?_of_newPlace (placed : files.newPlace place names = .ok found) {fault : FileFault}
    (missing : files.walk place names = .error fault) : files.find? found = none := by
  obtain ⟨above, last, parent, rfl, down, walked, entered⟩ := newPlace_cases placed
  rw [walk_concat, walked] at missing
  dsimp only at missing
  rw [follow_eq, entered] at missing
  dsimp only at missing
  rw [down] at missing
  cases there : files.find? found with
  | none => rfl
  | some node => simp [there] at missing

theorem eq_of_resolve (resolved : files.resolve folder path = .ok found) :
    ∃ first, start folder path = .ok first ∧ found = (Path.names path).foldl descend first := by
  obtain ⟨first, started, resolved⟩ := exists_of_bind_eq_ok resolved
  obtain ⟨place, walked, resolved⟩ := exists_of_bind_eq_ok resolved
  split at resolved
  · exact absurd resolved nofun
  · obtain rfl := Except.ok.inj resolved
    exact ⟨first, started, eq_of_walk walked⟩

theorem eq_of_filePlace (placed : files.filePlace folder path = .ok found) :
    (∃ first, start folder path = .ok first ∧ found = (Path.names path).foldl descend first) ∧
      found ≠ [] := by
  obtain ⟨first, started, placed⟩ := exists_of_bind_eq_ok placed
  obtain ⟨place, new, placed⟩ := exists_of_bind_eq_ok placed
  split at placed
  · exact absurd placed nofun
  · obtain rfl := Except.ok.inj placed
    obtain ⟨same, nonempty⟩ := eq_of_newPlace new
    exact ⟨⟨first, started, same⟩, nonempty⟩

theorem remove_cases {after : Files} (removed : files.remove folder path = .ok after) :
    ∃ place, files.resolve folder path = .ok place ∧ after = files.erase place := by
  obtain ⟨place, resolved, removed⟩ := exists_of_bind_eq_ok removed
  split at removed
  · exact absurd removed nofun
  · exact ⟨place, resolved, (Except.ok.inj removed).symm⟩

/-- A path that once led to a place for a file takes away nothing elsewhere. -/
theorem find?_remove_of_ne {earlier after : Files} {other : Place}
    (placed : earlier.filePlace folder path = .ok place)
    (removed : files.remove folder path = .ok after) (different : other ≠ place) :
    after.find? other = files.find? other := by
  obtain ⟨found, resolved, rfl⟩ := remove_cases removed
  obtain ⟨⟨first, started, spelled⟩, _⟩ := eq_of_filePlace placed
  obtain ⟨again, startedAgain, same⟩ := eq_of_resolve resolved
  obtain rfl := Except.ok.inj (started.symm.trans startedAgain)
  exact find?_erase_of_ne (same.trans spelled.symm ▸ different) files

end Places

theorem gainsFolders_makeFolder {disk : Disk} {place : Place} {names : List String}
    {files made : Files} (done : files.makeFolder disk place names = .ok made) :
    files.GainsFolders made := by
  unfold makeFolder at done
  split at done
  · split at done
    · obtain rfl := Except.ok.inj done
      exact .refl files
    · exact absurd done nofun
  · rename_i fault missing
    obtain ⟨found, placed, done⟩ := exists_of_bind_eq_ok done
    obtain ⟨_, _, done⟩ := exists_of_bind_eq_ok done
    obtain rfl := Except.ok.inj done
    exact gainsFolders_put_of_vacant (find?_of_newPlace placed missing)

theorem gainsFolders_makeFolders (disk : Disk) (place : Place) (reversed : List String)
    (files : Files) : files.GainsFolders (makeFolders disk place reversed files).2 := by
  induction reversed generalizing files with
  | nil => exact .refl files
  | cons name above ih =>
      unfold makeFolders
      split
      · rename_i made done
        exact gainsFolders_makeFolder done
      · have gained := ih files
        split
        · rename_i fault made outcome
          rwa [outcome] at gained
        · rename_i made outcome
          rw [outcome] at gained
          split
          · rename_i all done
            exact gained.trans (gainsFolders_makeFolder done)
          · exact gained
      · exact .refl files

theorem gainsFolders_createParents (disk : Disk) (folder : Place) (path : String) (files : Files) :
    files.GainsFolders (files.createParents disk folder path).2 := by
  unfold createParents createFolders
  split
  · exact .refl files
  · split
    · exact .refl files
    · exact gainsFolders_makeFolders disk _ _ files

theorem keeps_createParents (disk : Disk) (folder : Place) (path : String) (files : Files) :
    files.Keeps (files.createParents disk folder path).2 :=
  (gainsFolders_createParents disk folder path files).keeps

end Files

namespace StoreFile

variable {folder place : Place} {path : String} {files opened : Files} {store : StoreFile}

theorem readAt_cases (read : readAt place files = .ok (store, opened)) :
    store.place = place ∧ files.Keeps opened ∧
      ∀ mount, files.find? place ≠ some (.socket mount) := by
  unfold readAt at read
  split at read
  · exact absurd read (by simp)
  · split at read
    · rename_i vacant
      obtain ⟨rfl, rfl⟩ := Prod.mk.inj (Except.ok.inj read)
      exact ⟨rfl, Files.keeps_put_of_vacant vacant _, by simp [vacant]⟩
    · rename_i there
      obtain ⟨rfl, rfl⟩ := Prod.mk.inj (Except.ok.inj read)
      exact ⟨rfl, .refl _, by simp [there]⟩
    · rename_i there
      split at read
      · obtain ⟨rfl, rfl⟩ := Prod.mk.inj (Except.ok.inj read)
        exact ⟨rfl, .refl _, by simp [there]⟩
      · exact absurd read (by simp)
    · exact absurd read (by simp)

/-- A store is opened at a place where a file can be, and where no socket was. -/
theorem openAt_cases (done : openAt folder path files = (.ok store, opened)) :
    files.Keeps opened ∧ store.place ≠ [] ∧
      ∀ mount, files.find? store.place ≠ some (.socket mount) := by
  unfold openAt at done
  dsimp only at done
  have kept := Files.keeps_createParents .sound folder path files
  split at done
  · exact absurd (congrArg Prod.fst done) (by simp)
  · exact absurd (congrArg Prod.fst done) (by simp)
  · rename_i place made placed
    split at done
    · exact absurd (congrArg Prod.fst done) (by simp)
    · rename_i found after read
      obtain rfl := Except.ok.inj (congrArg Prod.fst done)
      obtain rfl : after = opened := congrArg Prod.snd done
      obtain ⟨same, keptToo, noSocket⟩ := readAt_cases read
      refine ⟨kept.trans keptToo, same ▸ (Files.eq_of_filePlace placed).2, ?_⟩
      intro mount there
      exact noSocket mount (same ▸ kept _ _ there)

theorem find?_keepOpen (nonempty : place ≠ []) (files : Files) :
    (keepOpen place files).find? place = files.find? place := by
  have apart : ∀ ending : String, ending ≠ "" →
      place ≠ place.dropLast ++ [place.getLast?.getD "" ++ ending] := by
    intro ending some same
    have last := congrArg List.getLast? same
    rw [List.getLast?_concat, List.getLast?_eq_some_getLast nonempty, Option.some.injEq,
      Option.getD_some] at last
    have size := congrArg String.utf8ByteSize last
    rw [String.utf8ByteSize_append] at size
    have none : ending.utf8ByteSize = 0 := by omega
    exact some (String.utf8ByteSize_eq_zero_iff.mp none)
  simp only [keepOpen, besides, List.map_cons, List.map_nil, List.foldl_cons, List.foldl_nil]
  rw [Files.find?_put_of_ne (apart "-shm" (by decide)),
    Files.find?_put_of_ne (apart "-wal" (by decide))]

end StoreFile

end Enlistment
