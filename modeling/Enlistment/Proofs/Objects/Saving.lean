import Enlistment.Proofs.Objects.Naming

/-!
What a download leaves behind. A saved object is all that the server sent, and what was written beside
it is gone. A download that fails leaves all files as they were, unless it had begun to write beside the
object: where the disk stops that write, or nothing can be moved to the path of the object, what was
written stays there.
-/

namespace Enlistment

structure HttpAnswer.Delivers (answer : HttpAnswer) (content : ByteArray) : Prop where
  success : 200 ≤ answer.status ∧ answer.status < 300
  whole :
    (answer.status = 204 ∧ content = ByteArray.empty) ∨
      (answer.status ≠ 204 ∧ answer.declaredLength ≤ answer.body.size ∧
        content = answer.body.extract 0 answer.declaredLength)

theorem HttpAnswer.delivers_iff {answer : HttpAnswer} {content : ByteArray} :
    answer.Delivers content ↔ answer.isSuccess = true ∧ answer.content? = some content := by
  have success : answer.isSuccess = true ↔ 200 ≤ answer.status ∧ answer.status < 300 := by
    simp [isSuccess]
  rw [success]
  constructor
  · intro delivers
    refine ⟨delivers.success, ?_⟩
    rcases delivers.whole with ⟨none, rfl⟩ | ⟨some, enough, rfl⟩
    · simp [content?, hasNoContent, none]
    · have notModified : answer.status ≠ 304 := by
        have below := delivers.success.2
        omega
      rw [content?, hasNoContent, if_neg (by simp [some, notModified]), if_neg (by omega)]
  · rintro ⟨range, sent⟩
    refine ⟨range, ?_⟩
    unfold content? hasNoContent at sent
    split at sent
    · rename_i none
      have status : answer.status = 204 := by
        simp only [Bool.or_eq_true, beq_iff_eq] at none
        omega
      exact .inl ⟨status, (Option.some.inj sent).symm⟩
    · rename_i some
      split at sent
      · exact absurd sent nofun
      · have status : answer.status ≠ 204 := by
          simp only [Bool.or_eq_true, beq_iff_eq, not_or] at some
          exact some.1
        exact .inr ⟨status, by omega, (Option.some.inj sent).symm⟩

theorem Disk.taken_eq_extract (disk : Disk) (content : ByteArray) :
    ∃ bytes, disk.taken content = content.extract 0 bytes := by
  unfold taken
  cases disk.stop? with
  | none => exact ⟨content.size, by simp⟩
  | some stop => exact ⟨stop.1, rfl⟩

theorem Disk.finish_eq_ok_iff {content : ByteArray} {disk : Disk} :
    disk.finish content = .ok () ↔ disk.taken content = content := by
  unfold finish taken
  cases disk.stop? with
  | none => simp
  | some stop =>
      dsimp only
      by_cases short : stop.1 < content.size
      · rw [if_pos short]
        refine iff_of_false nofun fun whole => ?_
        have size := congrArg ByteArray.size whole
        rw [ByteArray.size_extract] at size
        omega
      · rw [if_neg short]
        refine iff_of_true rfl (ByteArray.ext ?_)
        rw [ByteArray.data_extract]
        exact Array.extract_eq_self_of_le (Nat.not_lt.mp short)

namespace ObjectDownloader

open Files

variable (ask : Url → Option HttpAnswer) (disk : Disk) (folder : Place) (id : ContentId)
  (downloader : ObjectDownloader) (files : Files)

def Receives (content : ByteArray) : Prop :=
  ∃ url answer, downloader.objectUrl id = .ok url ∧ ask url = some answer ∧ answer.Delivers content

theorem download_of_receives {content : ByteArray} (received : downloader.Receives ask id content) :
    downloader.download ask disk folder id files =
      save disk folder (downloader.loosePath id) content files := by
  obtain ⟨url, answer, found, answered, delivers⟩ := received
  obtain ⟨success, sent⟩ := HttpAnswer.delivers_iff.mp delivers
  rw [download, found]
  simp only [answered, Option.filter_some, success, if_true, sent]

theorem download_cases :
    downloader.download ask disk folder id files = (false, files) ∨
      ∃ content, downloader.Receives ask id content := by
  unfold download
  split
  · exact .inl rfl
  · rename_i url found
    split
    · exact .inl rfl
    · rename_i answer passed
      obtain ⟨answered, success⟩ := Option.filter_eq_some_iff.mp passed
      split
      · exact .inl rfl
      · rename_i content sent
        exact .inr ⟨content, url, answer, found, answered,
          HttpAnswer.delivers_iff.mpr ⟨success, sent⟩⟩

def objectPlace : Place :=
  downloader.rootPlace folder ++ [id.looseObjectPath.1, id.looseObjectPath.2]

def stagingPlace : Place :=
  downloader.rootPlace folder ++ [id.looseObjectPath.1, id.looseObjectPath.2 ++ ".tmp"]

/-- The object is all of a file, nothing is beside it any more, and nothing else has changed. -/
structure Saves (content : ByteArray) (before after : Files) : Prop where
  whole : after.at? folder (downloader.loosePath id) = some (.file content)
  alone : after.at? folder (stagingPath (downloader.loosePath id)) = none
  frame : ∀ place, place ≠ downloader.objectPlace folder id →
    place ≠ downloader.stagingPlace folder id → after.find? place = before.find? place

/-- An object that was begun to be written cannot be brought to its path: the disk stops the write, or
does not let anything be moved there, or a folder stands there. -/
def Blocks (content : ByteArray) (files : Files) : Prop :=
  disk.taken content ≠ content ∨ disk.permit (downloader.objectPlace folder id) ≠ .ok () ∨
    files.at? folder (downloader.loosePath id) = some .folder

/-- What the disk took of an object, from its start on, is beside its path, and nothing else has
changed. -/
structure LeavesStaging (content : ByteArray) (before after : Files) : Prop where
  blocked : downloader.Blocks disk folder id content after
  start : ∃ bytes, disk.taken content = content.extract 0 bytes
  beside : after.at? folder (stagingPath (downloader.loosePath id)) =
    some (.file (disk.taken content))
  frame : ∀ place, place ≠ downloader.stagingPlace folder id →
    after.find? place = before.find? place

section Staging

variable {disk folder id downloader files} {made : Files} {content : ByteArray}

/-- An object is begun to be written at one place, and from there it is moved to its own, unless that is
not possible. -/
theorem rename_of_writing {name : String} {parent : Place}
    (leads : made.LeadsInto folder (stagingPath (downloader.loosePath id)) parent name)
    (file : made.isFolder (parent ++ [name]) = false) (content : ByteArray) (disk : Disk) :
    let path := downloader.loosePath id
    let written := made.put (parent ++ [name]) (.file content)
    parent ++ [name] = downloader.stagingPlace folder id ∧
    written.at? folder path = made.at? folder path ∧
    written.at? folder (stagingPath path) = some (.file content) ∧
    ((made.at? folder path = some .folder ∨
          disk.permit (downloader.objectPlace folder id) ≠ .ok ()) ∧
        (∃ fault, written.rename disk folder (stagingPath path) path = .error fault) ∨
      (made.at? folder path ≠ some .folder ∧
          disk.permit (downloader.objectPlace folder id) = .ok ()) ∧
        ∃ after, written.rename disk folder (stagingPath path) path = .ok after ∧
          downloader.Saves folder id content made after) := by
  intro path written
  obtain ⟨plain, longer⟩ := id.isObjectFile_looseObjectPath.plainFile
  have spelled := leads
  rw [stagingPath, loosePath_eq] at spelled
  obtain ⟨rfl, enters⟩ := leadsInto_of_append plain longer spelled
  rw [← loosePath_eq] at enters
  have different : id.looseObjectPath.2 ++ ".tmp" ≠ id.looseObjectPath.2 := by
    intro same
    have size := congrArg String.utf8ByteSize same
    rw [String.utf8ByteSize_append] at size
    exact absurd size (by simp)
  obtain ⟨rfl, _⟩ := downloader.eq_of_leadsInto_loosePath id enters
  have object : downloader.rootPlace folder ++ [id.looseObjectPath.1] ++ [id.looseObjectPath.2] =
      downloader.objectPlace folder id := by
    rw [objectPlace, List.append_assoc, List.singleton_append]
  have staging : downloader.rootPlace folder ++ [id.looseObjectPath.1] ++
      [id.looseObjectPath.2 ++ ".tmp"] = downloader.stagingPlace folder id := by
    rw [stagingPlace, List.append_assoc, List.singleton_append]
  obtain ⟨same, stays, outcome⟩ := rename_of_put_cases content leads enters different file disk
  rw [object] at outcome
  refine ⟨staging, same, stays, outcome.imp_right ?_⟩
  rintro ⟨free, after, moved, whole, alone, frame⟩
  rw [staging] at frame
  exact ⟨free, after, moved, whole, alone, frame⟩

/-- An object that was begun to be written is saved, or is kept from that and stays where it was
written. -/
theorem save_of_writing {name : String} {parent : Place}
    (created : files.createParents disk folder (downloader.loosePath id) = (.ok (), made))
    (leads : made.LeadsInto folder (stagingPath (downloader.loosePath id)) parent name)
    (file : made.isFolder (parent ++ [name]) = false)
    (wrote : made.writeFile disk folder (stagingPath (downloader.loosePath id)) content =
      (disk.finish content, made.put (parent ++ [name]) (.file (disk.taken content)))) :
    (downloader.Blocks disk folder id content made ∧
      save disk folder (downloader.loosePath id) content files =
        (false, made.put (parent ++ [name]) (.file (disk.taken content))) ∧
      downloader.LeavesStaging disk folder id content made
        (made.put (parent ++ [name]) (.file (disk.taken content)))) ∨
    (¬ downloader.Blocks disk folder id content made ∧
      ∃ after, save disk folder (downloader.loosePath id) content files = (true, after) ∧
        downloader.Saves folder id content made after) := by
  obtain ⟨staging, same, stays, outcome⟩ :=
    rename_of_writing leads file (disk.taken content) disk
  let written := made.put (parent ++ [name]) (.file (disk.taken content))
  have leaves (blocked : downloader.Blocks disk folder id content made) :
      downloader.LeavesStaging disk folder id content made written := by
    refine ⟨?_, disk.taken_eq_extract content, stays, fun place apart =>
      find?_put_of_ne (staging ▸ apart) _ made⟩
    rwa [Blocks, same]
  cases finished : disk.finish content with
  | error fault =>
      have blocked : downloader.Blocks disk folder id content made :=
        .inl fun whole => absurd (Disk.finish_eq_ok_iff.mpr whole) (by simp [finished])
      refine .inl ⟨blocked, ?_, leaves blocked⟩
      simp only [save, created, wrote, finished]
  | ok =>
      have whole := Disk.finish_eq_ok_iff.mp finished
      rw [whole] at outcome wrote
      obtain ⟨blocked, fault, refused⟩ | ⟨⟨noFolder, permitted⟩, after, moved, saved⟩ := outcome
      · have blocked : downloader.Blocks disk folder id content made := .inr blocked.symm
        refine .inl ⟨blocked, ?_, leaves blocked⟩
        simp only [save, created, wrote, finished, refused, whole]
      · refine .inr ⟨?_, after, ?_, saved⟩
        · rintro (cut | refused | stands)
          · exact cut whole
          · exact refused permitted
          · exact noFolder stands
        · simp only [save, created, wrote, finished, moved]

theorem save_cases (content : ByteArray) (files : Files) :
    ∃ made, files.GainsFolders made ∧
      (save disk folder (downloader.loosePath id) content files = (false, made) ∨
      (∃ after, save disk folder (downloader.loosePath id) content files = (false, after) ∧
        downloader.LeavesStaging disk folder id content made after) ∨
      ∃ after, save disk folder (downloader.loosePath id) content files = (true, after) ∧
        downloader.Saves folder id content made after) := by
  have gained := gainsFolders_createParents disk folder (downloader.loosePath id) files
  rcases created : files.createParents disk folder (downloader.loosePath id) with
    ⟨fault | done, made⟩
  · rw [created] at gained
    refine ⟨made, gained, .inl ?_⟩
    rw [save, created]
  · rw [created] at gained
    refine ⟨made, gained, ?_⟩
    obtain ⟨fault, wrote⟩ | ⟨parent, name, leads, file, wrote⟩ :=
      writeFile_cases disk folder (stagingPath (downloader.loosePath id)) content made
    · refine .inl ?_
      simp only [save, created, wrote]
    · obtain ⟨_, refused, left⟩ | ⟨_, saved⟩ := save_of_writing created leads file wrote
      · exact .inr (.inl ⟨_, refused, left⟩)
      · exact .inr (.inr saved)

/-- Where an object is kept from its path, whatever is written beside it stays. -/
theorem save_of_blocks
    (created : files.createParents disk folder (downloader.loosePath id) = (.ok (), made))
    (blocked : downloader.Blocks disk folder id content made) :
    save disk folder (downloader.loosePath id) content files =
      (false,
        (made.writeFile disk folder (stagingPath (downloader.loosePath id)) content).2) := by
  obtain ⟨fault, wrote⟩ | ⟨parent, name, leads, file, wrote⟩ :=
    writeFile_cases disk folder (stagingPath (downloader.loosePath id)) content made
  · simp only [save, created, wrote]
  · obtain ⟨_, refused, _⟩ | ⟨free, _⟩ := save_of_writing created leads file wrote
    · rw [refused, wrote]
    · exact absurd blocked free

/-- Where a folder stands at the path of an object, no folder has to be made for it. -/
theorem createParents_of_folder
    (there : files.at? folder (downloader.loosePath id) = some .folder) :
    files.createParents disk folder (downloader.loosePath id) = (.ok (), files) := by
  have isObject := id.isObjectFile_looseObjectPath
  have spelled : Path.names (downloader.loosePath id) =
      (Path.names downloader.objectsRoot ++ [id.looseObjectPath.1]) ++ [id.looseObjectPath.2] := by
    simp
  have file := Path.not_endsInFolder_join isObject.plainFile.1
    (Path.join downloader.objectsRoot id.looseObjectPath.1)
  obtain ⟨parent, leads⟩ := leadsInto_of_at? there spelled isObject.plainFile.1.notDots file
  refine createParents_of_leadsInto leads ?_ disk
  rw [spelled]
  simp

end Staging

/-- What a download leaves behind, whatever a server answers, whatever was there and wherever the disk
stops. If it succeeds, the server said so and sent all of the object, and the object is saved. If it
fails, all files are as they were, or the object was received and kept from its path, and what the disk
took of it is left beside that. So it always is where an object was received, the folders above it could
be made and it is kept from its path; and a folder that stood at its path always keeps it from there. -/
theorem download_saves_or_leaves_staging :
    let path := downloader.loosePath id
    let outcome := downloader.download ask disk folder id files
    (outcome.1 = true → ∃ content made, downloader.Receives ask id content ∧
      files.GainsFolders made ∧ downloader.Saves folder id content made outcome.2) ∧
    (outcome.1 = false → files.GainsFolders outcome.2 ∨
      ∃ content made, downloader.Receives ask id content ∧
        files.GainsFolders made ∧ downloader.LeavesStaging disk folder id content made outcome.2) ∧
    (∀ content made, downloader.Receives ask id content →
      files.createParents disk folder path = (.ok (), made) →
      downloader.Blocks disk folder id content made →
      outcome = (false, (made.writeFile disk folder (stagingPath path) content).2)) ∧
    ∀ content, downloader.Receives ask id content → files.at? folder path = some .folder →
      outcome = (false, (files.writeFile disk folder (stagingPath path) content).2) := by
  intro path outcome
  refine ⟨fun succeeded => ?_, fun failed => ?_, fun content made received created blocked => ?_,
    fun content received there => ?_⟩
  · obtain same | ⟨content, received⟩ := downloader.download_cases ask disk folder id files
    · exact absurd ((congrArg Prod.fst same).symm.trans succeeded) nofun
    have saving := downloader.download_of_receives ask disk folder id files received
    obtain ⟨made, gained, same | ⟨_, same, _⟩ | ⟨after, same, saved⟩⟩ :=
      downloader.save_cases content files
    · exact absurd ((congrArg Prod.fst (saving.trans same)).symm.trans succeeded) nofun
    · exact absurd ((congrArg Prod.fst (saving.trans same)).symm.trans succeeded) nofun
    · rw [show outcome = (true, after) from saving.trans same]
      exact ⟨content, made, received, gained, saved⟩
  · obtain same | ⟨content, received⟩ := downloader.download_cases ask disk folder id files
    · rw [show outcome = (false, files) from same]
      exact .inl (GainsFolders.refl files)
    have saving := downloader.download_of_receives ask disk folder id files received
    obtain ⟨made, gained, same | ⟨after, same, left⟩ | ⟨_, same, _⟩⟩ :=
      downloader.save_cases content files
    · rw [show outcome = (false, made) from saving.trans same]
      exact .inl gained
    · rw [show outcome = (false, after) from saving.trans same]
      exact .inr ⟨content, made, received, gained, left⟩
    · exact absurd ((congrArg Prod.fst (saving.trans same)).symm.trans failed) nofun
  · exact (downloader.download_of_receives ask disk folder id files received).trans
      (save_of_blocks created blocked)
  · exact (downloader.download_of_receives ask disk folder id files received).trans
      (save_of_blocks (createParents_of_folder there) (.inr (.inr there)))

def folderAtObject : Files :=
  ⟨[(["objects", "01", "23456789abcdef0123456789abcdef01234567"], .folder),
    (["objects", "01"], .folder), (["objects"], .folder)]⟩

/-- The download of that object fails, and what the server sent is left beside the folder. -/
theorem staging_left_beside_folder :
    let id : ContentId := ⟨"0123456789abcdef0123456789abcdef01234567", by decide, by decide⟩
    let server : Url :=
      ⟨"http", some ⟨[], none, .domain "cache.test", none⟩, .segments [['c']], none, none⟩
    let downloader : ObjectDownloader := ⟨some server, "/objects"⟩
    let beside := stagingPath (downloader.loosePath id)
    let outcome :=
      downloader.download (fun _ => some ⟨200, 4, "data".toUTF8⟩) .sound [] id folderAtObject
    outcome.1 = false ∧ (folderAtObject.at? [] beside).isNone = true ∧
      (outcome.2.at? [] beside).isSome = true := by
  decide +kernel

end ObjectDownloader

end Enlistment
