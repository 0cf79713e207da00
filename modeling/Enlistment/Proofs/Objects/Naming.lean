import Enlistment.Objects
import Enlistment.Proofs.ContentId
import Enlistment.Proofs.Files.Replacing

/-!
Where an object is kept, and under what address it is asked for. The names of both are made of
lowercase digits, so they lead nowhere but down from the objects, and ids that differ in more than
the case of their digits never share them.
-/

namespace Enlistment

open Text (isHexDigit equalIgnoringAsciiCase)

namespace ContentId

def isNameDigit (character : Char) : Bool :=
  character.isDigit || ('a' ≤ character && character ≤ 'f')

theorem isNameDigit_toLower {character : Char} (digit : isHexDigit character = true) :
    isNameDigit character.toLower = true := by
  have codes : ∀ code < 128, isHexDigit (Char.ofNat code) = true →
      isNameDigit (Char.ofNat code).toLower = true := by decide
  have found := codes character.toNat (toNat_lt_of_isHexDigit digit)
  rw [Char.ofNat_toNat] at found
  exact found digit

theorem toNat_lt_of_isNameDigit {character : Char} (digit : isNameDigit character = true) :
    character.toNat < 128 := by
  have hexadecimal : isHexDigit character = true := by
    rw [isHexDigit, Bool.or_eq_true]
    exact .inl digit
  exact toNat_lt_of_isHexDigit hexadecimal

theorem not_inPathSet_of_isNameDigit {character : Char} (digit : isNameDigit character = true) :
    Url.inPathSet character = false := by
  have codes : ∀ code < 128, isNameDigit (Char.ofNat code) = true →
      Url.inPathSet (Char.ofNat code) = false := by decide
  have found := codes character.toNat (toNat_lt_of_isNameDigit digit)
  rw [Char.ofNat_toNat] at found
  exact found digit

structure IsObjectFile (folder file : String) : Prop where
  folderLength : folder.toList.length = 2
  fileLength : file.toList.length = 38
  folderDigits : ∀ character ∈ folder.toList, isNameDigit character = true
  fileDigits : ∀ character ∈ file.toList, isNameDigit character = true

theorem isPlainName_append {digits : String} (nonempty : digits ≠ "")
    (each : ∀ character ∈ digits.toList, isNameDigit character = true) (ending : String)
    (noSeparator : '/' ∉ ending.toList) : Path.IsPlainName (digits ++ ending) := by
  obtain ⟨first, rest, characters⟩ :=
    List.exists_cons_of_ne_nil (mt String.toList_eq_nil_iff.mp nonempty)
  have firstDigit := each first (characters ▸ List.mem_cons_self)
  -- dots are no digits, so no name of dots starts with one
  have apart : ∀ {dots : String}, dots.toList.head? = some '.' → digits ++ ending ≠ dots := by
    rintro _ dotted rfl
    rw [String.toList_append, characters, List.cons_append, List.head?_cons,
      Option.some.injEq] at dotted
    rw [dotted] at firstDigit
    exact absurd firstDigit (by decide)
  refine ⟨?_, ?_, apart (by decide), apart (by decide)⟩
  · intro empty
    have none := congrArg String.toList empty
    rw [String.toList_append, characters] at none
    exact absurd none (by simp)
  · rw [String.toList_append, List.mem_append, not_or]
    refine ⟨fun separator => ?_, noSeparator⟩
    exact absurd (each '/' separator) (by decide)

theorem IsObjectFile.plainFolder {folder file : String} (isObject : IsObjectFile folder file) :
    Path.IsPlainName folder := by
  have nonempty : folder ≠ "" := by
    rintro rfl
    exact absurd isObject.folderLength (by decide)
  simpa using isPlainName_append nonempty isObject.folderDigits "" (by decide)

/-- The file is a plain name, and so is what is written beside it. -/
theorem IsObjectFile.plainFile {folder file : String} (isObject : IsObjectFile folder file) :
    Path.IsPlainName file ∧ Path.IsPlainName (file ++ ".tmp") := by
  have nonempty : file ≠ "" := by
    rintro rfl
    exact absurd isObject.fileLength (by decide)
  have plain := isPlainName_append nonempty isObject.fileDigits
  exact ⟨by simpa using plain "" (by decide), plain ".tmp" (by decide)⟩

variable (id other : ContentId)

@[simp]
theorem toList_objectName : id.objectName.toList = id.text.toList.map Char.toLower := by
  rw [objectName, Text.asciiLowercase, String.toList_ofList]

theorem isNameDigit_of_mem_objectName {character : Char}
    (member : character ∈ id.objectName.toList) : isNameDigit character = true := by
  rw [toList_objectName] at member
  obtain ⟨digit, listed, rfl⟩ := List.mem_map.mp member
  exact isNameDigit_toLower (List.all_eq_true.mp id.isHex digit listed)

theorem isObjectFile_looseObjectPath :
    IsObjectFile id.looseObjectPath.1 id.looseObjectPath.2 := by
  have sized : id.objectName.toList.length = 40 := by
    simp [id.hasLength, length]
  refine ⟨?_, ?_, fun character member => ?_, fun character member => ?_⟩
  · rw [looseObjectPath, String.toList_ofList, List.length_take, sized]
    rfl
  · rw [looseObjectPath, String.toList_ofList, List.length_drop, sized]
  · rw [looseObjectPath, String.toList_ofList] at member
    exact id.isNameDigit_of_mem_objectName (List.mem_of_mem_take member)
  · rw [looseObjectPath, String.toList_ofList] at member
    exact id.isNameDigit_of_mem_objectName (List.mem_of_mem_drop member)

theorem objectName_eq_iff :
    id.objectName = other.objectName ↔
      equalIgnoringAsciiCase id.text.toList other.text.toList = true := by
  rw [← String.toList_inj, toList_objectName, toList_objectName, equalIgnoringAsciiCase,
    beq_iff_eq]

theorem looseObjectPath_eq_iff :
    id.looseObjectPath = other.looseObjectPath ↔ id.objectName = other.objectName := by
  constructor
  · intro same
    simp only [looseObjectPath, Prod.mk.injEq, String.ofList_inj] at same
    rw [← String.toList_inj, ← List.take_append_drop 2 id.objectName.toList, same.1, same.2,
      List.take_append_drop]
  · intro same
    rw [looseObjectPath, looseObjectPath, same]

end ContentId

namespace Url

theorem percentEncode_of_plain {isEncoded : Char → Bool} {text : List Char}
    (plain : ∀ character ∈ text, isEncoded character = false) : percentEncode isEncoded text = text := by
  induction text with
  | nil => rfl
  | cons character rest ih =>
      have tail := ih fun next member => plain next (List.mem_cons_of_mem _ member)
      rw [percentEncode, List.flatMap_cons, percentEncodeCharacter,
        if_neg (by simp [plain character List.mem_cons_self])]
      exact congrArg (character :: ·) tail

end Url

namespace ObjectDownloader

variable (id other : ContentId) (downloader : ObjectDownloader)

theorem loosePath_eq : downloader.loosePath id =
    Path.join (Path.join downloader.objectsRoot id.looseObjectPath.1) id.looseObjectPath.2 := by
  rfl

@[simp]
theorem names_loosePath : Path.names (downloader.loosePath id) =
    Path.names downloader.objectsRoot ++ [id.looseObjectPath.1, id.looseObjectPath.2] := by
  have isObject := id.isObjectFile_looseObjectPath
  rw [loosePath_eq, Path.names_join isObject.plainFile.1, Path.names_join isObject.plainFolder,
    List.append_assoc]
  rfl

@[simp]
theorem isAbsolute_loosePath :
    Path.isAbsolute (downloader.loosePath id) = Path.isAbsolute downloader.objectsRoot := by
  have isObject := id.isObjectFile_looseObjectPath
  rw [loosePath_eq, Path.isAbsolute_join isObject.plainFile.1,
    Path.isAbsolute_join isObject.plainFolder]

theorem loosePath_eq_iff :
    downloader.loosePath id = downloader.loosePath other ↔ id.objectName = other.objectName := by
  rw [← ContentId.looseObjectPath_eq_iff]
  constructor
  · intro same
    have names := congrArg Path.names same
    rw [names_loosePath, names_loosePath] at names
    have parts := List.append_cancel_left names
    simp only [List.cons.injEq, and_true] at parts
    exact Prod.ext parts.1 parts.2
  · intro same
    rw [loosePath_eq, loosePath_eq, same]

def rootPlace (folder : Place) (downloader : ObjectDownloader) : Place :=
  (Path.names downloader.objectsRoot).foldl Files.descend
    (if Path.isAbsolute downloader.objectsRoot then [] else folder)

/-- The path of an object leads into a folder in that of the objects. -/
theorem eq_of_leadsInto_loosePath {folder parent : Place} {name : String} {files : Files}
    (leads : files.LeadsInto folder (downloader.loosePath id) parent name) :
    parent = downloader.rootPlace folder ++ [id.looseObjectPath.1] ∧
      name = id.looseObjectPath.2 := by
  have isObject := id.isObjectFile_looseObjectPath
  obtain ⟨first, above, started, spelled, walked⟩ := leads.reached
  have begins : first = if Path.isAbsolute downloader.objectsRoot then [] else folder := by
    rw [← downloader.isAbsolute_loosePath id]
    exact Files.eq_of_start started
  rw [names_loosePath, ← List.singleton_append, ← List.append_assoc] at spelled
  have same := List.append_singleton_inj.mp spelled
  have down : ∀ root : Place, Files.descend root id.looseObjectPath.1 =
      root ++ [id.looseObjectPath.1] := by
    intro root
    rw [Files.descend, if_neg (by simpa using isObject.plainFolder.notDots)]
  refine ⟨?_, same.2.symm⟩
  rw [Files.eq_of_walk walked, ← same.1, begins, List.foldl_append, List.foldl_cons,
    List.foldl_nil, down]
  rfl

/-- If the path of an object leads anywhere, then to a file in a folder in that of the objects. -/
theorem eq_of_filePlace_loosePath {folder place : Place} {files : Files}
    (placed : files.filePlace folder (downloader.loosePath id) = .ok place) :
    place = downloader.rootPlace folder ++ [id.looseObjectPath.1, id.looseObjectPath.2] := by
  obtain ⟨parent, name, leads, rfl, _⟩ := Files.leadsInto_of_filePlace placed
  obtain ⟨rfl, rfl⟩ := downloader.eq_of_leadsInto_loosePath id leads
  rw [List.append_assoc]
  rfl

theorem percentEncode_objectName :
    Url.percentEncode Url.inPathSet id.objectName.toList = id.objectName.toList :=
  Url.percentEncode_of_plain fun _ member =>
    ContentId.not_inPathSet_of_isNameDigit (id.isNameDigit_of_mem_objectName member)

/-- The address of an object differs from that of any other in its last segment alone, which is the
object's name. -/
theorem objectUrl_eq_ok {url : Url} (found : downloader.objectUrl id = .ok url) :
    ∃ above, url.path = .segments (above ++ [id.objectName.toList]) ∧
      ∀ another : ContentId, downloader.objectUrl another =
        .ok { url with path := .segments (above ++ [another.objectName.toList]) } := by
  unfold objectUrl at found ⊢
  cases server : downloader.cacheServer with
  | none => exact absurd (server ▸ found) nofun
  | some base =>
      rw [server] at found
      cases path : base.path with
      | opaqueText text =>
          simp only [Url.below, path] at found
          exact absurd found nofun
      | segments parts =>
          simp only [Url.below, path, List.map_cons, List.map_nil, percentEncode_objectName,
            Except.ok.injEq] at found ⊢
          rw [← found]
          refine ⟨Url.folderSegments (Url.isFileScheme base.scheme) parts ++
            [Url.percentEncode Url.inPathSet "gvfs".toList,
              Url.percentEncode Url.inPathSet "objects".toList], ?_, fun another => ?_⟩
          · rw [List.append_assoc]
            rfl
          · rw [List.append_assoc]
            rfl

theorem objectUrl_eq_iff {url : Url} (found : downloader.objectUrl id = .ok url) :
    downloader.objectUrl other = .ok url ↔ other.objectName = id.objectName := by
  obtain ⟨above, path, all⟩ := downloader.objectUrl_eq_ok id found
  rw [all other, Except.ok.injEq]
  constructor
  · intro same
    have paths := congrArg Url.path same
    rw [path, UrlPath.segments.injEq] at paths
    have parts := List.append_cancel_left paths
    rw [List.cons.injEq] at parts
    exact String.toList_inj.mp parts.1
  · intro same
    rw [same, ← path]

end ObjectDownloader

end Enlistment
