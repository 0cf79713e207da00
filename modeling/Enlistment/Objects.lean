import Enlistment.ContentId
import Enlistment.Files
import Enlistment.Url

/-!
Fetching objects that are missing from a cache server. An object is first written beside its file
and then moved there, so that the file never holds a part of it.
-/

namespace Enlistment

structure ObjectDownloader where
  cacheServer : Option Url
  objectsRoot : String

inductive ObjectUrlError where
  | noCacheServer
  | url (error : UrlError)
deriving DecidableEq

def ObjectUrlError.message : ObjectUrlError → String
  | noCacheServer => "no cache server is configured"
  | url error => "invalid object url: " ++ error.message

def httpStatus? (text : String) : Option Nat :=
  let isWordCharacter (character : Char) : Bool :=
    character == '\t' || (0x20 ≤ character.toNat && character.toNat ≠ 0x7F)
  let digits := text.toList.take 3
  let words := text.toList.drop 3
  let status := Text.valueOf 10 digits
  if digits.length == 3 && digits.all Char.isDigit && 100 ≤ status &&
      (words.isEmpty || words.head? == some ' ') && words.all isWordCharacter then some status
  else none

structure HttpAnswer where
  status : Nat
  declaredLength : Nat
  body : ByteArray

namespace HttpAnswer

def isSuccess (answer : HttpAnswer) : Bool :=
  200 ≤ answer.status && answer.status < 300

def hasNoContent (status : Nat) : Bool :=
  status == 204 || status == 304

def content? (answer : HttpAnswer) : Option ByteArray :=
  if hasNoContent answer.status then some ByteArray.empty
  else if answer.body.size < answer.declaredLength then none
  else some (answer.body.extract 0 answer.declaredLength)

end HttpAnswer

namespace ObjectDownloader

def objectUrl (id : ContentId) (downloader : ObjectDownloader) : Except ObjectUrlError Url :=
  match downloader.cacheServer with
  | none => .error .noCacheServer
  | some server =>
      match server.below ["gvfs", "objects", id.objectName] with
      | .ok url => .ok url
      | .error error => .error (.url error)

def loosePath (id : ContentId) (downloader : ObjectDownloader) : String :=
  let (folder, file) := id.looseObjectPath
  Path.join (Path.join downloader.objectsRoot folder) file

def stagingPath (path : String) : String :=
  path ++ ".tmp"

/-- Writes a file beside its path and then moves it there. What was done before something failed is left
as it is. -/
def save (disk : Disk) (folder : Place) (path : String) (content : ByteArray) (files : Files) :
    Bool × Files :=
  match files.createParents disk folder path with
  | (.error _, made) => (false, made)
  | (.ok _, made) =>
      match made.writeFile disk folder (stagingPath path) content with
      | (.error _, written) => (false, written)
      | (.ok _, written) =>
          match written.rename disk folder (stagingPath path) path with
          | .error _ => (false, written)
          | .ok moved => (true, moved)

/-- Downloads an object and saves it. `ask` gives a server's answer, if a server can be reached. -/
def download (ask : Url → Option HttpAnswer) (disk : Disk) (folder : Place) (id : ContentId)
    (downloader : ObjectDownloader) (files : Files) : Bool × Files :=
  match downloader.objectUrl id with
  | .error _ => (false, files)
  | .ok url =>
      match (ask url).filter HttpAnswer.isSuccess with
      | none => (false, files)
      | some answer =>
          match answer.content? with
          | none => (false, files)
          | some content => save disk folder (downloader.loosePath id) content files

end ObjectDownloader

end Enlistment
