import Enlistment.Proofs.Mount.Effect
import Enlistment.Proofs.Objects.Naming

/-!
What can be asked for by a request for an object. Only an object id leads to a download, so whatever
text a request brings, it names a file among the objects or nothing at all.
-/

namespace Enlistment

open Control
open Text (equalIgnoringAsciiCase)

namespace Daemon

variable (fetch : ContentId → Bool) (body : Option String) (peer : Peer) (daemon : Daemon)

theorem handle_downloadObject :
    daemon.handle fetch ⟨Request.downloadObject, body⟩ peer =
      daemon.handleDownloadObject fetch body peer := by
  rfl

/-- A text that is no id is refused: as such by a mount that is ready, and unread by any other. -/
theorem handle_of_not_written (notWritten : ¬ContentId.IsWritten (body.getD "")) :
    daemon.handle fetch ⟨Request.downloadObject, body⟩ peer =
      daemon.answerCode
        (if daemon.readyPipeline?.isSome then DownloadObjectResult.invalidSha else .mountNotReady)
        peer := by
  rw [handle_downloadObject, handleDownloadObject]
  cases daemon.readyPipeline? with
  | none => rfl
  | some pipeline =>
      cases read : ContentId.parse (body.getD "") with
      | error fault => rfl
      | ok id => exact absurd (ContentId.exists_parse_iff.mp ⟨id, read⟩) notWritten

theorem downloads_suffer (effect : RequestEffect) :
    (daemon.suffer effect).downloads = daemon.downloads ∨
      ∃ id, effect = .download id ∧ (daemon.suffer effect).downloads = daemon.downloads ++ [id] := by
  cases effect with
  | download id => exact .inr ⟨id, rfl, rfl⟩
  | nothing => exact .inl rfl
  | unmount => exact .inl rfl
  | loseTrack => exact .inl rfl
  | setLock lock => exact .inl rfl
  | maintain packs => exact .inl rfl

theorem body_of_downloadEffect {body : Option String} {id : ContentId}
    (downloads : daemon.downloadEffect body = .download id) : body = some id.text := by
  unfold downloadEffect at downloads
  split at downloads
  · rename_i read
    obtain rfl := RequestEffect.download.inj downloads
    cases body with
    | some text => rw [ContentId.parse_eq_ok_iff.mp read, Option.getD_some]
    | none =>
        rw [Option.getD_none] at read
        exact absurd (ContentId.exists_parse_iff.mp ⟨_, read⟩) (by decide)
  · exact absurd downloads nofun

/-- Of all requests, only those for objects lead to downloads. -/
theorem request_of_effect_download {request : Message} {id : ContentId}
    (downloads : daemon.effect request = .download id) :
    request.header = Request.downloadObject ∧ request.body = some id.text := by
  unfold effect at downloads
  split at downloads
  · unfold unmountEffect at downloads
    split at downloads <;> exact absurd downloads nofun
  split at downloads
  · unfold acquireEffect at downloads
    split at downloads
    · split at downloads <;> exact absurd downloads nofun
    · exact absurd downloads nofun
  split at downloads
  · unfold releaseEffect at downloads
    split at downloads
    · split at downloads <;> exact absurd downloads nofun
    · exact absurd downloads nofun
  split at downloads
  · rename_i asked
    exact ⟨asked, daemon.body_of_downloadEffect downloads⟩
  split at downloads
  · unfold postFetchEffect at downloads
    split at downloads
    · split at downloads <;> exact absurd downloads nofun
    · exact absurd downloads nofun
  · exact absurd downloads nofun

/-- Whatever is downloaded was asked for by its id, in a request for an object. -/
theorem downloads_handle (request : Message) :
    (daemon.handle fetch request peer).daemon.downloads = daemon.downloads ∨
      ∃ id, (daemon.handle fetch request peer).daemon.downloads = daemon.downloads ++ [id] ∧
        request.header = Request.downloadObject ∧ request.body = some id.text := by
  rw [daemon_handle, after]
  rcases daemon.downloads_suffer (daemon.effect request) with same | ⟨id, effect, downloads⟩
  · exact .inl same
  · exact .inr ⟨id, downloads, daemon.request_of_effect_download effect⟩

end Daemon

/-- A request for an object can only name an object. A text is an id exactly if it is forty
hexadecimal digits, and otherwise its length is told, or else its first byte that is no digit. A text
that is no id is never downloaded; a mount that is ready says so, and any other does not read it. The
path of an object is that of all objects, then a folder of two and a file of thirty-eight lowercase
digits, and leads nowhere else. Two ids have one path, and one address, exactly if they are equal up
to the case of their letters. -/
theorem Daemon.object_requests_name_objects :
    (∀ text : String,
      ((∃ id, ContentId.parse text = .ok id) ↔ ContentId.IsWritten text) ∧
      (∀ id, ContentId.parse text = .ok id ↔ id.text = text) ∧
      ∀ error, ContentId.parse text = .error error ↔ ContentId.Fault text error) ∧
    (∀ (fetch : ContentId → Bool) (peer : Peer) (daemon : Daemon),
      (∀ body : Option String, ¬ContentId.IsWritten (body.getD "") →
        daemon.handle fetch ⟨Request.downloadObject, body⟩ peer =
            daemon.answerCode
              (if daemon.readyPipeline?.isSome then DownloadObjectResult.invalidSha
                else .mountNotReady) peer ∧
          (daemon.handle fetch ⟨Request.downloadObject, body⟩ peer).daemon = daemon) ∧
      ∀ request : Message,
        (daemon.handle fetch request peer).daemon.downloads = daemon.downloads ∨
          ∃ id, (daemon.handle fetch request peer).daemon.downloads = daemon.downloads ++ [id] ∧
            request.header = Request.downloadObject ∧ request.body = some id.text) ∧
    ∀ (id : ContentId) (downloader : ObjectDownloader),
      (∃ folder file, id.looseObjectPath = (folder, file) ∧ ContentId.IsObjectFile folder file ∧
        Path.isAbsolute (downloader.loosePath id) = Path.isAbsolute downloader.objectsRoot ∧
        Path.names (downloader.loosePath id) =
          Path.names downloader.objectsRoot ++ [folder, file] ∧
        ∀ (start place : Place) (files : Files),
          files.filePlace start (downloader.loosePath id) = .ok place →
            place = downloader.rootPlace start ++ [folder, file]) ∧
      (∀ other : ContentId,
        (downloader.loosePath id = downloader.loosePath other ↔
          equalIgnoringAsciiCase id.text.toList other.text.toList = true) ∧
        (id.objectName = other.objectName ↔
          equalIgnoringAsciiCase id.text.toList other.text.toList = true)) ∧
      ∀ url, downloader.objectUrl id = .ok url →
        ∃ above, url.path = .segments (above ++ [id.objectName.toList]) ∧
          ∀ other : ContentId, downloader.objectUrl other = .ok url ↔
            equalIgnoringAsciiCase id.text.toList other.text.toList = true := by
  refine ⟨fun text => ⟨ContentId.exists_parse_iff, fun id => ContentId.parse_eq_ok_iff,
    fun error => ContentId.parse_eq_error_iff⟩, fun fetch peer daemon => ⟨?_, ?_⟩,
    fun id downloader => ⟨?_, ?_, ?_⟩⟩
  · intro body notWritten
    have refused := daemon.handle_of_not_written fetch body peer notWritten
    exact ⟨refused, by simp [refused]⟩
  · exact daemon.downloads_handle fetch peer
  · exact ⟨_, _, rfl, id.isObjectFile_looseObjectPath, downloader.isAbsolute_loosePath id,
      downloader.names_loosePath id, fun start place files placed =>
        downloader.eq_of_filePlace_loosePath id placed⟩
  · intro other
    exact ⟨(downloader.loosePath_eq_iff id other).trans (id.objectName_eq_iff other),
      id.objectName_eq_iff other⟩
  · intro url found
    obtain ⟨above, path, _⟩ := downloader.objectUrl_eq_ok id found
    refine ⟨above, path, fun other => ?_⟩
    rw [downloader.objectUrl_eq_iff id other found, ← id.objectName_eq_iff other, eq_comm]

/-- A mount that is not ready yet does not look at what it is asked for. -/
theorem Daemon.unreadable_id_not_read_before_ready :
    let daemon := Daemon.mounting ⟨"/r", "/r/.git/objects", "", none⟩
    let handled := daemon.handle (fun _ => true) ⟨Request.downloadObject, some "nothex"⟩ .steady
    ¬ContentId.IsWritten "nothex" ∧
      handled.peer.lines = ["MountNotReady"] ∧
      handled.peer.lines ≠ [WireCode.spelling DownloadObjectResult.invalidSha] := by
  decide

end Enlistment
