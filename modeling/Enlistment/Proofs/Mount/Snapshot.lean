import Enlistment.Proofs.Control.ListPayload
import Enlistment.Proofs.Mount.Exchange
import Enlistment.Proofs.Mount.Reached

/-!
The list of modified paths as a client gets it. Escaping, framing and reading keep every character
of every entry; only the empty entry does not come through, since a list is read without its empty
parts.
-/

namespace Enlistment

open Control Enlistment.Path

def ModifiedPaths.message (paths : ModifiedPaths) : Message :=
  ⟨WireCode.spelling ModifiedPathsResult.success, some (joinList paths.all)⟩

theorem ModifiedPaths.sendable_message {paths : ModifiedPaths}
    (fits : paths.message.toLine.utf8ByteSize ≤ maxMessageBytes) :
    Sendable paths.message.toLine := by
  have parts : paths.message.toLine.toList = 'S' :: '|' :: (joinList paths.all).toList := by
    simp only [message, Message.toLine, String.toList_append]
    rfl
  refine ⟨?_, fits⟩
  rw [parts]
  simp [not_mem_joinList]

/-- A mount that is ready answers with the paths that its pipeline has in memory. -/
theorem Daemon.handle_modifiedPaths {daemon : Daemon} {pipeline : Pipeline}
    (ready : daemon.state = .ready) (served : daemon.pipeline = some pipeline)
    (fits : pipeline.stores.paths.message.toLine.utf8ByteSize ≤ maxMessageBytes)
    (fetch : ContentId → Bool) :
    daemon.handle fetch ⟨Request.modifiedPaths, some Request.modifiedPathsVersion⟩ .steady =
      ⟨.ok (), ⟨[pipeline.stores.paths.message.toLine], none⟩, daemon⟩ := by
  have written := writeLine_of_sendable (ModifiedPaths.sendable_message fits)
  have asked : daemon.readyPipeline? = some pipeline := by
    rw [readyPipeline?, if_pos ready, served]
  have answered : Peer.steady.answer pipeline.stores.paths.message =
      (.ok (), ⟨[pipeline.stores.paths.message.toLine], none⟩) := by
    simp only [Peer.answer, Peer.answerLine, Peer.writeLine, written]
    rfl
  have handled : daemon.handle fetch ⟨Request.modifiedPaths, some Request.modifiedPathsVersion⟩
      .steady = daemon.handleModifiedPaths (some Request.modifiedPathsVersion) .steady := rfl
  rw [handled, handleModifiedPaths, asked]
  dsimp only
  rw [if_neg (by decide), answerWith]
  rw [show Peer.steady.answer ⟨WireCode.spelling ModifiedPathsResult.success,
    some (joinList pipeline.stores.paths.all)⟩ = _ from answered]

/-- A client reads a list as the entries that are not empty. -/
theorem Control.Message.fromLine_joinList (entries : List String) :
    ∃ body, fromLine (toLine
        ⟨WireCode.spelling ModifiedPathsResult.success, some (joinList entries)⟩) =
        ⟨WireCode.spelling ModifiedPathsResult.success, body⟩ ∧
      (body.map splitList).getD [] = entries.filter (· ≠ "") := by
  have noBar : '|' ∉ (WireCode.spelling ModifiedPathsResult.success).toList := by decide
  refine ⟨_, fromLine_toLine noBar _, ?_⟩
  rw [← splitList_joinList, trimmed_of_plain (not_mem_joinList (by decide) _)
    (not_mem_joinList (by decide) _)]
  split
  · rename_i empty
    rw [empty]
    rfl
  · rfl

namespace Machine

@[simp]
theorem state_reloaded (hosted : HostedMount) (files : Files) :
    (reloaded hosted files).state = hosted.daemon.state := by
  unfold reloaded
  split <;> rfl

theorem pipeline_reloaded {hosted : HostedMount} {pipeline : Pipeline}
    (served : hosted.daemon.pipeline = some pipeline) (files : Files) :
    ∃ current, (reloaded hosted files).pipeline = some current ∧
      current.stores.paths = pipeline.stores.paths := by
  unfold reloaded
  split
  · exact ⟨_, congrArg (Option.map _) served, rfl⟩
  · exact ⟨pipeline, served, rfl⟩

/-- What a client gets from a mount that is ready, whatever state it is in. -/
theorem modifiedPathsWithVersion_of_ready {machine : Machine} {name : String} {number : Nat}
    {hosted : HostedMount} {link : ControlLink} {pipeline : Pipeline}
    (linked : machine.links.lookup name = some ⟨number, link⟩) (idle : link.Idle)
    (mounted : machine.mounts[number]? = some hosted) (ready : hosted.daemon.state = .ready)
    (served : hosted.daemon.pipeline = some pipeline)
    (fits : pipeline.stores.paths.message.toLine.utf8ByteSize ≤ maxMessageBytes) :
    ∃ after, ((transport name).modifiedPathsWithVersion Request.modifiedPathsVersion).run machine =
      (.ok (.success, pipeline.stores.paths.all.filter (· ≠ "")), after) := by
  obtain ⟨current, loaded, same⟩ := pipeline_reloaded served machine.files
  have asks : Sendable (Message.toLine
      ⟨Request.modifiedPaths, some Request.modifiedPathsVersion⟩) := by
    exact ⟨by decide, by decide⟩
  have handled := Daemon.handle_modifiedPaths ((state_reloaded hosted machine.files).trans ready)
    loaded (same ▸ fits) (machine.canDownload number)
  rw [same] at handled
  obtain ⟨after, called, _⟩ := call_of_handled (owes_nothing linked idle) mounted asks
    (ModifiedPaths.sendable_message fits) handled
  obtain ⟨body, read, entries⟩ := Message.fromLine_joinList pipeline.stores.paths.all
  rw [ModifiedPaths.message, read] at called
  have parsed : (Transport.parseCode ⟨WireCode.spelling ModifiedPathsResult.success, body⟩ :
      Conversation Machine ModifiedPathsResult).run after = (.ok .success, after) := rfl
  refine ⟨after, ?_⟩
  rw [Transport.modifiedPathsWithVersion, Conversation.run_bind_of_ok called,
    Conversation.run_bind_of_ok parsed, entries]
  rfl

/-- A client gets the set that its mount has in memory, each entry once and character for character,
but without the empty entry. So it gets the whole set unless the empty entry was in the table, or a
task named a file by a path without names. -/
theorem received_modified_paths {machine : Machine} {name : String} {number : Nat}
    {hosted : HostedMount} {link : ControlLink} {pipeline : Pipeline}
    (linked : machine.links.lookup name = some ⟨number, link⟩) (idle : link.Idle)
    (mounted : machine.mounts[number]? = some hosted) (ready : hosted.daemon.state = .ready)
    (served : hosted.daemon.pipeline = some pipeline) {database : Database} {done : List Task}
    (reached : Pipeline.Reached database done pipeline)
    (fits : pipeline.stores.paths.message.toLine.utf8ByteSize ≤ maxMessageBytes) :
    ∃ entries after,
      ((transport name).modifiedPathsWithVersion Request.modifiedPathsVersion).run machine =
        (.ok (.success, entries), after) ∧
      entries = pipeline.stores.paths.all.filter (· ≠ "") ∧ entries.Nodup ∧
      (entries = pipeline.stores.paths.all ↔
        "" ∉ database.tables.modifiedPaths ∧
          ∀ task ∈ done, ∀ path ∈ task.filePaths, ¬ IsBlank path) := by
  obtain ⟨after, received⟩ :=
    modifiedPathsWithVersion_of_ready linked idle mounted ready served fits
  obtain ⟨serving, empty⟩ := reached.serving
  have distinct := ModifiedPaths.nodup_all serving.wellKeyed
  have whole : pipeline.stores.paths.all.filter (· ≠ "") = pipeline.stores.paths.all ↔
      "" ∉ pipeline.stores.paths.all := by
    rw [List.filter_eq_self]
    constructor
    · intro kept listed
      exact absurd (kept "" listed) (by simp)
    · rintro absent entry listed
      exact decide_eq_true (fun same => absent (same ▸ listed))
  refine ⟨_, after, received, rfl, distinct.filter _, whole.trans ?_⟩
  simp only [empty, not_or, not_exists, not_and]

def readyMount (pipeline : Pipeline) : HostedMount where
  daemon := { Daemon.mounting ⟨"", "", "", none⟩ with
    state := .ready
    readiness := .pipeline
    pipeline := some pipeline }
  store := []
  socketPath := ""
  downloadable := []
  isListening := true

def serving (pipeline : Pipeline) : Machine :=
  ⟨[], .empty, [readyMount pipeline], [("client", ⟨0, .fresh⟩)]⟩

theorem linked_serving (pipeline : Pipeline) :
    (serving pipeline).links.lookup "client" = some ⟨0, .fresh⟩ := by
  rfl

theorem mounted_serving (pipeline : Pipeline) :
    (serving pipeline).mounts[0]? = some (readyMount pipeline) := by
  rfl

def afterCreation (path : String) : Pipeline :=
  ((Pipeline.restarted ⟨.empty, Pool.start ⟨1, 1⟩⟩ []).receiveEvent
    (.changed (.fileCreated path))).2.drain

theorem reached_afterCreation {path : String} (outside : isInsideDotGit path = false) :
    Pipeline.Reached ⟨.empty, Pool.start ⟨1, 1⟩⟩ [.change (.fileCreated path)]
      (afterCreation path) := by
  have started := Pipeline.start_of_logs
    (show Database.isShutDown ⟨.empty, Pool.start ⟨1, 1⟩⟩ = false from rfl) rfl
    (show Tables.empty.Logs [] from rfl)
  have queued : ((Pipeline.restarted ⟨.empty, Pool.start ⟨1, 1⟩⟩ []).receiveEvent
      (.changed (.fileCreated path))).2.queue.channel.map (·.task) =
      [.change (.fileCreated path)] := by
    have seen : (Event.changed (.fileCreated path)).task? = some (.change (.fileCreated path)) := by
      simp [Event.task?, Change.outside, Task.touchesDotGit, Task.path, Task.oldPath?, Change.path,
        Change.oldPath?, outside]
    rw [Pipeline.receiveEvent, seen]
    rfl
  have reached := (Pipeline.Reached.event (.changed (.fileCreated path)) (.started started)).drain
  rw [queued] at reached
  exact reached

theorem received_path_with_line_break :
    ∃ after, Pipeline.Reached ⟨.empty, Pool.start ⟨1, 1⟩⟩ [.change (.fileCreated "a\nb|c%0A")]
        (afterCreation "a\nb|c%0A") ∧
      ((transport "client").modifiedPathsWithVersion "1").run
          (serving (afterCreation "a\nb|c%0A")) =
        (.ok (.success, [".gitattributes", "a\nb|c%0A"]), after) := by
  have reached : Pipeline.Reached ⟨.empty, Pool.start ⟨1, 1⟩⟩ _ (afterCreation "a\nb|c%0A") :=
    reached_afterCreation (by decide)
  have stored : (afterCreation "a\nb|c%0A").stores.paths.all = [".gitattributes", "a\nb|c%0A"] := by
    decide +kernel
  have fits : (afterCreation "a\nb|c%0A").stores.paths.message.toLine.utf8ByteSize ≤
      maxMessageBytes := by
    rw [ModifiedPaths.message, stored]
    decide +kernel
  obtain ⟨entries, after, received, _, _, whole⟩ := received_modified_paths
    (linked_serving _) ControlLink.idle_fresh (mounted_serving _) rfl rfl reached
    fits
  have complete := whole.mpr ⟨by decide, by decide⟩
  rw [complete, stored] at received
  exact ⟨after, reached, received⟩

theorem blank_path_not_received :
    ∃ after, Pipeline.Reached ⟨.empty, Pool.start ⟨1, 1⟩⟩ [.change (.fileCreated "")]
        (afterCreation "") ∧
      (afterCreation "").stores.paths.all = [".gitattributes", ""] ∧
      ((transport "client").modifiedPathsWithVersion "1").run (serving (afterCreation "")) =
        (.ok (.success, [".gitattributes"]), after) := by
  have stored : (afterCreation "").stores.paths.all = [".gitattributes", ""] := by
    decide +kernel
  have fits : (afterCreation "").stores.paths.message.toLine.utf8ByteSize ≤ maxMessageBytes := by
    rw [ModifiedPaths.message, stored]
    decide +kernel
  obtain ⟨after, received⟩ := modifiedPathsWithVersion_of_ready
    (linked_serving (afterCreation "")) ControlLink.idle_fresh (mounted_serving _) rfl rfl fits
  rw [stored] at received
  exact ⟨after, reached_afterCreation (by decide), stored, received⟩

end Machine

end Enlistment
