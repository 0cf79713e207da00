import Enlistment.Machine
import Enlistment.Proofs.Files.Places
import Enlistment.Proofs.Mount.Exchange
import Enlistment.Proofs.Mount.Queueing

/-!
A mount that starts on what an earlier one left. It either takes over all of it, and queues every
task of the log before any other, or it does nothing about it and leaves the rows as they were, but
for the attributes file. Then it says what it could not make sense of, unless that is a text of a
task: there the process ends without a word.
-/

namespace Enlistment

open Control Enlistment.Path

def Tables.Readable (tables : Tables) : Prop :=
  ∀ row ∈ tables.tasks, ∃ logged, LoggedTask.ofRow row = .ok logged

def Tables.FailsAtFirst (tables : Tables) (failure : Failure DatabaseError) : Prop :=
  ∃ before row after, tables.tasks = before ++ row :: after ∧
    (∀ earlier ∈ before, ∃ logged, LoggedTask.ofRow earlier = .ok logged) ∧
    LoggedTask.ofRow row = .error failure

/-- Why tables are refused: somebody newer wrote them, or one of their paths or tasks cannot be
read. -/
inductive Tables.Refused (tables : Tables) : Failure MountError → Prop where
  | newer (newer : schemaVersion < tables.version) :
      Refused tables (.error (.database (.newerSchema tables.version)))
  | path (known : tables.version ≤ schemaVersion) (unreadable : tables.unreadablePaths ≠ []) :
      Refused tables (.error (.database (.statement (.undecodable "path"))))
  | task {failure : Failure DatabaseError} (known : tables.version ≤ schemaVersion)
      (paths : tables.unreadablePaths = []) (first : tables.FailsAtFirst failure) :
      Refused tables ((failure.map QueueError.database).map MountError.queue)

/-- No task was applied, and nothing was recorded but the attributes file where nothing was. -/
structure Tables.Untouched (before after : Tables) : Prop where
  tasks : after.tasks = before.tasks
  placeholders : after.placeholders = before.placeholders
  unreadablePaths : after.unreadablePaths = before.unreadablePaths
  modifiedPaths : after.modifiedPaths = before.modifiedPaths ∨
    (before.modifiedPaths = [] ∧ after.modifiedPaths = [gitAttributes])

theorem Tables.untouched_seed (tables : Tables) (version : Int) :
    tables.Untouched (ModifiedPathsStore.seed { tables with version }).2 := by
  unfold ModifiedPathsStore.seed
  split
  · rename_i none
    have empty : tables.modifiedPaths = [] := List.isEmpty_iff.mp none
    refine ⟨rfl, rfl, rfl, .inr ⟨empty, ?_⟩⟩
    show Rows.put id gitAttributes tables.modifiedPaths = _
    rw [empty]
    rfl
  · exact ⟨rfl, rfl, rfl, .inl rfl⟩

theorem Tables.untouched_version (tables : Tables) (version : Int) :
    tables.Untouched { tables with version } :=
  ⟨rfl, rfl, rfl, .inl rfl⟩

/-- A mount ends without a word only for a task whose texts are not all texts. -/
theorem Tables.Refused.exists_of_abort {tables : Tables} {fault : StatementFault}
    (refused : tables.Refused (.abort fault)) : ∃ row ∈ tables.tasks, ¬ row.HasTexts := by
  generalize failed : Failure.abort fault = outcome at refused
  cases refused with
  | newer => contradiction
  | path => contradiction
  | @task failure _ _ first =>
      obtain ⟨before, row, after, rows, _, unreadable⟩ := first
      refine ⟨row, by simp [rows], fun texts => ?_⟩
      obtain ⟨cause, rfl⟩ := LoggedTask.exists_error_of_texts texts unreadable
      exact absurd failed nofun

theorem Tables.readable_iff_logs (tables : Tables) :
    tables.Readable ↔ ∃ logged, tables.Logs logged := by
  constructor
  · intro readable
    cases read : tables.tasks.mapM LoggedTask.ofRow with
    | ok logged => exact ⟨logged, mapM_eq_ok_iff.mp read⟩
    | error failure =>
        obtain ⟨before, row, after, rows, _, failed⟩ := exists_of_mapM_eq_error read
        obtain ⟨logged, found⟩ := readable row (by simp [rows])
        exact absurd (found.symm.trans failed) nofun
  · rintro ⟨logged, logs⟩ row member
    have listed : LoggedTask.ofRow row ∈ logged.map Except.ok := by
      rw [← logs]
      exact List.mem_map_of_mem member
    obtain ⟨task, _, read⟩ := List.mem_map.mp listed
    exact ⟨task, read.symm⟩

theorem Pipeline.start_of_unreadablePath {database : Database}
    (isOpen : database.isShutDown = false) (unreadable : database.tables.unreadablePaths ≠ []) :
    Pipeline.start database = (.error (.error (.database (.statement (.undecodable "path")))),
      ⟨database.tables, database.pool.used⟩) := by
  simp only [start, load, Stores.load_of_unreadable isOpen unreadable]

theorem Pipeline.start_of_unreadable {database : Database} (isOpen : database.isShutDown = false)
    (paths : database.tables.unreadablePaths = []) {failure : Failure DatabaseError}
    (read : database.tables.tasks.mapM LoggedTask.ofRow = .error failure) :
    Pipeline.start database = (.error ((failure.map QueueError.database).map MountError.queue),
      ⟨(ModifiedPathsStore.seed database.tables).2, database.pool.used.used⟩) := by
  have stillOpen : (Stores.loaded database).database.isShutDown = false := by
    simpa using isOpen
  have same : (Stores.loaded database).database.tables.tasks = database.tables.tasks := by
    rw [Stores.loaded, ModifiedPathsStore.seed_eq]
    rfl
  have failed : TaskLog.load (Stores.loaded database).database =
      (.error failure, ⟨(Stores.loaded database).database.tables, database.pool.used.used⟩) := by
    rw [TaskLog.load_of_open stillOpen, same, read]
    rfl
  simp only [start, load, Stores.load_of_open isOpen paths, replay, TaskQueue.replay, ofStores,
    failed]
  rfl

/-- What was logged is taken up before anything that is queued later. -/
theorem Pipeline.takes_log_first {pipeline : Pipeline} {tables : Tables}
    (logs : tables.Logs pipeline.queue.channel) (numbered : tables.Numbered)
    (last : pipeline.lastTaskId = tables.lastTaskId) {actions : List PipelineAction}
    (goesOn : ∀ action ∈ actions, action.isRestart = false) :
    ∃ queued, pipeline.takenUp actions ++ (pipeline.performAll actions).queue.channel =
        pipeline.queue.channel ++ queued ∧
      (pipeline.queue.channel ++ queued).Pairwise (·.id < ·.id) := by
  obtain ⟨queued, run⟩ := pipeline.queues_performAll goesOn
  refine ⟨queued, run.order, ?_⟩
  refine List.pairwise_append.mpr ⟨logs.increasing numbered, run.increasing, ?_⟩
  intro earlier old later new
  have bound := logs.bounded numbered old
  have above : tables.lastTaskId < later.id := last ▸ run.above later new
  omega

namespace Daemon

variable (sizes : PoolSizes) {tables : Tables}

theorem startPipeline_of_readable (known : tables.version ≤ schemaVersion)
    (paths : tables.unreadablePaths = []) {logged : List LoggedTask} (logs : tables.Logs logged)
    (daemon : Daemon) :
    ∃ pipeline, Pipeline.startOn sizes tables = .ok pipeline ∧
      pipeline.queue.channel = logged ∧ pipeline.isRunning = true ∧
      pipeline.lastTaskId = tables.lastTaskId ∧
      tables.Untouched pipeline.stores.database.tables ∧
      daemon.startPipeline sizes tables =
        (.ok (), pipeline.stores.database.tables, daemon.attach pipeline) := by
  have opened := Database.openOn_of_known sizes known
  have started := Pipeline.start_of_logs (Database.isOpen_of_openOn opened) paths
    (show Tables.Logs { tables with version := schemaVersion } logged from logs)
  refine ⟨_, Pipeline.startOn_of_logs sizes known paths logs, rfl, rfl, ?_,
    tables.untouched_seed schemaVersion, ?_⟩
  · have seeded := congrArg Tables.lastTaskId
      (ModifiedPathsStore.seed_eq { tables with version := schemaVersion })
    exact seeded
  · rw [startPipeline, opened]
    dsimp only
    rw [started]

theorem startPipeline_of_refused
    (refused : ¬ (tables.version ≤ schemaVersion ∧ tables.unreadablePaths = [] ∧ tables.Readable))
    (daemon : Daemon) :
    ∃ failure after, daemon.startPipeline sizes tables = (.error failure, after, daemon) ∧
      tables.Refused failure ∧ tables.Untouched after := by
  by_cases known : tables.version ≤ schemaVersion
  · have opened := Database.openOn_of_known sizes known
    by_cases paths : tables.unreadablePaths = []
    · cases read : tables.tasks.mapM LoggedTask.ofRow with
      | ok logged =>
          have logs : tables.Logs logged := mapM_eq_ok_iff.mp read
          exact absurd ⟨known, paths, tables.readable_iff_logs.mpr ⟨logged, logs⟩⟩ refused
      | error failure =>
          refine ⟨_, _, ?_, .task known paths (exists_of_mapM_eq_error read),
            tables.untouched_seed schemaVersion⟩
          rw [startPipeline, opened]
          dsimp only
          rw [Pipeline.start_of_unreadable (Database.isOpen_of_openOn opened) paths read]
    · refine ⟨_, _, ?_, .path known paths, tables.untouched_version schemaVersion⟩
      rw [startPipeline, opened]
      dsimp only
      rw [Pipeline.start_of_unreadablePath (Database.isOpen_of_openOn opened) paths]
  · have newer : schemaVersion < tables.version := Int.not_le.mp known
    refine ⟨_, tables, ?_, .newer newer, tables.untouched_version tables.version⟩
    rw [startPipeline, Database.openOn, Tables.bringUpToDate, if_pos newer]
    rfl

end Daemon

namespace Machine

variable {machine bound cleared : Machine} {path : String} {number : Nat}

theorem start_of_absent {folder : Place}
    (absent : path.isEmpty = true ∨ Socket.isAbstract path = true) (first : Place) :
    Files.start folder path ≠ .ok first := by
  unfold Files.start
  split
  · simp
  · rename_i noZero
    rcases absent with empty | abstract
    · rw [if_pos empty]
      simp
    · have head : path.toList.head? = some '\x00' := by simpa [Socket.isAbstract] using abstract
      refine absurd ?_ noZero
      rw [List.contains_eq_mem, decide_eq_true_eq]
      exact List.mem_of_head? head

theorem clear_frame (done : machine.clear path = .ok cleared) :
    cleared.mounts = machine.mounts ∧ cleared.folder = machine.folder := by
  unfold clear at done
  split at done
  · cases removed : machine.files.remove machine.folder path with
    | error fault => exact absurd (removed ▸ done) nofun
    | ok files =>
        rw [removed] at done
        obtain rfl := Except.ok.inj done
        exact ⟨rfl, rfl⟩
  · obtain rfl := Except.ok.inj done
    exact ⟨rfl, rfl⟩

/-- A socket is a file at its path, or no file. -/
theorem placeSocket_cases (placed : cleared.placeSocket path number = .ok bound) :
    ((path.isEmpty = true ∨ Socket.isAbstract path = true) ∧ bound = cleared) ∨
      ∃ place, cleared.files.filePlace cleared.folder path = .ok place ∧
        bound = { cleared with files := cleared.files.put place (.socket number) } := by
  unfold placeSocket at placed
  split at placed
  · exact absurd placed nofun
  · split at placed
    · rename_i empty
      exact .inl ⟨.inl empty, (Except.ok.inj placed).symm⟩
    · split at placed
      · rename_i abstract
        split at placed
        · exact absurd placed nofun
        · exact .inl ⟨.inr abstract, (Except.ok.inj placed).symm⟩
      · split at placed
        · rename_i files written
          obtain ⟨place, found, written⟩ := exists_of_bind_eq_ok written
          refine .inr ⟨place, found, ?_⟩
          split at written
          · exact absurd written nofun
          · obtain rfl := Except.ok.inj written
            exact (Except.ok.inj placed).symm
        · exact absurd placed nofun

/-- A socket that was bound can be removed without touching anything but itself. -/
theorem bind_cases (bindable : machine.bind path number = (.ok (), bound)) :
    bound.mounts = machine.mounts ∧ bound.folder = machine.folder ∧
      ∀ place, (∀ mount, bound.files.find? place ≠ some (.socket mount)) →
        ∀ later after : Files, later.remove bound.folder path = .ok after →
          after.find? place = later.find? place := by
  unfold bind at bindable
  dsimp only at bindable
  split at bindable
  · rename_i cleared made done
    obtain ⟨mounts, folder⟩ := clear_frame done
    split at bindable
    · rename_i after placed
      obtain rfl : after = bound := congrArg Prod.snd bindable
      rcases placeSocket_cases placed with ⟨absent, rfl⟩ | ⟨socket, found, rfl⟩
      · refine ⟨mounts, folder, ?_⟩
        intro place _ later after removed
        obtain ⟨target, resolved, _⟩ := Files.remove_cases removed
        obtain ⟨first, started, _⟩ := Files.eq_of_resolve resolved
        exact absurd started (start_of_absent absent first)
      · refine ⟨mounts, folder, ?_⟩
        intro place noSocket later after removed
        have different : place ≠ socket := by
          rintro rfl
          exact noSocket number (Files.find?_put_self (Files.eq_of_filePlace found).2 _ _)
        exact Files.find?_remove_of_ne found removed different
    · exact absurd (congrArg Prod.fst bindable) nofun
  · exact absurd (congrArg Prod.fst bindable) nofun

section Starting

variable {config : MountConfig} (downloadable : List String) {opened : Machine} {store : StoreFile}

def newcomer (config : MountConfig) (downloadable : List String) : HostedMount :=
  ⟨.mounting (infoOf config), [], config.socketPath, downloadable, true⟩

def addMount (hosted : HostedMount) (machine : Machine) : Machine :=
  { machine with mounts := machine.mounts ++ [hosted] }

theorem getElem?_addMount (mounts : bound.mounts = machine.mounts) (hosted : HostedMount) :
    (bound.addMount hosted).mounts[machine.mounts.length]? = some hosted := by
  rw [← mounts]
  exact List.getElem?_concat_length

theorem getElem?_setMount (inside : number < machine.mounts.length) (hosted : HostedMount) :
    (machine.setMount number hosted).mounts[number]? = some hosted :=
  List.getElem?_set_self inside

theorem openAt_of_openStore (openable : bound.openStore path = (.ok store, opened)) :
    StoreFile.openAt bound.folder path bound.files = (.ok store, opened.files) := by
  obtain ⟨answer, same⟩ := Prod.mk.inj openable
  exact Prod.ext answer (congrArg Machine.files same)

theorem startPipeline_of_failure {hosted : HostedMount} {failure : Failure MountError}
    {tables : Tables} {files : Files} (nonempty : store.place ≠ [])
    (mounted : machine.mounts[number]? = some hosted)
    (openable : StoreFile.openAt machine.folder config.layout.database machine.files =
      (.ok store, files))
    (failed : hosted.daemon.startPipeline config.pool.sizes store.tables =
      (.error failure, tables, hosted.daemon)) :
    ∃ after, machine.startPipeline config number = (.error failure, after) ∧
      after.mounts[number]? = some { hosted with store := store.place } ∧
      after.files.find? store.place = some (.store tables) ∧ after.folder = machine.folder := by
  have same : machine.openStore config.layout.database =
      (.ok store, { machine with files }) := by
    rw [openStore, openable]
  have inside := (List.getElem?_eq_some_iff.mp mounted).1
  rw [startPipeline, same]
  dsimp only
  rw [mounted]
  dsimp only
  rw [failed]
  cases failure with
  | error error => exact ⟨_, rfl, getElem?_setMount inside _, by simp [nonempty], rfl⟩
  | abort fault =>
      refine ⟨_, rfl, getElem?_setMount inside _, ?_, rfl⟩
      exact (StoreFile.find?_keepOpen nonempty _).trans (Files.find?_put_self nonempty _ _)

theorem startPipeline_of_ok {hosted : HostedMount} {tables : Tables} {daemon : Daemon}
    {files : Files}
    (mounted : machine.mounts[number]? = some hosted)
    (openable : StoreFile.openAt machine.folder config.layout.database machine.files =
      (.ok store, files))
    (succeeded : hosted.daemon.startPipeline config.pool.sizes store.tables =
      (.ok (), tables, daemon)) :
    ∃ after, machine.startPipeline config number = (.ok (), after) ∧
      after.mounts[number]? = some { hosted with daemon, store := store.place } ∧
      after.files = StoreFile.keepOpen store.place
        (files.put store.place (.store tables)) := by
  have same : machine.openStore config.layout.database =
      (.ok store, { machine with files }) := by
    rw [openStore, openable]
  have inside := (List.getElem?_eq_some_iff.mp mounted).1
  rw [startPipeline, same]
  dsimp only
  rw [mounted]
  dsimp only
  rw [succeeded]
  exact ⟨_, rfl, getElem?_setMount inside _, rfl⟩

theorem startMount_of_ok {started ready : Machine}
    (bindable : machine.bind config.socketPath machine.mounts.length = (.ok (), bound))
    (succeeded : (bound.addMount (newcomer config downloadable)).startPipeline config
      machine.mounts.length = (.ok (), started))
    (became : started.withMount machine.mounts.length becomeReady = (some (.ok ()), ready)) :
    machine.startMount config downloadable = (.ok machine.mounts.length, ready) := by
  simp only [addMount, newcomer] at succeeded
  simp only [startMount, bindable, succeeded, became]

theorem stopListening_cases {hosted : HostedMount} (mounted : machine.mounts[number]? = some hosted) :
    (machine.stopListening number).mounts[number]? = some { hosted with isListening := false } ∧
      ∀ place, (∀ after, machine.files.remove machine.folder hosted.socketPath = .ok after →
          after.find? place = machine.files.find? place) →
        (machine.stopListening number).files.find? place = machine.files.find? place := by
  have inside := (List.getElem?_eq_some_iff.mp mounted).1
  unfold stopListening
  rw [mounted]
  refine ⟨getElem?_setMount inside _, ?_⟩
  intro place spared
  dsimp only
  cases removed : machine.files.remove machine.folder hosted.socketPath with
  | error fault => rfl
  | ok after => exact spared after removed

/-- A mount without a pipeline has nothing in a store. -/
theorem stored_of_idle (hosted : HostedMount) (idle : hosted.daemon.pipeline = none)
    (files : Files) : stored hosted files = files := by
  unfold stored
  split
  · rename_i pipeline found
    exact absurd (idle.symm.trans found) nofun
  · rfl

theorem reloaded_of_idle {hosted : HostedMount} (idle : hosted.daemon.pipeline = none)
    (files : Files) : reloaded hosted files = hosted.daemon := by
  unfold reloaded
  split
  · rw [idle, Option.map_none, ← idle]
  · rfl

theorem reloaded_of_stored (hosted : HostedMount) {pipeline : Pipeline} {files : Files}
    (serving : hosted.daemon.pipeline = some pipeline)
    (there : files.find? hosted.store = some (.store pipeline.stores.database.tables)) :
    reloaded hosted files = hosted.daemon := by
  unfold reloaded
  rw [there]
  dsimp only
  rw [serving, Option.map_some]
  obtain ⟨⟨_, _, _, _, _, _, _, _⟩, _, _, _, _⟩ := hosted
  obtain rfl := serving
  rfl

theorem withMount_of_idle {hosted : HostedMount} (mounted : machine.mounts[number]? = some hosted)
    (idle : hosted.daemon.pipeline = none) (state : MountState) :
    (machine.withMount number fun daemon => ((), { daemon with state })).2 =
      machine.setMount number { hosted with daemon := { hosted.daemon with state } } := by
  have settled : Daemon.settle { hosted.daemon with state } = { hosted.daemon with state } := by
    simp only [Daemon.settle, idle, Option.map_none]
  have kept := stored_of_idle { hosted with daemon := { hosted.daemon with state } } idle
    machine.files
  rw [withMount_of_mounted mounted, reloaded_of_idle idle, settled]
  dsimp only
  rw [kept]
  rfl

def stateAfter : Failure MountError → MountState
  | .error _ => .mountFailed
  | .abort _ => .mounting

theorem startMount_of_failure {failure : Failure MountError} {failed : Machine} {left : HostedMount}
    (bindable : machine.bind config.socketPath machine.mounts.length = (.ok (), bound))
    (started : (bound.addMount (newcomer config downloadable)).startPipeline config
      machine.mounts.length = (.error failure, failed))
    (mounted : failed.mounts[machine.mounts.length]? = some left)
    (idle : left.daemon.pipeline = none) (state : left.daemon.state = .mounting) :
    ∃ hosted,
      (machine.startMount config downloadable).1 = .error failure ∧
      (machine.startMount config downloadable).2.mounts[machine.mounts.length]? = some hosted ∧
      hosted.daemon.state = stateAfter failure ∧ hosted.daemon.pipeline = none ∧
      hosted.isListening = false ∧
      ∀ place, (∀ after, failed.files.remove failed.folder left.socketPath = .ok after →
          after.find? place = failed.files.find? place) →
        (machine.startMount config downloadable).2.files.find? place =
          failed.files.find? place := by
  simp only [addMount, newcomer] at started
  have inside := (List.getElem?_eq_some_iff.mp mounted).1
  cases failure with
  | error error =>
      have marked := withMount_of_idle mounted idle .mountFailed
      obtain ⟨ended, spared⟩ := stopListening_cases (getElem?_setMount inside
        { left with daemon := { left.daemon with state := .mountFailed } })
      simp only [startMount, bindable, started, marked]
      exact ⟨_, trivial, ended, rfl, idle, rfl, spared⟩
  | abort fault =>
      simp only [startMount, bindable, started, abandon, mounted]
      exact ⟨_, trivial, getElem?_setMount inside _, state, idle, rfl, fun place _ => rfl⟩

/-- A mount that cannot make sense of what was left does nothing about it. -/
theorem startMount_of_refused
    (bindable : machine.bind config.socketPath machine.mounts.length = (.ok (), bound))
    (openable : bound.openStore config.layout.database = (.ok store, opened))
    (refused : ¬ (store.tables.version ≤ schemaVersion ∧ store.tables.unreadablePaths = [] ∧
      store.tables.Readable)) :
    ∃ failure tables hosted,
      (machine.startMount config downloadable).1 = .error failure ∧
      store.tables.Refused failure ∧
      (machine.startMount config downloadable).2.files.find? store.place = some (.store tables) ∧
      store.tables.Untouched tables ∧
      (machine.startMount config downloadable).2.mounts[machine.mounts.length]? = some hosted ∧
      hosted.daemon.state = stateAfter failure ∧ hosted.daemon.pipeline = none ∧
      hosted.isListening = false := by
  obtain ⟨mounts, folder, spares⟩ := bind_cases bindable
  have opening := openAt_of_openStore openable
  obtain ⟨_, nonempty, noSocket⟩ := StoreFile.openAt_cases opening
  obtain ⟨failure, tables, failed, why, untouched⟩ :=
    Daemon.startPipeline_of_refused config.pool.sizes refused (.mounting (infoOf config))
  have added := getElem?_addMount mounts (newcomer config downloadable)
  obtain ⟨after, stopped, left, there, same⟩ :=
    startPipeline_of_failure nonempty added opening failed
  obtain ⟨hosted, answer, ended, state, idle, quiet, spared⟩ :=
    startMount_of_failure downloadable bindable stopped left rfl rfl
  refine ⟨failure, tables, hosted, answer, why, ?_, untouched, ended, state, idle, quiet⟩
  refine (spared store.place fun removed done => ?_).trans there
  refine spares store.place noSocket _ removed ?_
  exact (congrArg (fun folder => Files.remove folder config.socketPath after.files) same).symm.trans
    done

theorem settle_becomeReady {pipeline : Pipeline} (running : pipeline.isRunning = true)
    (info : EnlistmentInfo) :
    Daemon.settle (becomeReady ((Daemon.mounting info).attach pipeline)).2 =
      { Daemon.mounting info with
        state := .ready
        pipeline := some (Pipeline.drain { pipeline with projectionParsed := true })
        readiness := .pipeline } := by
  have stillRunning : ({ pipeline with projectionParsed := true } : Pipeline).isRunning = true :=
    running
  show Daemon.settle { Daemon.mounting info with
    state := .ready
    pipeline := some { pipeline with projectionParsed := true }
    readiness := .pipeline } = _
  rw [Daemon.settle, Option.map_some, if_pos stillRunning]

/-- A mount that can make sense of what was left serves, and queues every task of the log, in the
order of the ids and before any other. -/
theorem startMount_of_readable
    (bindable : machine.bind config.socketPath machine.mounts.length = (.ok (), bound))
    (openable : bound.openStore config.layout.database = (.ok store, opened))
    (numbered : store.tables.Numbered) (known : store.tables.version ≤ schemaVersion)
    (paths : store.tables.unreadablePaths = []) (readable : store.tables.Readable) :
    ∃ logged pipeline ready hosted,
      (machine.startMount config downloadable).1 = .ok machine.mounts.length ∧
      store.tables.Logs logged ∧
      Pipeline.startOn config.pool.sizes store.tables = .ok pipeline ∧
      ready = { pipeline with projectionParsed := true } ∧
      ready.queue.channel = logged ∧
      store.tables.Untouched ready.stores.database.tables ∧
      (machine.startMount config downloadable).2.mounts[machine.mounts.length]? = some hosted ∧
      hosted.daemon.state = .ready ∧ hosted.daemon.pipeline = some ready.drain ∧
      ∀ actions : List PipelineAction, (∀ action ∈ actions, action.isRestart = false) →
        ∃ queued, ready.takenUp actions ++ (ready.performAll actions).queue.channel =
            logged ++ queued ∧
          (logged ++ queued).Pairwise (·.id < ·.id) := by
  obtain ⟨mounts, _, _⟩ := bind_cases bindable
  have opening := openAt_of_openStore openable
  obtain ⟨_, nonempty, _⟩ := StoreFile.openAt_cases opening
  obtain ⟨logged, logs⟩ := store.tables.readable_iff_logs.mp readable
  obtain ⟨pipeline, started, channel, running, last, untouched, attached⟩ :=
    Daemon.startPipeline_of_readable config.pool.sizes known paths logs
      (.mounting (infoOf config))
  have added := getElem?_addMount mounts (newcomer config downloadable)
  obtain ⟨after, succeeded, mounted, files⟩ :=
    startPipeline_of_ok added opening attached
  have there : after.files.find? store.place = some (.store pipeline.stores.database.tables) := by
    rw [files, StoreFile.find?_keepOpen nonempty]
    exact Files.find?_put_self nonempty _ _
  let ready : Pipeline := { pipeline with projectionParsed := true }
  have current := reloaded_of_stored { newcomer config downloadable with
    daemon := (Daemon.mounting (infoOf config)).attach pipeline, store := store.place } rfl there
  have inside := (List.getElem?_eq_some_iff.mp mounted).1
  have became := withMount_of_mounted mounted becomeReady
  rw [current] at became
  dsimp only at became
  rw [settle_becomeReady running] at became
  rw [startMount_of_ok downloadable bindable succeeded became]
  refine ⟨logged, pipeline, ready, _, rfl, logs, started, rfl, channel, untouched,
    getElem?_setMount inside _, rfl, rfl, ?_⟩
  intro actions goesOn
  subst channel
  exact @Pipeline.takes_log_first ready _ logs numbered last _ goesOn

/-- Where the socket can be bound and the store can be opened, a mount becomes ready exactly if the
layout of the store is known and every path and every task in it can be read. Otherwise it leaves
the rows alone, and it either says why and has failed, or the process ends while it is still mounting,
which is so only for a task with a text that is none. Once it is ready, the tasks of the log are taken
up first, each once and in the order of their ids. -/
theorem startMount_all_or_nothing
    (bindable : machine.bind config.socketPath machine.mounts.length = (.ok (), bound))
    (openable : bound.openStore config.layout.database = (.ok store, opened))
    (numbered : store.tables.Numbered) :
    ∃ hosted,
      (machine.startMount config downloadable).2.mounts[machine.mounts.length]? = some hosted ∧
      ((∃ number, (machine.startMount config downloadable).1 = .ok number) ↔
        store.tables.version ≤ schemaVersion ∧ store.tables.unreadablePaths = [] ∧
          store.tables.Readable) ∧
      (∀ failure, (machine.startMount config downloadable).1 = .error failure →
        store.tables.Refused failure ∧
        (∀ error, failure = .error error → hosted.daemon.state = .mountFailed) ∧
        (∀ fault, failure = .abort fault → hosted.daemon.state = .mounting ∧
          ∃ row ∈ store.tables.tasks, ¬ row.HasTexts) ∧
        hosted.daemon.pipeline = none ∧ hosted.isListening = false ∧
        ∃ tables, (machine.startMount config downloadable).2.files.find? store.place =
            some (.store tables) ∧ store.tables.Untouched tables) ∧
      (∀ number, (machine.startMount config downloadable).1 = .ok number →
        number = machine.mounts.length ∧ hosted.daemon.state = .ready ∧
        ∃ logged pipeline ready,
          store.tables.Logs logged ∧
          Pipeline.startOn config.pool.sizes store.tables = .ok pipeline ∧
          ready = { pipeline with projectionParsed := true } ∧
          ready.queue.channel = logged ∧
          store.tables.Untouched ready.stores.database.tables ∧
          hosted.daemon.pipeline = some ready.drain ∧
          ∀ actions : List PipelineAction, (∀ action ∈ actions, action.isRestart = false) →
            ∃ queued, ready.takenUp actions ++ (ready.performAll actions).queue.channel =
                logged ++ queued ∧
              (logged ++ queued).Pairwise (·.id < ·.id)) := by
  by_cases acceptable : store.tables.version ≤ schemaVersion ∧
      store.tables.unreadablePaths = [] ∧ store.tables.Readable
  · obtain ⟨logged, pipeline, ready, hosted, succeeded, logs, started, parsed, channel, untouched,
      mounted, state, drained, order⟩ := startMount_of_readable downloadable
        bindable openable numbered acceptable.1 acceptable.2.1 acceptable.2.2
    refine ⟨hosted, mounted, iff_of_true ⟨_, succeeded⟩ acceptable, ?_, ?_⟩
    · exact fun failure failed => absurd (succeeded.symm.trans failed) nofun
    · intro number same
      exact ⟨(Except.ok.inj (succeeded.symm.trans same)).symm, state, logged, pipeline, ready, logs,
        started, parsed, channel, untouched, drained, order⟩
  · obtain ⟨failure, tables, hosted, failed, why, there, untouched, mounted, state, idle, quiet⟩ :=
      startMount_of_refused downloadable bindable openable acceptable
    refine ⟨hosted, mounted, iff_of_false ?_ acceptable, ?_, ?_⟩
    · rintro ⟨number, succeeded⟩
      exact absurd (failed.symm.trans succeeded) nofun
    · intro other same
      obtain rfl := Except.error.inj (failed.symm.trans same)
      refine ⟨why, ?_, ?_, idle, quiet, tables, there, untouched⟩
      · rintro error rfl
        exact state
      · rintro fault rfl
        exact ⟨state, why.exists_of_abort⟩
    · exact fun number succeeded => absurd (failed.symm.trans succeeded) nofun

end Starting

def enlisted (tables : Tables) : Machine where
  folder := []
  files := ⟨[(["e"], .folder), (["e", ".vgit"], .folder), (["e", ".vgit", "databases"], .folder),
    (["e", ".vgit", "databases", "vgit.sqlite"], .store tables)]⟩
  mounts := []
  links := []

def enlistedConfig : MountConfig where
  layout := .below "/e"
  socketPath := "/e/.vgit/mount.sock"
  repositoryUrl := "https://example.com/repository"
  cacheServer := none
  localCacheRoot := "/e/.git"
  gitObjectsRoot := "/e/.git/objects"
  pool := .standard
  heartbeatInterval := 60
  backgroundWorkers := 1

def interrupted : Tables :=
  ⟨0, [], [], [⟨3, .integer 1, .text "a.txt", .null, .null, .null⟩], 3, []⟩

def damaged : Tables :=
  ⟨1, [], ["b.txt"], [⟨1, .integer 1, .text "a.txt", .null, .null, .null⟩,
    ⟨2, .integer 99, .text "b.txt", .null, .null, .null⟩], 2, []⟩

def pathless : Tables :=
  ⟨1, [], ["b.txt"], [⟨1, .integer 1, .text "a.txt", .null, .null, .null⟩], 1, [.blob [0x63]]⟩

def nameless : Tables :=
  ⟨1, [], ["b.txt"], [⟨1, .integer 1, .unreadable (.blob [0x61]), .null, .null, .null⟩], 1, []⟩

def listening (tables : Tables) : Machine :=
  ((enlisted tables).bind enlistedConfig.socketPath 0).2

theorem bind_enlisted (tables : Tables) :
    (enlisted tables).bind enlistedConfig.socketPath (enlisted tables).mounts.length =
      (.ok (), listening tables) :=
  rfl

theorem openStore_of_read {tables : Tables}
    (read : (bound.openStore path).1.toOption.map (·.tables) = some tables) :
    ∃ store opened, bound.openStore path = (.ok store, opened) ∧ store.tables = tables := by
  rcases outcome : bound.openStore path with ⟨error | store, opened⟩
  · rw [outcome] at read
    exact absurd read nofun
  · rw [outcome] at read
    exact ⟨store, opened, rfl, Option.some.inj read⟩

theorem opens_enlisted (tables : Tables) :
    ((listening tables).openStore enlistedConfig.layout.database).1.toOption.map (·.tables) =
      some tables := by
  rfl

theorem startMount_interrupted_and_damaged :
    ((enlisted interrupted).startMount enlistedConfig []).1 = .ok 0 ∧
      ∃ failure, ((enlisted damaged).startMount enlistedConfig []).1 = .error failure ∧
        damaged.Refused failure := by
  constructor
  · obtain ⟨store, opened, openable, same⟩ := openStore_of_read (opens_enlisted interrupted)
    obtain ⟨_, _, starts, _, serves⟩ := startMount_all_or_nothing []
      (bind_enlisted interrupted) openable (same ▸ ⟨by decide, by decide⟩)
    have readable : interrupted.Readable := by
      intro row member
      rw [List.mem_singleton.mp member]
      exact ⟨⟨3, .change (.fileCreated "a.txt")⟩, rfl⟩
    obtain ⟨number, started⟩ := starts.mpr (same ▸ ⟨by decide, rfl, readable⟩)
    rw [started, (serves number started).1]
    rfl
  · obtain ⟨store, opened, openable, same⟩ := openStore_of_read (opens_enlisted damaged)
    obtain ⟨_, _, starts, fails, _⟩ := startMount_all_or_nothing []
      (bind_enlisted damaged) openable (same ▸ ⟨by decide, by decide⟩)
    have unreadable : ¬ damaged.Readable := by
      intro readable
      obtain ⟨logged, read⟩ := readable ⟨2, .integer 99, .text "b.txt", .null, .null, .null⟩ (by decide)
      exact absurd read nofun
    cases started : ((enlisted damaged).startMount enlistedConfig []).1 with
    | ok number => exact absurd (same ▸ (starts.mp ⟨number, started⟩).2.2) unreadable
    | error failure => exact ⟨failure, rfl, same ▸ (fails failure started).1⟩

/-- A path that is no text keeps a mount from becoming ready although its layout is known and every
task can be read; and where it is the path of a task, nobody learns that the mount failed. -/
theorem bytes_for_paths_keep_from_ready :
    (pathless.version ≤ schemaVersion ∧ pathless.Readable ∧
      ¬ ∃ number, ((enlisted pathless).startMount enlistedConfig []).1 = .ok number) ∧
    ((enlisted nameless).startMount enlistedConfig []).1 =
      .error (.abort (.undecodable "virtualPath")) ∧
    ∃ hosted, ((enlisted nameless).startMount enlistedConfig []).2.mounts[0]? = some hosted ∧
      hosted.daemon.state = .mounting := by
  refine ⟨⟨by decide, ?_, ?_⟩, rfl, _, rfl, rfl⟩
  · intro row member
    rw [List.mem_singleton.mp member]
    exact ⟨⟨1, .change (.fileCreated "a.txt")⟩, rfl⟩
  · rintro ⟨number, started⟩
    have refused : ((enlisted pathless).startMount enlistedConfig []).1 =
        .error (.error (.database (.statement (.undecodable "path")))) := rfl
    exact absurd (started.symm.trans refused) nofun

end Machine

end Enlistment
