import Enlistment.Proofs.ModifiedPaths.Subsumption
import Enlistment.Proofs.Mount.Provenance

/-!
The modified paths of a mount over all its runs. What they are follows from the entries of the tasks
that a worker took up, one after another, and no restart changes that. A mount never compacts the
set, so an entry stays stored alongside a folder above it that was recorded later.
-/

namespace Enlistment

open Enlistment.Path

def StoreStep.entry? : StoreStep → Option String
  | addModifiedPath path isFolder => some (normalizeEntry path isFolder)
  | removePlaceholder _ => none
  | addPlaceholder _ => none

def Task.entries (task : Task) : List String :=
  task.steps.filterMap StoreStep.entry?

namespace Stores

variable {named : List String} {stores : Stores}

theorem applyStep_follows (follows : stores.modifiedPaths.Follows named) (step : StoreStep) :
    ∃ after, stores.applyStep step = (.ok (), after) ∧
      after.modifiedPaths.Follows (named ++ step.entry?.toList) := by
  have stillOpen : stores.database.pool.used.isShutDown = false :=
    (Pool.isShutDown_used _).trans follows.isOpen
  cases step with
  | addModifiedPath path isFolder =>
      have added := follows.addEntry (normalizeEntry path isFolder)
      have accepted : (stores.modifiedPaths.addEntry (normalizeEntry path isFolder)).1.accepted =
          true := by
        rcases stores.modifiedPaths.addEntry_cases (normalizeEntry path isFolder) with
          ⟨_, same⟩ | ⟨_, _, same⟩ | ⟨_, closed, _⟩
        · rw [same]
          rfl
        · rw [same]
          rfl
        · exact absurd (follows.isOpen.symm.trans closed) (by simp)
      rw [applyStep_addModifiedPath, if_pos accepted]
      exact ⟨_, rfl, added⟩
  | removePlaceholder path =>
      refine ⟨_, applyStep_removePlaceholder follows.isOpen path, ?_⟩
      rw [StoreStep.entry?, Option.toList_none, List.append_nil]
      exact follows.setDatabase rfl rfl rfl stillOpen
  | addPlaceholder record =>
      refine ⟨_, applyStep_addPlaceholder follows.isOpen record, ?_⟩
      rw [StoreStep.entry?, Option.toList_none, List.append_nil]
      exact follows.setDatabase rfl rfl rfl stillOpen

theorem applySteps_follows (follows : stores.modifiedPaths.Follows named) (steps : List StoreStep) :
    ∃ after, stores.applySteps steps = (.ok (), after) ∧
      after.modifiedPaths.Follows (named ++ steps.filterMap StoreStep.entry?) := by
  induction steps generalizing stores named with
  | nil => exact ⟨stores, rfl, by simpa using follows⟩
  | cons step rest ih =>
      obtain ⟨stored, applied, next⟩ := applyStep_follows follows step
      obtain ⟨after, finished, later⟩ := ih next
      refine ⟨after, ?_, ?_⟩
      · rw [applySteps, applied]
        exact finished
      · have entries : step.entry?.toList ++ rest.filterMap StoreStep.entry? =
            (step :: rest).filterMap StoreStep.entry? := by
          cases entry : step.entry? <;> simp [entry]
        rwa [List.append_assoc, entries] at later

end Stores

namespace Pipeline

def Follows (named : List String) (pipeline : Pipeline) : Prop :=
  pipeline.stores.modifiedPaths.Follows named

def entriesOf (tasks : List LoggedTask) : List String :=
  tasks.flatMap fun logged => logged.task.entries

namespace Follows

variable {named : List String} {pipeline : Pipeline}

theorem process (follows : pipeline.Follows named) (logged : LoggedTask) :
    (pipeline.process logged).Follows (named ++ logged.task.entries) := by
  obtain ⟨after, applied, later⟩ := Stores.applySteps_follows follows logged.task.steps
  rw [Schedule.process_eq, applied]
  have isOpen : after.database.isShutDown = false := later.isOpen
  have deleted := TaskLog.delete_of_open isOpen logged.id
  simp only [Follows, deleteFromLog, finish, setDatabase, Stores.modifiedPaths, deleted]
  exact later.setDatabase rfl rfl rfl ((Pool.isShutDown_used _).trans isOpen)

theorem processAll (follows : pipeline.Follows named) (tasks : List LoggedTask) :
    (pipeline.processAll tasks).Follows (named ++ entriesOf tasks) := by
  induction tasks generalizing pipeline named with
  | nil => simpa [entriesOf, Pipeline.processAll] using follows
  | cons logged rest ih =>
      have later := ih (follows.process logged)
      rw [List.append_assoc] at later
      exact later

theorem enqueue (follows : pipeline.Follows named) (task : Task) :
    (pipeline.enqueue task).2.Follows named := by
  have isOpen : pipeline.stores.database.isShutDown = false := follows.isOpen
  have stillOpen := (Pool.isShutDown_used _).trans isOpen
  rw [Follows, stores_enqueue]
  by_cases room : pipeline.stores.database.tables.lastTaskId < Tables.lastPossibleTaskId
  · rw [TaskLog.append_of_room isOpen room]
    exact follows.setDatabase rfl rfl rfl stillOpen
  · rw [TaskLog.append_of_full isOpen room]
    exact follows.setDatabase rfl rfl rfl stillOpen

theorem receiveEvent (follows : pipeline.Follows named) (event : Event) :
    (pipeline.receiveEvent event).2.Follows named := by
  unfold Pipeline.receiveEvent
  split
  · exact follows
  · exact @Follows.enqueue _ { pipeline with created := _ } follows _

theorem startOn (follows : pipeline.Follows named) (nonempty : named ≠ []) {sizes : PoolSizes}
    {again : Pipeline}
    (started : Pipeline.startOn sizes pipeline.stores.database.tables = .ok again) :
    again.Follows named := by
  obtain ⟨_, _, logged, _, rfl⟩ := restarted_of_startOn started
  have rows : ({ pipeline.stores.database.tables with version := schemaVersion } :
      Tables).modifiedPaths = pipeline.stores.database.tables.modifiedPaths := rfl
  have isOpen : (Pool.start sizes).used.used.isShutDown = false := by simp
  exact @ModifiedPathsStore.Follows.loaded _ _ follows nonempty ⟨_, .start sizes⟩ rows
    (Int.le_refl _) follows.mirrored.readable _ isOpen

theorem perform (follows : pipeline.Follows named) (nonempty : named ≠ [])
    (action : PipelineAction) :
    (pipeline.perform action).Follows (named ++ entriesOf (pipeline.takenBy action)) := by
  cases action with
  | receive event =>
      simp only [takenBy, entriesOf, List.flatMap_nil, List.append_nil]
      exact follows.receiveEvent event
  | work =>
      simp only [Pipeline.perform, takenBy, TaskQueue.receive]
      cases pipeline.queue.channel with
      | nil => simpa [entriesOf] using follows
      | cons logged rest =>
          have taken := @process _ { pipeline with
            queue := { pipeline.queue with channel := rest } } follows logged
          simpa [entriesOf] using taken
  | drain => exact @processAll _ { pipeline with
      queue := { pipeline.queue with channel := [] } } follows _
  | restart sizes =>
      simp only [Pipeline.perform, takenBy, entriesOf, List.flatMap_nil, List.append_nil]
      split
      · rename_i again started
        exact follows.startOn nonempty started
      · exact follows

theorem performAll (follows : pipeline.Follows named) (nonempty : named ≠ [])
    (actions : List PipelineAction) :
    (pipeline.performAll actions).Follows (named ++ entriesOf (pipeline.takenUp actions)) := by
  induction actions generalizing pipeline named with
  | nil => simpa [entriesOf, takenUp, Pipeline.performAll] using follows
  | cons action rest ih =>
      have later := ih (follows.perform nonempty action) (by simp [nonempty])
      rw [List.append_assoc, entriesOf, entriesOf, ← List.flatMap_append] at later
      exact later

end Follows

theorem follows_fresh (sizes : PoolSizes) : (fresh sizes).Follows [gitAttributes] := by
  exact @ModifiedPathsStore.Follows.of_empty
    ⟨{ Tables.empty with version := schemaVersion }, .start sizes⟩ rfl
    (Int.le_refl _) rfl (Pool.start sizes).used.used (by simp)

/-- From an empty store on, whatever events come, whatever is done about them and whenever the mount
is started again: an entry is stored if nothing that subsumes it was recorded before, and an entry
is stored alongside a folder above it exactly if that folder was recorded later. A compaction leaves
no such entry. -/
theorem stored_alongside_folder_iff (sizes : PoolSizes) (actions : List PipelineAction) :
    ∃ pipeline, startOn sizes .empty = .ok pipeline ∧
      let store := (pipeline.performAll actions).stores.modifiedPaths
      let named := gitAttributes :: entriesOf (pipeline.takenUp actions)
      store.paths.all.Perm store.database.tables.modifiedPaths ∧
      (∀ key, store.paths.hasKey key = true ↔
        ∃ entry, NamedFirst named entry ∧ caseKey entry = key) ∧
      ((∃ entry ∈ store.paths.all, store.paths.hasAncestor entry = true) ↔
        ∃ before entry after, named = before ++ entry :: after ∧
          (∀ earlier ∈ before, ¬ Subsumes earlier entry) ∧
          ∃ folder ∈ after, IsAbove folder entry) ∧
      ∀ entry ∈ store.compact.2.paths.all, store.compact.2.paths.hasAncestor entry = false := by
  have follows := (follows_fresh sizes).performAll (List.cons_ne_nil _ _) actions
  refine ⟨fresh sizes, startOn_empty sizes, follows.mirrored.rows, follows.keys,
    follows.redundant_iff, fun entry listed => follows.hasAncestor_compact listed⟩

/-- A folder that is recorded after a file inside it leaves that file's entry in the set. -/
theorem file_stored_alongside_later_folder :
    ∃ pipeline, startOn ⟨1, 1⟩ .empty = .ok pipeline ∧
      ∃ entry ∈ (pipeline.performAll
          [.receive (.changed (.fileCreated "a/b.txt")), .receive (.changed (.folderCreated "a")),
            .drain]).stores.paths.all,
        (pipeline.performAll
          [.receive (.changed (.fileCreated "a/b.txt")), .receive (.changed (.folderCreated "a")),
            .drain]).stores.paths.hasAncestor entry = true := by
  refine ⟨fresh ⟨1, 1⟩, startOn_empty ⟨1, 1⟩, "a/b.txt", ?_⟩
  decide +kernel

end Pipeline

end Enlistment
