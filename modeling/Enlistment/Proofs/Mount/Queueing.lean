import Enlistment.Proofs.Mount.Provenance

/-!
The queue over a run. The worker takes tasks up in the order in which they were sent, each once, and
a task that is sent gets an id above all that were given before; so what waited when a run began is
taken up before anything that was queued on the way.
-/

namespace Enlistment

namespace Stores

@[simp]
theorem lastTaskId_applyStep (step : StoreStep) (stores : Stores) :
    (stores.applyStep step).2.database.tables.lastTaskId = stores.database.tables.lastTaskId := by
  have written : ∀ (path : String) (present : Bool) (change : Tables → Tables),
      (∀ tables, (change tables).lastTaskId = tables.lastTaskId) →
      (stores.placeholders.write path present change).2.database.tables.lastTaskId =
        stores.database.tables.lastTaskId := by
    intro path present change frame
    unfold PlaceholderStore.write
    rcases Database.update_cases change stores.placeholders.database with
      ⟨_, updated⟩ | ⟨_, refused⟩
    · rw [updated]
      exact frame _
    · rw [refused]
      rfl
  cases step with
  | addModifiedPath path isFolder =>
      rw [applyStep_addModifiedPath]
      rcases stores.modifiedPaths.addEntry_cases (Path.normalizeEntry path isFolder) with
        ⟨_, same⟩ | ⟨_, _, added⟩ | ⟨_, _, same⟩
      · rw [same]
        rfl
      · rw [added]
        rfl
      · rw [same]
        rfl
  | removePlaceholder path => exact written path false (Tables.deletePlaceholder path) fun _ => rfl
  | addPlaceholder record =>
      exact written record.path true (Tables.putPlaceholder (.ofRecord record)) fun _ => rfl

@[simp]
theorem lastTaskId_applySteps (steps : List StoreStep) (stores : Stores) :
    (stores.applySteps steps).2.database.tables.lastTaskId = stores.database.tables.lastTaskId :=
  @applySteps_keeps
    (fun after => after.database.tables.lastTaskId = stores.database.tables.lastTaskId) _
    (fun step _ after kept => (lastTaskId_applyStep step after).trans kept) _ rfl

end Stores

def PipelineAction.isRestart : PipelineAction → Bool
  | .restart _ => true
  | _ => false

namespace Pipeline

def lastTaskId (pipeline : Pipeline) : Int :=
  pipeline.stores.database.tables.lastTaskId

@[simp]
theorem lastTaskId_process (logged : LoggedTask) (pipeline : Pipeline) :
    (pipeline.process logged).lastTaskId = pipeline.lastTaskId := by
  have applied := Stores.lastTaskId_applySteps logged.task.steps pipeline.stores
  rw [Schedule.process_eq]
  split
  · rename_i stores done
    rw [done] at applied
    refine Eq.trans ?_ applied
    simp only [lastTaskId, finish, deleteFromLog, setDatabase, TaskLog.delete]
    rcases Database.update_cases (Tables.deleteTask logged.id) stores.database with
      ⟨_, deleted⟩ | ⟨_, refused⟩
    · rw [deleted]
      rfl
    · rw [refused]
  · rename_i error stores failed
    rw [failed] at applied
    exact applied

structure Queues (before after : Pipeline) (taken queued : List LoggedTask) : Prop where
  order : taken ++ after.queue.channel = before.queue.channel ++ queued
  increasing : queued.Pairwise (·.id < ·.id)
  above : ∀ logged ∈ queued, before.lastTaskId < logged.id
  below : ∀ logged ∈ queued, logged.id ≤ after.lastTaskId
  grows : before.lastTaskId ≤ after.lastTaskId

/-- Where nothing is queued, only the order matters. -/
theorem queues_nothing {before after : Pipeline} {taken : List LoggedTask}
    (order : taken ++ after.queue.channel = before.queue.channel)
    (same : after.lastTaskId = before.lastTaskId) : Queues before after taken [] :=
  ⟨by rw [order, List.append_nil], .nil, by simp, by simp, Int.le_of_eq same.symm⟩

theorem Queues.trans {before between after : Pipeline}
    {taken queued moreTaken moreQueued : List LoggedTask}
    (first : Queues before between taken queued)
    (second : Queues between after moreTaken moreQueued) :
    Queues before after (taken ++ moreTaken) (queued ++ moreQueued) := by
  refine ⟨?_, ?_, ?_, ?_, Int.le_trans first.grows second.grows⟩
  · rw [List.append_assoc, second.order, ← List.append_assoc, first.order, List.append_assoc]
  · refine List.pairwise_append.mpr ⟨first.increasing, second.increasing, ?_⟩
    intro earlier old later new
    have bound := first.below earlier old
    have above := second.above later new
    omega
  · intro logged member
    rcases List.mem_append.mp member with old | new
    · exact first.above logged old
    · exact Int.lt_of_le_of_lt first.grows (second.above logged new)
  · intro logged member
    rcases List.mem_append.mp member with old | new
    · exact Int.le_trans (first.below logged old) second.grows
    · exact second.below logged new

variable {pipeline : Pipeline}

theorem queues_enqueue (task : Task) (created : List (String × Nat)) :
    ∃ queued, Queues pipeline ({ pipeline with created }.enqueue task).2 [] queued := by
  rcases append : TaskLog.append task pipeline.stores.database with ⟨error | id, after⟩
  · rw [@Schedule.enqueue_of_refusal { pipeline with created } _ _ _ append]
    exact ⟨[], queues_nothing rfl
      (congrArg Tables.lastTaskId (TaskLog.tables_of_refusal append))⟩
  · obtain ⟨next, written⟩ := TaskLog.eq_of_append append
    have last : after.tables.lastTaskId = id := (congrArg Tables.lastTaskId written).trans next.symm
    have above : pipeline.lastTaskId < id := next ▸ Int.lt_succ _
    have grows : pipeline.lastTaskId ≤ after.tables.lastTaskId := last ▸ Int.le_of_lt above
    rw [@Schedule.enqueue_of_append { pipeline with created } _ _ _ append, TaskQueue.send]
    split
    · refine ⟨[⟨id, task⟩], rfl, List.pairwise_singleton _ _, ?_, ?_, grows⟩
      · intro logged member
        rw [List.mem_singleton.mp member]
        exact above
      · intro logged member
        rw [List.mem_singleton.mp member]
        exact Int.le_of_eq last.symm
    · exact ⟨[], by simp, .nil, by simp, by simp, grows⟩

structure Worked (before after : Pipeline) (taken : List LoggedTask) : Prop where
  order : taken ++ after.queue.channel = before.queue.channel
  isOpen : after.queue.isOpen = before.queue.isOpen
  lastTaskId : after.lastTaskId = before.lastTaskId

theorem Worked.queues {before after : Pipeline} {taken : List LoggedTask}
    (worked : Worked before after taken) : Queues before after taken [] :=
  queues_nothing worked.order worked.lastTaskId

theorem worked_work (pipeline : Pipeline) :
    Worked pipeline (pipeline.perform .work) (pipeline.takenBy .work) := by
  simp only [perform, takenBy, TaskQueue.receive]
  cases waiting : pipeline.queue.channel with
  | nil => exact ⟨rfl, rfl, rfl⟩
  | cons logged rest =>
      refine ⟨?_, ?_, lastTaskId_process logged _⟩
      · simp [waiting]
      · simp

theorem processAll_frame (tasks : List LoggedTask) (pipeline : Pipeline) :
    (pipeline.processAll tasks).queue.isOpen = pipeline.queue.isOpen ∧
      (pipeline.processAll tasks).lastTaskId = pipeline.lastTaskId := by
  refine List.foldlRecOn tasks _ (motive := fun after : Pipeline =>
    after.queue.isOpen = pipeline.queue.isOpen ∧ after.lastTaskId = pipeline.lastTaskId)
    ⟨rfl, rfl⟩ ?_
  rintro after ⟨isOpen, last⟩ logged _
  refine ⟨?_, (lastTaskId_process logged after).trans last⟩
  simpa using isOpen

theorem worked_drain (pipeline : Pipeline) :
    Worked pipeline (pipeline.perform .drain) (pipeline.takenBy .drain) := by
  obtain ⟨isOpen, last⟩ := processAll_frame pipeline.queue.channel
    { pipeline with queue := { pipeline.queue with channel := [] } }
  refine ⟨?_, isOpen, last⟩
  simp [perform, takenBy]

theorem queues_perform (pipeline : Pipeline) {action : PipelineAction}
    (goesOn : action.isRestart = false) :
    ∃ queued, Queues pipeline (pipeline.perform action) (pipeline.takenBy action) queued := by
  cases action with
  | receive event =>
      simp only [perform, receiveEvent, takenBy]
      split
      · exact ⟨[], queues_nothing rfl rfl⟩
      · exact queues_enqueue _ _
  | work => exact ⟨[], pipeline.worked_work.queues⟩
  | drain => exact ⟨[], pipeline.worked_drain.queues⟩
  | restart sizes => exact absurd goesOn (by simp [PipelineAction.isRestart])

theorem queues_performAll (pipeline : Pipeline) {actions : List PipelineAction}
    (goesOn : ∀ action ∈ actions, action.isRestart = false) :
    ∃ queued, Queues pipeline (pipeline.performAll actions) (pipeline.takenUp actions) queued := by
  induction actions generalizing pipeline with
  | nil => exact ⟨[], queues_nothing rfl rfl⟩
  | cons action rest ih =>
      obtain ⟨first, step⟩ := queues_perform pipeline (goesOn action List.mem_cons_self)
      obtain ⟨later, run⟩ := ih (pipeline.perform action) fun other member =>
        goesOn other (List.mem_cons_of_mem action member)
      exact ⟨first ++ later, step.trans run⟩

end Pipeline

end Enlistment
