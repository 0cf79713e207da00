import Enlistment.Proofs.Task.Steps

/-!
What a task recorded stays covered. Every path that an applied change names is covered by the set
of modified paths, and no later task, compaction, shutdown or reload takes that away.
-/

namespace Enlistment

open Enlistment.Path

namespace Stores

def Backed (stores : Stores) : Prop :=
  stores.modifiedPaths.Backed

def Covers (stores : Stores) (entry : String) : Prop :=
  stores.paths.covers entry = true

theorem backed_setPlaceholders {used : PlaceholderStore} {stores : Stores}
    (same : used.database.tables.modifiedPaths = stores.database.tables.modifiedPaths)
    (backed : stores.Backed) : (stores.setPlaceholders used).Backed := by
  refine ⟨backed.wellKeyed, ?_⟩
  intro stored member
  have row := backed.stored stored member
  exact same ▸ row

theorem Backed.applyStep {stores : Stores} (backed : stores.Backed) (step : StoreStep) :
    (stores.applyStep step).2.Backed := by
  cases step with
  | addModifiedPath path isFolder =>
      rw [applyStep_addModifiedPath]
      exact ModifiedPathsStore.Backed.addEntry backed _
  | removePlaceholder path =>
      exact backed_setPlaceholders (PlaceholderStore.write_modifiedPaths path false
        (Tables.deletePlaceholder path) (fun _ => rfl) stores.placeholders) backed
  | addPlaceholder record =>
      exact backed_setPlaceholders (PlaceholderStore.write_modifiedPaths record.path true
        (Tables.putPlaceholder (.ofRecord record)) (fun _ => rfl) stores.placeholders) backed

theorem Covers.applyStep {stores : Stores} {entry : String} (covered : stores.Covers entry)
    (step : StoreStep) : (stores.applyStep step).2.Covers entry := by
  cases step with
  | addModifiedPath path isFolder =>
      rw [applyStep_addModifiedPath]
      exact ModifiedPathsStore.keeps_addEntry _ stores.modifiedPaths entry covered
  | removePlaceholder path => exact covered
  | addPlaceholder record => exact covered

theorem covers_of_applyStep {stores : Stores} {path : String} {isFolder : Bool}
    (succeeded : (stores.applyStep (.addModifiedPath path isFolder)).1 = .ok ()) :
    (stores.applyStep (.addModifiedPath path isFolder)).2.Covers
      (normalizeEntry path isFolder) := by
  rw [applyStep_addModifiedPath] at succeeded ⊢
  apply ModifiedPathsStore.covers_of_addEntry
  dsimp only at succeeded
  split at succeeded
  · rename_i accepted
    exact accepted
  · exact absurd succeeded (by simp)

theorem Backed.applySteps {stores : Stores} (backed : stores.Backed) (steps : List StoreStep) :
    (stores.applySteps steps).2.Backed := by
  exact applySteps_keeps (fun step _ _ kept => kept.applyStep step) backed

theorem Covers.applySteps {stores : Stores} {entry : String} (covered : stores.Covers entry)
    (steps : List StoreStep) : (stores.applySteps steps).2.Covers entry := by
  have keeps : ∀ step ∈ steps, ∀ stores : Stores, stores.Covers entry →
      (stores.applyStep step).2.Covers entry := fun step _ _ kept => Covers.applyStep kept step
  exact applySteps_keeps keeps covered

theorem covers_of_applySteps {stores : Stores} {steps : List StoreStep} {path : String}
    {isFolder : Bool} (succeeded : (stores.applySteps steps).1 = .ok ())
    (recorded : .addModifiedPath path isFolder ∈ steps) :
    (stores.applySteps steps).2.Covers (normalizeEntry path isFolder) := by
  induction steps generalizing stores with
  | nil => exact absurd recorded (by simp)
  | cons step rest ih =>
      simp only [applySteps] at succeeded ⊢
      split at succeeded
      · rename_i after applied
        rcases List.mem_cons.mp recorded with first | later
        · subst first
          have now := covers_of_applyStep (congrArg Prod.fst applied)
          rw [applied] at now
          exact now.applySteps rest
        · exact ih succeeded later
      · exact absurd succeeded (by simp)

end Stores

theorem Change.records_paths {change : Change} {path : String} (named : path ∈ change.paths) :
    .addModifiedPath path change.isFolder ∈ change.steps := by
  cases change <;> simp_all [Change.paths, Change.oldPath?, Change.path, Change.steps,
    Change.isFolder]

namespace Stores

theorem covers_of_apply {stores applied : Stores} {change : Change} {path : String}
    (succeeded : stores.apply (.change change) = (.ok (), applied))
    (named : path ∈ change.paths) : applied.Covers (normalizeEntry path change.isFolder) := by
  have all : (stores.applySteps change.steps).1 = .ok () := congrArg Prod.fst succeeded
  have covered := covers_of_applySteps all (Change.records_paths named)
  rw [show stores.applySteps change.steps = (.ok (), applied) from succeeded] at covered
  exact covered

def compact (stores : Stores) : Stores :=
  stores.setModifiedPaths stores.modifiedPaths.compact.2

def shutDown (stores : Stores) : Stores :=
  { stores with database := stores.database.shutDown }

def reload (database : Database) (stores : Stores) : Stores :=
  match load database with
  | (.ok loaded, _) => loaded
  | (.error _, kept) => { stores with database := kept }

end Stores

inductive StoreAction where
  | apply (task : Task)
  | compact
  | shutDown
  | reload
  | reopen (sizes : PoolSizes)

namespace Stores

def perform (stores : Stores) : StoreAction → Stores
  | .apply task => (stores.apply task).2
  | .compact => stores.compact
  | .shutDown => stores.shutDown
  | .reload => stores.reload stores.database
  | .reopen sizes =>
      match Database.openOn sizes stores.database.tables with
      | .ok database => stores.reload database
      | .error _ => stores

def performAll (actions : List StoreAction) (stores : Stores) : Stores :=
  actions.foldl perform stores

theorem backed_loaded (database : Database) : (loaded database).Backed := by
  exact ModifiedPathsStore.backed_loaded _ _

theorem Backed.reload {stores : Stores} (backed : stores.Backed) {database : Database}
    (same : database.tables.modifiedPaths = stores.database.tables.modifiedPaths) :
    (stores.reload database).Backed := by
  rcases load_cases database with ⟨_, _, read⟩ | ⟨error, kept, failed, tables⟩
  · rw [Stores.reload, read]
    exact backed_loaded database
  · rw [Stores.reload, failed]
    refine ⟨backed.wellKeyed, ?_⟩
    intro stored member
    have row := backed.stored stored member
    exact tables.symm ▸ same ▸ row

theorem Covers.reload {stores : Stores} (backed : stores.Backed) {entry : String}
    (covered : stores.Covers entry) {database : Database}
    (same : database.tables.modifiedPaths = stores.database.tables.modifiedPaths) :
    (stores.reload database).Covers entry := by
  rcases load_cases database with ⟨_, _, read⟩ | ⟨error, kept, failed, _⟩
  · have stillBacked : ModifiedPathsStore.Backed ⟨database, stores.paths⟩ :=
      ⟨backed.wellKeyed, fun stored member => same ▸ backed.stored stored member⟩
    have reloaded := ModifiedPathsStore.covers_reloaded stillBacked covered
    rw [Stores.reload, read]
    exact reloaded
  · rw [Stores.reload, failed]
    exact covered

theorem openOn_modifiedPaths {sizes : PoolSizes} {tables : Tables} {database : Database}
    (opened : Database.openOn sizes tables = .ok database) :
    database.tables.modifiedPaths = tables.modifiedPaths := by
  rw [Database.tables_of_openOn opened]

theorem Backed.perform {stores : Stores} (backed : stores.Backed) (action : StoreAction) :
    (stores.perform action).Backed := by
  cases action with
  | apply task => exact backed.applySteps task.steps
  | compact => exact ModifiedPathsStore.Backed.compact backed
  | shutDown => exact ⟨backed.wellKeyed, backed.stored⟩
  | reload => exact backed.reload rfl
  | reopen sizes =>
      simp only [Stores.perform]
      split
      · rename_i database opened
        exact backed.reload (openOn_modifiedPaths opened)
      · exact backed

theorem Covers.perform {stores : Stores} (backed : stores.Backed) {entry : String}
    (covered : stores.Covers entry) (action : StoreAction) :
    (stores.perform action).Covers entry := by
  cases action with
  | apply task => exact covered.applySteps task.steps
  | compact => exact ModifiedPathsStore.keeps_compact backed entry covered
  | shutDown => exact covered
  | reload => exact covered.reload backed rfl
  | reopen sizes =>
      simp only [Stores.perform]
      split
      · rename_i database opened
        exact covered.reload backed (openOn_modifiedPaths opened)
      · exact covered

theorem Backed.performAll {stores : Stores} (backed : stores.Backed)
    (actions : List StoreAction) : (stores.performAll actions).Backed := by
  exact List.foldlRecOn actions _ backed fun _ backed action _ => backed.perform action

theorem Covers.performAll {stores : Stores} (backed : stores.Backed) {entry : String}
    (covered : stores.Covers entry) (actions : List StoreAction) :
    (stores.performAll actions).Covers entry := by
  induction actions generalizing stores with
  | nil => exact covered
  | cons action rest ih => exact ih (backed.perform action) (covered.perform backed action)

/-- No divergence is lost. A store that can be opened is loaded exactly if its paths can be read. Then
whatever its table held, or the attributes file where it was empty, stays covered; so does every path of
every change that was applied, from then on. -/
theorem divergence_stays_covered {sizes : PoolSizes} {tables : Tables} {database : Database}
    (opened : Database.openOn sizes tables = .ok database) :
    ((∃ stores after, load database = (.ok stores, after)) ↔ tables.unreadablePaths = []) ∧
    ∀ stores after, load database = (.ok stores, after) →
      (∀ entry, entry ∈ tables.modifiedPaths ∨
          tables.modifiedPaths = [] ∧ entry = gitAttributes →
        ∀ actions, (stores.performAll actions).Covers entry) ∧
      ∀ earlier change applied,
        (stores.performAll earlier).apply (.change change) = (.ok (), applied) →
        ∀ path ∈ change.paths, ∀ later,
          (applied.performAll later).Covers (normalizeEntry path change.isFolder) := by
  have isOpen := Database.isOpen_of_openOn opened
  have rows := openOn_modifiedPaths opened
  have texts : database.tables.unreadablePaths = tables.unreadablePaths := by
    rw [Database.tables_of_openOn opened]
  refine ⟨⟨?_, fun readable => ⟨_, _, load_of_open isOpen (texts.trans readable)⟩⟩, ?_⟩
  · rintro ⟨stores, after, found⟩
    exact texts.symm.trans (eq_loaded_of_load found).1
  intro stores after found
  obtain ⟨_, rfl⟩ := eq_loaded_of_load found
  refine ⟨?_, ?_⟩
  · intro entry tracked actions
    refine Covers.performAll (backed_loaded database) ?_ actions
    apply ModifiedPathsStore.covers_loaded
    rcases tracked with listed | ⟨empty, seeded⟩
    · exact ModifiedPathsStore.mem_seed (rows ▸ listed)
    · simp [ModifiedPathsStore.seed, rows, empty, seeded]
  · intro earlier change applied succeeded path named later
    have backed := ((backed_loaded database).performAll earlier).applySteps change.steps
    rw [show (performAll earlier _).applySteps change.steps = (.ok (), applied)
      from succeeded] at backed
    exact (covers_of_apply succeeded named).performAll backed later

theorem renamed_folder_stays_covered_after_first_start :
    ∃ stores applied, load ⟨{ Tables.empty with version := 1 }, Pool.start ⟨1, 1⟩⟩ =
        (.ok stores, stores.database) ∧
      stores.apply (.change (.folderRenamed "src" "lib")) = (.ok (), applied) ∧
      ∀ later, (stores.performAll later).Covers ".gitattributes" ∧
        (applied.performAll later).Covers "src/" ∧ (applied.performAll later).Covers "lib/" := by
  have opened := Database.openOn_of_known ⟨1, 1⟩
    (show Tables.empty.version ≤ schemaVersion by decide)
  have found : load ⟨{ Tables.empty with version := 1 }, Pool.start ⟨1, 1⟩⟩ =
      (.ok (loaded _), (loaded _).database) := load_of_open rfl rfl
  obtain ⟨tracked, recorded⟩ := (divergence_stays_covered opened).2 _ _ found
  obtain ⟨applied, succeeded⟩ :
      ∃ applied, (loaded ⟨{ Tables.empty with version := 1 }, Pool.start ⟨1, 1⟩⟩).apply
        (.change (.folderRenamed "src" "lib")) = (.ok (), applied) := ⟨_, rfl⟩
  refine ⟨_, applied, found, succeeded, fun later => ⟨?_, ?_, ?_⟩⟩
  · exact tracked gitAttributes (.inr ⟨rfl, rfl⟩) later
  · exact recorded [] _ _ succeeded "src" (by decide) later
  · exact recorded [] _ _ succeeded "lib" (by decide) later

end Stores

end Enlistment
