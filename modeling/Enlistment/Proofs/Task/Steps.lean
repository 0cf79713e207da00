import Enlistment.Proofs.ModifiedPaths.Coverage
import Enlistment.Task.Apply

/-!
The stores of a mount, as they are read from an open store and as each step of a task leaves them.
-/

namespace Enlistment

open Enlistment.Path

namespace PlaceholderStore

theorem write_modifiedPaths (path : String) (present : Bool) (change : Tables → Tables)
    (frame : ∀ tables, (change tables).modifiedPaths = tables.modifiedPaths)
    (store : PlaceholderStore) :
    (store.write path present change).2.database.tables.modifiedPaths =
      store.database.tables.modifiedPaths := by
  unfold write
  rcases Database.update_cases change store.database with ⟨_, updated⟩ | ⟨_, refused⟩
  · rw [updated]
    exact frame _
  · rw [refused]

theorem write_of_open (store : PlaceholderStore) (isOpen : store.database.isShutDown = false)
    (path : String) (present : Bool) (change : Tables → Tables) :
    store.write path present change =
      (.ok (), ⟨⟨change store.database.tables, store.database.pool.used⟩,
        store.memory.remember path present⟩) := by
  rw [write, Database.update_of_open isOpen]

end PlaceholderStore

namespace Stores

def loaded (database : Database) : Stores where
  database := ⟨(ModifiedPathsStore.seed database.tables).2, database.pool.used⟩
  memory := .empty
  paths := .ofEntries (ModifiedPathsStore.seed database.tables).1

@[simp]
theorem isShutDown_loaded (database : Database) :
    (loaded database).database.isShutDown = database.isShutDown := by
  simp [loaded]

theorem load_of_open {database : Database} (isOpen : database.isShutDown = false)
    (readable : database.tables.unreadablePaths = []) :
    load database = (.ok (loaded database), (loaded database).database) := by
  rw [load, ModifiedPathsStore.load_of_open isOpen readable]
  rfl

theorem load_of_unreadable {database : Database} (isOpen : database.isShutDown = false)
    (unreadable : database.tables.unreadablePaths ≠ []) :
    load database =
      (.error (.statement (.undecodable "path")), ⟨database.tables, database.pool.used⟩) := by
  rw [load, ModifiedPathsStore.load_of_unreadable isOpen unreadable]

theorem load_of_shutDown {database : Database} (closed : database.isShutDown = true) :
    load database = (.error .shutDown, database) := by
  rw [load, ModifiedPathsStore.load_of_shutDown closed]

/-- Stores are loaded as a whole, or not at all; then the tables are as they were. -/
theorem load_cases (database : Database) :
    (database.isShutDown = false ∧ database.tables.unreadablePaths = [] ∧
      load database = (.ok (loaded database), (loaded database).database)) ∨
    ∃ error after, load database = (.error error, after) ∧ after.tables = database.tables := by
  cases state : database.isShutDown with
  | true => exact .inr ⟨_, _, load_of_shutDown state, rfl⟩
  | false =>
      by_cases readable : database.tables.unreadablePaths = []
      · exact .inl ⟨rfl, readable, load_of_open state readable⟩
      · exact .inr ⟨_, _, load_of_unreadable state readable, rfl⟩

theorem eq_loaded_of_load {database after : Database} {stores : Stores}
    (found : load database = (.ok stores, after)) :
    database.tables.unreadablePaths = [] ∧ stores = loaded database := by
  obtain ⟨_, readable, same⟩ | ⟨_, _, failed, _⟩ := load_cases database
  · exact ⟨readable, Except.ok.inj (congrArg Prod.fst (found.symm.trans same))⟩
  · exact absurd (congrArg Prod.fst (found.symm.trans failed)) nofun

theorem applyStep_addModifiedPath (path : String) (isFolder : Bool) (stores : Stores) :
    stores.applyStep (.addModifiedPath path isFolder) =
      (if (stores.modifiedPaths.addEntry (normalizeEntry path isFolder)).1.accepted then .ok ()
        else .error (.modifiedPathRejected path
          (stores.modifiedPaths.addEntry (normalizeEntry path isFolder)).1.retryable),
        stores.setModifiedPaths
          (stores.modifiedPaths.addEntry (normalizeEntry path isFolder)).2) := by
  simp only [applyStep]
  split
  · rename_i accepted
    exact Prod.ext (if_pos accepted).symm rfl
  · rename_i rejected
    exact Prod.ext (if_neg rejected).symm rfl

/-- What each of its steps keeps, a task keeps, whether or not it gets to its end. -/
theorem applySteps_keeps {Kept : Stores → Prop} {steps : List StoreStep}
    (keeps : ∀ step ∈ steps, ∀ stores, Kept stores → Kept (stores.applyStep step).2)
    {stores : Stores} (kept : Kept stores) : Kept (stores.applySteps steps).2 := by
  induction steps generalizing stores with
  | nil => exact kept
  | cons step rest ih =>
      have next := keeps step List.mem_cons_self stores kept
      simp only [applySteps]
      split
      · rename_i after applied
        rw [applied] at next
        exact ih (fun other member => keeps other (List.mem_cons_of_mem step member)) next
      · rename_i error after failed
        rw [failed] at next
        exact next

theorem exists_of_applySteps_cons {stores after : Stores} {step : StoreStep} {rest : List StoreStep}
    (done : stores.applySteps (step :: rest) = (.ok (), after)) :
    ∃ next, stores.applyStep step = (.ok (), next) ∧ next.applySteps rest = (.ok (), after) := by
  simp only [applySteps] at done
  split at done
  · rename_i next applied
    exact ⟨next, applied, done⟩
  · exact absurd (congrArg Prod.fst done) (by simp)

theorem applyStep_removePlaceholder {stores : Stores}
    (isOpen : stores.database.isShutDown = false) (path : String) :
    stores.applyStep (.removePlaceholder path) =
      (.ok (), { stores with
        database := ⟨stores.database.tables.deletePlaceholder path, stores.database.pool.used⟩
        memory := stores.memory.remember path false }) := by
  have written := stores.placeholders.write_of_open isOpen path false
    (Tables.deletePlaceholder path)
  simp only [applyStep, PlaceholderStore.remove, written]
  rfl

theorem applyStep_addPlaceholder {stores : Stores}
    (isOpen : stores.database.isShutDown = false) (record : PlaceholderRecord) :
    stores.applyStep (.addPlaceholder record) =
      (.ok (), { stores with
        database := ⟨stores.database.tables.putPlaceholder (.ofRecord record),
          stores.database.pool.used⟩
        memory := stores.memory.remember record.path true }) := by
  have written := stores.placeholders.write_of_open isOpen record.path true
    (Tables.putPlaceholder (.ofRecord record))
  simp only [applyStep, PlaceholderStore.add, written]
  rfl

end Stores

end Enlistment
