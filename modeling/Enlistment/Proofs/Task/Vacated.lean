import Enlistment.Proofs.Path.AsciiCase
import Enlistment.Proofs.Placeholder.FoldedMap
import Enlistment.Proofs.Task.Coverage
import Enlistment.Proofs.Task.Effect

/-!
Paths that stop being placeholders. The placeholders go by the letters `A` to `Z` alone, the modified
paths by all of lowercase text. A path that a change vacates is no placeholder any more and is
recorded, in every spelling that differs in those letters only; a placeholder whose path differs in
another letter stays, though the recorded entry covers it.
-/

namespace Enlistment

open Enlistment.Path
open Enlistment.Text (asciiLowercase)

namespace Change

/-- The path where the change leaves no placeholder. -/
def vacated? : Change → Option String
  | fileDeleted path => some path
  | fileConvertedToFull path => some path
  | fileRenamed oldPath _ => some oldPath
  | folderDeleted path => some path
  | folderRenamed oldPath _ => some oldPath
  | fileCreated _ | fileOverwritten _ | fileHardLinkCreated _ | fileSuperseded _
  | folderCreated _ => none

theorem removePlaceholder_mem_steps_iff (change : Change) (path : String) :
    .removePlaceholder path ∈ change.steps ↔ change.vacated? = some path := by
  cases change <;> simp [steps, vacated?, eq_comm]

theorem mem_paths_of_vacated {change : Change} {path : String}
    (vacated : change.vacated? = some path) : path ∈ change.paths := by
  cases change <;> simp_all [vacated?, paths, oldPath?, Change.path]

theorem addsPlaceholder_of_mem_steps {change : Change} {step : StoreStep}
    (member : step ∈ change.steps) : step.addsPlaceholder = false := by
  rcases (Task.change change).steps_cases with ⟨record, single⟩ | changes
  · have adding : .addPlaceholder record ∈ change.steps := by
      rw [show change.steps = [.addPlaceholder record] from single]
      exact List.mem_singleton_self _
    cases change <;> simp [steps] at adding
  · exact changes step member

end Change

namespace Stores

/-! Rows. -/

theorem placeholders_addModifiedPath (path : String) (isFolder : Bool) (stores : Stores) :
    (stores.applyStep (.addModifiedPath path isFolder)).2.database.tables.placeholders =
      stores.database.tables.placeholders := by
  rw [applyStep_addModifiedPath]
  rcases stores.modifiedPaths.addEntry_cases (normalizeEntry path isFolder) with
    ⟨_, same⟩ | ⟨_, _, added⟩ | ⟨_, _, same⟩
  · rw [same]
    rfl
  · rw [added]
    rfl
  · rw [same]
    rfl

theorem isOpen_of_removePlaceholder {stores after : Stores} {path : String}
    (done : stores.applyStep (.removePlaceholder path) = (.ok (), after)) :
    stores.database.isShutDown = false := by
  rcases PlaceholderStore.write_cases path false (Tables.deletePlaceholder path)
    stores.placeholders with ⟨isOpen, _⟩ | ⟨_, refused⟩
  · exact isOpen
  · have answer := congrArg Prod.fst done
    simp [applyStep, PlaceholderStore.remove, refused, Except.mapError] at answer

/-- A step that succeeds keeps the rows, except those with the key of a placeholder it removes. -/
theorem mem_placeholders_applyStep {stores after : Stores} {step : StoreStep}
    (changes : step.addsPlaceholder = false) (done : stores.applyStep step = (.ok (), after))
    (row : PlaceholderRow) :
    row ∈ after.database.tables.placeholders ↔
      row ∈ stores.database.tables.placeholders ∧
        ∀ path, step = .removePlaceholder path → row.key ≠ PlaceholderKey.ofPath path := by
  cases step with
  | addModifiedPath path isFolder =>
      have same := placeholders_addModifiedPath path isFolder stores
      rw [done] at same
      rw [show after.database.tables.placeholders = _ from same]
      simp
  | removePlaceholder path =>
      rw [applyStep_removePlaceholder (isOpen_of_removePlaceholder done)] at done
      rw [← (Prod.mk.inj done).2]
      simp [Tables.deletePlaceholder]
  | addPlaceholder record => exact absurd changes (by simp [StoreStep.addsPlaceholder])

theorem mem_placeholders_applySteps {stores after : Stores} {steps : List StoreStep}
    (changes : ∀ step ∈ steps, step.addsPlaceholder = false)
    (done : stores.applySteps steps = (.ok (), after)) (row : PlaceholderRow) :
    row ∈ after.database.tables.placeholders ↔
      row ∈ stores.database.tables.placeholders ∧
        ∀ path, .removePlaceholder path ∈ steps → row.key ≠ PlaceholderKey.ofPath path := by
  induction steps generalizing stores with
  | nil =>
      obtain ⟨_, rfl⟩ := Prod.mk.inj done
      simp
  | cons step rest ih =>
      rw [List.forall_mem_cons] at changes
      obtain ⟨next, applied, later⟩ := exists_of_applySteps_cons done
      rw [ih changes.2 later, mem_placeholders_applyStep changes.1 applied, and_assoc]
      simp only [List.mem_cons, or_imp, forall_and, eq_comm]

/-! What is remembered. -/

def RemembersNone (path : String) (stores : Stores) : Prop :=
  stores.memory.remembered? path = some false

theorem RemembersNone.applyStep {stores : Stores} {path : String}
    (remembers : stores.RemembersNone path) {step : StoreStep}
    (changes : step.addsPlaceholder = false) : (stores.applyStep step).2.RemembersNone path := by
  cases step with
  | addModifiedPath other isFolder =>
      rw [applyStep_addModifiedPath]
      exact remembers
  | removePlaceholder other =>
      rcases PlaceholderStore.write_cases other false (Tables.deletePlaceholder other)
        stores.placeholders with ⟨isOpen, _⟩ | ⟨_, refused⟩
      · rw [applyStep_removePlaceholder isOpen, RemembersNone, PlaceholderMemory.remembered?,
          PlaceholderMemory.lookup_remember]
        split
        · rfl
        · exact remembers
      · simp only [Stores.applyStep, PlaceholderStore.remove, refused]
        exact remembers
  | addPlaceholder record => exact absurd changes (by simp [StoreStep.addsPlaceholder])

theorem remembersNone_of_removePlaceholder {stores after : Stores} {path : String}
    (done : stores.applyStep (.removePlaceholder path) = (.ok (), after)) :
    after.RemembersNone path := by
  rw [applyStep_removePlaceholder (isOpen_of_removePlaceholder done)] at done
  rw [← (Prod.mk.inj done).2, RemembersNone, PlaceholderMemory.remembered?,
    PlaceholderMemory.lookup_remember, if_pos rfl]

theorem remembersNone_of_applySteps {stores after : Stores} {steps : List StoreStep}
    {path : String} (changes : ∀ step ∈ steps, step.addsPlaceholder = false)
    (done : stores.applySteps steps = (.ok (), after)) (removed : .removePlaceholder path ∈ steps) :
    after.RemembersNone path := by
  induction steps generalizing stores with
  | nil => exact absurd removed (by simp)
  | cons step rest ih =>
      rw [List.forall_mem_cons] at changes
      obtain ⟨next, applied, later⟩ := exists_of_applySteps_cons done
      rcases List.mem_cons.mp removed with rfl | removedLater
      · have now : next.RemembersNone path := remembersNone_of_removePlaceholder applied
        have keeps : ∀ step ∈ rest, ∀ stores : Stores, stores.RemembersNone path →
            (stores.applyStep step).2.RemembersNone path :=
          fun step member _ remembers => remembers.applyStep (changes.2 step member)
        have kept := applySteps_keeps keeps now
        rw [later] at kept
        exact kept
      · exact ih changes.2 later removedLater

theorem RemembersNone.contains {stores : Stores} {path : String}
    (remembers : stores.RemembersNone path) : (stores.placeholders.contains path).1 = .ok false := by
  have known : stores.placeholders.memory.remembered? path = some false := remembers
  rw [PlaceholderStore.contains, known]

/-- A change that succeeds leaves no placeholder at the path that it vacates, neither in the table
nor in memory, and records that path; it does so in every spelling that differs in the letters `A` to
`Z` only, and the modified paths take such spellings for one. Every other row is kept. -/
theorem vacated_path_is_no_placeholder {stores applied : Stores} {change : Change} {event : String}
    (succeeded : stores.apply (.change change) = (.ok (), applied))
    (vacated : change.vacated? = some event) :
    (∀ path, asciiLowercase path = asciiLowercase event →
      caseKey path = caseKey event ∧
      applied.database.tables.hasPlaceholder path = false ∧
      (applied.placeholders.contains path).1 = .ok false ∧
      applied.Covers (normalizeEntry path change.isFolder)) ∧
    ∀ row, row ∈ applied.database.tables.placeholders ↔
      row ∈ stores.database.tables.placeholders ∧ row.key ≠ PlaceholderKey.ofPath event := by
  have done : stores.applySteps change.steps = (.ok (), applied) := succeeded
  have changes : ∀ step ∈ change.steps, step.addsPlaceholder = false :=
    fun step => Change.addsPlaceholder_of_mem_steps
  have rows : ∀ row, row ∈ applied.database.tables.placeholders ↔
      row ∈ stores.database.tables.placeholders ∧ row.key ≠ PlaceholderKey.ofPath event := by
    intro row
    rw [mem_placeholders_applySteps changes done]
    simp only [Change.removePlaceholder_mem_steps_iff, vacated, Option.some.injEq, forall_eq']
  refine ⟨?_, rows⟩
  intro path same
  refine ⟨caseKey_eq_of_asciiLowercase_eq same, ?_, ?_, ?_⟩
  · rw [Tables.hasPlaceholder, List.any_eq_false]
    intro row member
    rw [PlaceholderKey.ofPath_congr same]
    simpa using ((rows row).mp member).2
  · have remembers := remembersNone_of_applySteps changes done
      ((change.removePlaceholder_mem_steps_iff event).mpr vacated)
    rw [RemembersNone, PlaceholderMemory.remembered?, ← same] at remembers
    exact RemembersNone.contains remembers
  · have covered := covers_of_apply succeeded (Change.mem_paths_of_vacated vacated)
    rw [Covers, ModifiedPaths.covers_congr_entry (caseKey_normalizeEntry_eq same change.isFolder)]
    exact covered

def withPlaceholder (path : String) : Stores :=
  (loaded ⟨Tables.empty, Pool.start ⟨1, 1⟩⟩).perform
    (.apply (.placeholderCreated ⟨path, .partialFolder⟩))

theorem deleted_placeholder_is_gone_in_any_ascii_case :
    ∃ applied, (withPlaceholder "Docs/A").apply (.change (.folderDeleted "docs/a")) =
        (.ok (), applied) ∧
      applied.database.tables.hasPlaceholder "DOCS/A" = false ∧
      (applied.placeholders.contains "DOCS/A").1 = .ok false ∧ applied.Covers "DOCS/A/" := by
  obtain ⟨applied, succeeded⟩ : ∃ applied, (withPlaceholder "Docs/A").apply
      (.change (.folderDeleted "docs/a")) = (.ok (), applied) := ⟨_, rfl⟩
  obtain ⟨_, absent, answer, covered⟩ := (vacated_path_is_no_placeholder succeeded rfl).1 "DOCS/A"
    (by decide +kernel)
  exact ⟨applied, succeeded, absent, answer, covered⟩

/-- Of two spellings of one entry that differ in a letter beyond `A` to `Z`, one stays a placeholder
when the other is deleted, and is covered as modified. -/
theorem deleted_placeholder_stays_in_other_case :
    ∃ applied, (withPlaceholder "É").apply (.change (.folderDeleted "é")) = (.ok (), applied) ∧
      caseKey "É" = caseKey "é" ∧
      applied.database.tables.hasPlaceholder "É" = true ∧
      (applied.placeholders.contains "É").1 = .ok true ∧
      applied.Covers (normalizeEntry "É" true) := by
  refine ⟨_, rfl, by decide +kernel, by decide +kernel, by decide +kernel, ?_⟩
  rw [Covers]
  decide +kernel

end Stores

end Enlistment
