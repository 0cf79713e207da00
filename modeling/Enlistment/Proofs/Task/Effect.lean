import Enlistment.Proofs.Task.Steps

/-!
What tasks make of the rows, whatever is kept in memory. A step that was done is settled: done again
it changes nothing, and the later steps of its task leave it settled. So a task that a crash cut
short ends, when it is done anew, where it would have ended.
-/

namespace Enlistment

open Enlistment.Path

structure Contents where
  placeholders : List PlaceholderRow
  modifiedPaths : List String

namespace Tables

def contents (tables : Tables) : Contents :=
  ⟨tables.placeholders, tables.modifiedPaths⟩

def withContents (contents : Contents) (tables : Tables) : Tables :=
  { tables with
    placeholders := contents.placeholders
    modifiedPaths := contents.modifiedPaths }

end Tables

namespace Contents

def covers (entry : String) (contents : Contents) : Bool :=
  (ModifiedPaths.ofEntries contents.modifiedPaths).covers entry

def seeded (contents : Contents) : Contents :=
  if contents.modifiedPaths.isEmpty then { contents with modifiedPaths := [gitAttributes] }
  else contents

def record (entry : String) (contents : Contents) : Contents :=
  if contents.covers entry then contents
  else { contents with modifiedPaths := Rows.put id entry contents.modifiedPaths }

end Contents

namespace StoreStep

def effect : StoreStep → Contents → Contents
  | .addModifiedPath path isFolder, contents => contents.record (normalizeEntry path isFolder)
  | .removePlaceholder path, contents =>
      { contents with
        placeholders :=
          contents.placeholders.filter fun stored => stored.key ≠ PlaceholderKey.ofPath path }
  | .addPlaceholder record, contents =>
      { contents with
        placeholders := Rows.put PlaceholderRow.key (.ofRecord record) contents.placeholders }

def effects (steps : List StoreStep) (contents : Contents) : Contents :=
  steps.foldl (fun contents step => step.effect contents) contents

def addsPlaceholder : StoreStep → Bool
  | .addPlaceholder _ => true
  | _ => false

def Settled (step : StoreStep) (contents : Contents) : Prop :=
  step.effect contents = contents

end StoreStep

def Task.effect (task : Task) (contents : Contents) : Contents :=
  StoreStep.effects task.steps contents

namespace Contents

theorem covers_of_mem {entry : String} {contents : Contents}
    (listed : entry ∈ contents.modifiedPaths) : contents.covers entry = true := by
  exact ModifiedPathsStore.covers_loaded listed

@[simp]
theorem covers_record_self (entry : String) (contents : Contents) :
    (contents.record entry).covers entry = true := by
  unfold record
  split
  · assumption
  · exact covers_of_mem (by simp)

theorem covers_record {entry : String} {contents : Contents}
    (covered : contents.covers entry = true) (other : String) :
    (contents.record other).covers entry = true := by
  unfold record
  split
  · exact covered
  · refine ModifiedPaths.covers_mono (fun key found => ?_) covered
    obtain ⟨stored, listed, same⟩ := (ModifiedPaths.hasKey_ofEntries _ _).mp found
    exact (ModifiedPaths.hasKey_ofEntries _ _).mpr
      ⟨stored, by simp [listed], same⟩

theorem record_ne_nil {contents : Contents} (nonempty : contents.modifiedPaths ≠ [])
    (entry : String) : (contents.record entry).modifiedPaths ≠ [] := by
  unfold record
  split
  · exact nonempty
  · exact List.ne_nil_of_mem (a := entry) (by simp)

theorem seeded_of_nonempty {contents : Contents} (nonempty : contents.modifiedPaths ≠ []) :
    contents.seeded = contents := by
  simp [seeded, nonempty]

theorem seeded_ne_nil (contents : Contents) : contents.seeded.modifiedPaths ≠ [] := by
  unfold seeded
  split
  · simp
  · rename_i nonempty
    simpa using nonempty

@[simp]
theorem seeded_seeded (contents : Contents) : contents.seeded.seeded = contents.seeded := by
  exact seeded_of_nonempty contents.seeded_ne_nil

end Contents

namespace StoreStep

theorem settled_addModifiedPath_iff {path : String} {isFolder : Bool} {contents : Contents} :
    (addModifiedPath path isFolder).Settled contents ↔
      contents.covers (normalizeEntry path isFolder) = true := by
  constructor
  · intro settled
    have covered := contents.covers_record_self (normalizeEntry path isFolder)
    rw [show contents.record (normalizeEntry path isFolder) = contents from settled] at covered
    exact covered
  · exact fun covered => if_pos covered

theorem settled_effect (step : StoreStep) (contents : Contents) :
    step.Settled (step.effect contents) := by
  cases step with
  | addModifiedPath path isFolder =>
      exact settled_addModifiedPath_iff.mpr (by simp [effect])
  | removePlaceholder path => simp [Settled, effect]
  | addPlaceholder record =>
      simp only [Settled, effect, Rows.put_put PlaceholderKey.lt_irrefl]

/-- Of the steps of changes, those that are settled stay so. -/
theorem Settled.effect {step other : StoreStep} {contents : Contents}
    (settled : step.Settled contents) (changes : step.addsPlaceholder = false)
    (otherChanges : other.addsPlaceholder = false) : step.Settled (other.effect contents) := by
  cases step with
  | addModifiedPath path isFolder =>
      rw [settled_addModifiedPath_iff] at settled ⊢
      cases other with
      | addModifiedPath otherPath otherIsFolder => exact Contents.covers_record settled _
      | removePlaceholder otherPath => exact settled
      | addPlaceholder record => exact absurd otherChanges (by simp [addsPlaceholder])
  | removePlaceholder path =>
      have absent := congrArg Contents.placeholders settled
      cases other with
      | addModifiedPath otherPath otherIsFolder =>
          simp only [Settled, StoreStep.effect, Contents.record] at absent ⊢
          split <;> simp only [absent]
      | removePlaceholder otherPath =>
          have swapped : (contents.placeholders.filter fun stored =>
                stored.key ≠ PlaceholderKey.ofPath otherPath).filter (fun stored =>
                stored.key ≠ PlaceholderKey.ofPath path) =
              (contents.placeholders.filter fun stored =>
                stored.key ≠ PlaceholderKey.ofPath path).filter fun stored =>
                stored.key ≠ PlaceholderKey.ofPath otherPath := by
            rw [List.filter_filter, List.filter_filter]
            exact List.filter_congr fun row _ => Bool.and_comm _ _
          simp only [Settled, StoreStep.effect] at absent ⊢
          rw [swapped, absent]
      | addPlaceholder record => exact absurd otherChanges (by simp [addsPlaceholder])
  | addPlaceholder record => exact absurd changes (by simp [addsPlaceholder])

theorem effects_of_settled {steps : List StoreStep} {contents : Contents}
    (settled : ∀ step ∈ steps, step.Settled contents) : effects steps contents = contents := by
  induction steps with
  | nil => rfl
  | cons step rest ih =>
      have first : step.effect contents = contents := settled step List.mem_cons_self
      rw [effects, List.foldl_cons, first]
      exact ih fun later member => settled later (List.mem_cons_of_mem _ member)

theorem effect_ne_nil (step : StoreStep) {contents : Contents}
    (nonempty : contents.modifiedPaths ≠ []) : (step.effect contents).modifiedPaths ≠ [] := by
  cases step with
  | addModifiedPath path isFolder => exact contents.record_ne_nil nonempty _
  | removePlaceholder path => exact nonempty
  | addPlaceholder record => exact nonempty

end StoreStep

namespace Task

/-- A task adds a placeholder and nothing else, or adds none. -/
theorem steps_cases (task : Task) :
    (∃ record, task.steps = [.addPlaceholder record]) ∨
    ∀ step ∈ task.steps, step.addsPlaceholder = false := by
  cases task with
  | placeholderCreated record => exact .inl ⟨record, rfl⟩
  | change changed =>
      have none : changed.steps.all (!·.addsPlaceholder) = true := by
        cases changed <;> rfl
      exact .inr fun step member => by simpa using List.all_eq_true.mp none step member

theorem settled_next {task : Task} {done rest : List StoreStep} {step : StoreStep}
    {contents : Contents} (parts : task.steps = done ++ step :: rest)
    (settled : ∀ earlier ∈ done, earlier.Settled contents) :
    ∀ earlier ∈ done ++ [step], earlier.Settled (step.effect contents) := by
  intro earlier member
  rcases List.mem_append.mp member with before | last
  · rcases task.steps_cases with ⟨record, single⟩ | changes
    · have nothing : done = [] := by
        have length := congrArg List.length (single.symm.trans parts)
        rw [List.length_append] at length
        exact List.eq_nil_of_length_eq_zero (by simp at length; omega)
      rw [nothing] at before
      exact absurd before (by simp)
    · exact (settled earlier before).effect
        (changes earlier (by simp [parts, before])) (changes step (by simp [parts]))
  · rw [List.mem_singleton.mp last]
    exact step.settled_effect contents

/-- Where the first steps are settled, the others make up the task. -/
theorem effect_of_settled {task : Task} {done rest : List StoreStep} {contents : Contents}
    (parts : task.steps = done ++ rest) (settled : ∀ earlier ∈ done, earlier.Settled contents) :
    task.effect contents = StoreStep.effects rest contents := by
  have nothing := StoreStep.effects_of_settled settled
  rw [effect, parts, StoreStep.effects, List.foldl_append]
  exact congrArg (StoreStep.effects rest) nothing

theorem effect_next {task : Task} {done rest : List StoreStep} {step : StoreStep}
    {contents : Contents} (parts : task.steps = done ++ step :: rest)
    (settled : ∀ earlier ∈ done, earlier.Settled contents) :
    task.effect (step.effect contents) = task.effect contents := by
  have regrouped : task.steps = (done ++ [step]) ++ rest := by simp [parts]
  rw [effect_of_settled regrouped (settled_next parts settled), effect_of_settled parts settled]
  rfl

end Task

namespace Stores

structure Live (stores : Stores) : Prop where
  isOpen : stores.database.isShutDown = false
  tracked : stores.database.tables.modifiedPaths ≠ []
  sameKeys : ∀ key, stores.paths.hasKey key = true ↔
    ∃ entry ∈ stores.database.tables.modifiedPaths, caseKey entry = key

theorem Live.covers_eq {stores : Stores} (live : stores.Live) (entry : String) :
    stores.paths.covers entry = stores.database.tables.contents.covers entry := by
  apply ModifiedPaths.covers_congr
  intro key
  rw [live.sameKeys, ModifiedPaths.hasKey_ofEntries]
  rfl

/-- On an open store every step succeeds and has its effect on the rows. -/
theorem Live.applyStep {stores : Stores} (live : stores.Live) (step : StoreStep) :
    (stores.applyStep step).1 = .ok () ∧ (stores.applyStep step).2.Live ∧
      (stores.applyStep step).2.database.tables =
        stores.database.tables.withContents (step.effect stores.database.tables.contents) := by
  have stillOpen : stores.database.pool.used.isShutDown = false :=
    (Pool.isShutDown_used _).trans live.isOpen
  cases step with
  | addModifiedPath path isFolder =>
      have covers := live.covers_eq (normalizeEntry path isFolder)
      rw [applyStep_addModifiedPath]
      rcases stores.modifiedPaths.addEntry_cases (normalizeEntry path isFolder) with
        ⟨covered, same⟩ | ⟨absent, _, added⟩ | ⟨_, closed, _⟩
      · rw [same]
        refine ⟨rfl, live, ?_⟩
        rw [StoreStep.effect, Contents.record, if_pos (covers.symm.trans covered)]
        rfl
      · rw [added]
        have missing : stores.database.tables.contents.covers
            (normalizeEntry path isFolder) = false := covers.symm.trans absent
        refine ⟨rfl, ⟨stillOpen, ?_, ?_⟩, ?_⟩
        · exact List.ne_nil_of_mem ((Rows.mem_put_id _ _ _).mpr (.inl rfl))
        · intro key
          have rows : (∃ entry ∈ Rows.put id (normalizeEntry path isFolder)
                stores.database.tables.modifiedPaths, caseKey entry = key) ↔
              caseKey (normalizeEntry path isFolder) = key ∨
                ∃ entry ∈ stores.database.tables.modifiedPaths, caseKey entry = key := by
            simp only [Rows.mem_put_id, exists_eq_or_imp]
          exact (ModifiedPaths.hasKey_put _ _ _).trans
            ((or_congr eq_comm (live.sameKeys key)).trans rows.symm)
        · rw [StoreStep.effect, Contents.record, missing]
          rfl
      · exact absurd (live.isOpen.symm.trans closed) (by simp)
  | removePlaceholder path =>
      rw [applyStep_removePlaceholder live.isOpen]
      exact ⟨rfl, ⟨stillOpen, live.tracked, live.sameKeys⟩, rfl⟩
  | addPlaceholder record =>
      rw [applyStep_addPlaceholder live.isOpen]
      exact ⟨rfl, ⟨stillOpen, live.tracked, live.sameKeys⟩, rfl⟩

end Stores

end Enlistment
