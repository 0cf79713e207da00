import Mathlib.Data.List.Basic

/-!
Steps that may fail, one after the other. All of them succeeded, or there is a first one that failed.
-/

namespace Enlistment

theorem exists_of_bind_eq_ok {Fault Middle Result : Type} {first : Except Fault Middle}
    {later : Middle → Except Fault Result} {result : Result}
    (done : (first >>= later) = .ok result) :
    ∃ middle, first = .ok middle ∧ later middle = .ok result := by
  cases first with
  | error fault => exact absurd done nofun
  | ok middle => exact ⟨middle, rfl, done⟩

theorem mapM_eq_ok_iff {Source Target Fault : Type} {read : Source → Except Fault Target}
    {sources : List Source} {targets : List Target} :
    sources.mapM read = .ok targets ↔ sources.map read = targets.map .ok := by
  induction sources generalizing targets with
  | nil =>
      cases targets with
      | nil => simp [pure, Except.pure]
      | cons first rest => simp [pure, Except.pure]
  | cons source others ih =>
      rw [List.mapM_cons, List.map_cons]
      cases first : read source with
      | error fault =>
          cases targets <;> simp [bind, Except.bind]
      | ok target =>
          cases later : others.mapM read with
          | error fault =>
              cases targets with
              | nil => simp [bind, Except.bind]
              | cons head tail =>
                  have different := (not_congr (@ih tail)).mp (by simp [later])
                  simp [bind, Except.bind, different]
          | ok found =>
              have same := (@ih found).mp later
              cases targets with
              | nil => simp [bind, Except.bind, pure, Except.pure]
              | cons head tail =>
                  have tails := @ih tail
                  simp only [later, Except.ok.injEq] at tails
                  simp [bind, Except.bind, pure, Except.pure, tails]

/-- What cannot be read as a whole has a first part that cannot be read. -/
theorem exists_of_mapM_eq_error {Source Target Fault : Type} {read : Source → Except Fault Target}
    {sources : List Source} {fault : Fault} (failed : sources.mapM read = .error fault) :
    ∃ before source after, sources = before ++ source :: after ∧
      (∀ earlier ∈ before, ∃ target, read earlier = .ok target) ∧ read source = .error fault := by
  induction sources with
  | nil => exact absurd failed nofun
  | cons source others ih =>
      rw [List.mapM_cons] at failed
      cases first : read source with
      | error other =>
          rw [first] at failed
          obtain rfl := Except.error.inj failed
          exact ⟨[], source, others, rfl, by simp, first⟩
      | ok target =>
          cases later : others.mapM read with
          | ok found =>
              rw [first, later] at failed
              exact absurd failed nofun
          | error other =>
              rw [first, later] at failed
              obtain rfl := Except.error.inj failed
              obtain ⟨before, last, after, rfl, readable, unreadable⟩ := ih later
              refine ⟨source :: before, last, after, rfl, ?_, unreadable⟩
              rintro earlier member
              rcases List.mem_cons.mp member with rfl | inside
              · exact ⟨target, first⟩
              · exact readable earlier inside

end Enlistment
