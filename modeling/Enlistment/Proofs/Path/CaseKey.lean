import Enlistment.Path.Entry
import Enlistment.Proofs.Text.Ascii

/-!
Case keys segment by segment. A separator ends every word and is the lowercase form of nothing
else, so the segments of a case key are the lowercased segments of the entry.
-/

namespace Enlistment.Path

open Text

theorem meetsCased_append_separator (passed before : List Char) :
    meetsCased (passed ++ separator :: before) = meetsCased passed := by
  have notIgnorable : isCaseIgnorable separator = false := by decide +kernel
  have notCased : isCased separator = false := by decide +kernel
  induction passed with
  | nil => simp [meetsCased, notIgnorable, notCased]
  | cons character rest ih => simp only [List.cons_append, meetsCased, ih]

/-- What lies before a separator has no say in what comes behind it. -/
theorem lowercaseAfter_past_separator (passed before text : List Char) :
    lowercaseAfter (passed ++ separator :: before) text = lowercaseAfter passed text := by
  induction text generalizing passed with
  | nil => rfl
  | cons character rest ih =>
      simp only [lowercaseAfter, meetsCased_append_separator]
      rw [← List.cons_append, ih]

theorem lowercaseAfter_append_separator (before left right : List Char) :
    lowercaseAfter before (left ++ separator :: right) =
      lowercaseAfter before left ++ separator :: lowercaseAfter [] right := by
  induction left generalizing before with
  | nil =>
      have unchanged : lowercaseForm separator = [separator] := by decide
      have behind := lowercaseAfter_past_separator [] before right
      simp only [List.nil_append] at behind
      simp [lowercaseAfter, unchanged, behind, show separator ≠ 'Σ' by decide]
  | cons character rest ih =>
      simp only [List.cons_append, lowercaseAfter, meetsCased_append_separator, ih,
        List.append_assoc]

theorem lowercaseForm_ne_nil (character : Char) : lowercaseForm character ≠ [] := by
  unfold lowercaseForm
  split
  · simp
  · split
    · simp
    · split <;> simp

@[simp]
theorem lowercaseAfter_eq_nil_iff (before text : List Char) :
    lowercaseAfter before text = [] ↔ text = [] := by
  cases text with
  | nil => simp [lowercaseAfter]
  | cons character rest =>
      simp only [lowercaseAfter, List.append_eq_nil_iff, reduceCtorEq, iff_false, not_and]
      intro first
      split at first
      · simp at first
      · exact absurd first (lowercaseForm_ne_nil character)

theorem ne_separator_of_run {run : LowercaseRun} (listed : run ∈ lowercaseRuns) (offset : Nat) :
    Char.ofNat (run.target + offset) ≠ separator := by
  have beyond : lowercaseRuns.all (fun run => decide (separator.toNat < run.target)) = true := by
    decide +kernel
  have above : separator.toNat < run.target :=
    of_decide_eq_true (List.all_eq_true.mp beyond run listed)
  by_cases valid : (run.target + offset).isValidChar
  · rw [Char.ofNat, dif_pos valid]
    intro same
    have code : run.target + offset = separator.toNat := congrArg Char.toNat same
    omega
  · rw [Char.ofNat, dif_neg valid]
    decide

theorem toLower_ne_separator {character : Char} (different : character ≠ separator) :
    character.toLower ≠ separator := by
  rcases toLower_cases character with same | ⟨least, _, moved⟩
  · rw [same]
    exact different
  · intro same
    have slash : separator.toNat = 47 := rfl
    rw [same] at moved
    omega

theorem separator_not_mem_lowercaseForm {character : Char} (different : character ≠ separator) :
    separator ∉ lowercaseForm character := by
  unfold lowercaseForm
  split
  · simpa using (toLower_ne_separator different).symm
  · split
    · decide
    · split
      · rename_i run found
        have listed := List.mem_of_find?_eq_some found
        simpa using (ne_separator_of_run listed (character.toNat - run.first)).symm
      · simpa using different.symm

theorem separator_not_mem_lowercaseAfter (before : List Char) {text : List Char}
    (absent : separator ∉ text) : separator ∉ lowercaseAfter before text := by
  induction text generalizing before with
  | nil => simp [lowercaseAfter]
  | cons character rest ih =>
      simp only [List.mem_cons, not_or] at absent
      simp only [lowercaseAfter, List.mem_append, not_or]
      refine ⟨?_, ih _ absent.2⟩
      split
      · split <;> decide
      · exact separator_not_mem_lowercaseForm (Ne.symm absent.1)

/-! Segments, one after the other. -/

@[simp]
theorem segments_append_separator (left right : List Char) :
    segments (left ++ separator :: right) = segments left ++ segments right := by
  simp [segments, List.splitOn_append_cons_self]

theorem segments_of_absent {segment : List Char} (absent : separator ∉ segment)
    (nonempty : segment ≠ []) : segments segment = [segment] := by
  simp [segments, List.splitOn_eq_singleton absent, nonempty]

theorem not_mem_of_mem_splitOn {text part : List Char} (member : part ∈ text.splitOn separator) :
    separator ∉ part := by
  induction text generalizing part with
  | nil => simp_all
  | cons character rest ih =>
      rw [List.splitOn_cons_eq_if_modifyHead] at member
      split at member
      · rcases List.mem_cons.mp member with first | later
        · simp [first]
        · exact ih later
      · rename_i different
        obtain ⟨first, others, split⟩ := List.exists_cons_of_ne_nil
          (List.splitOn_ne_nil separator rest)
        rw [split, List.modifyHead_cons] at member
        rcases List.mem_cons.mp member with same | later
        · subst part
          have absent := ih (by rw [split]; exact List.mem_cons_self)
          simp only [List.mem_cons, not_or]
          exact ⟨fun equal => different (by simp [equal]), absent⟩
        · exact ih (by rw [split]; exact List.mem_cons_of_mem _ later)

theorem absent_of_mem_segments {text segment : List Char} (member : segment ∈ segments text) :
    separator ∉ segment := by
  exact not_mem_of_mem_splitOn (List.mem_filter.mp member).1

theorem ne_nil_of_mem_segments {text segment : List Char} (member : segment ∈ segments text) :
    segment ≠ [] := by
  simpa using (List.mem_filter.mp member).2

theorem lowercaseAfter_intercalate {parts : List (List Char)} (nonempty : parts ≠ []) :
    lowercaseAfter [] ([separator].intercalate parts) =
      [separator].intercalate (parts.map (lowercaseAfter [])) := by
  induction parts with
  | nil => contradiction
  | cons first rest ih =>
      cases rest with
      | nil => simp
      | cons second others =>
          have tail := ih (by simp)
          simp only [List.map_cons, List.intercalate_cons_cons, List.append_assoc,
            List.singleton_append] at tail ⊢
          rw [lowercaseAfter_append_separator, tail]

theorem splitOn_lowercaseAfter (text : List Char) :
    (lowercaseAfter [] text).splitOn separator =
      (text.splitOn separator).map (lowercaseAfter []) := by
  have nonempty := List.splitOn_ne_nil separator text
  have joined := lowercaseAfter_intercalate nonempty
  rw [List.intercalate_splitOn] at joined
  rw [joined]
  apply List.splitOn_intercalate
  · intro part member
    obtain ⟨source, split, same⟩ := List.mem_map.mp member
    subst part
    exact separator_not_mem_lowercaseAfter [] (not_mem_of_mem_splitOn split)
  · simp

/-- The segments of lowercased text are the lowercased segments. -/
@[simp]
theorem segments_lowercaseAfter (text : List Char) :
    segments (lowercaseAfter [] text) = (segments text).map (lowercaseAfter []) := by
  simp only [segments, splitOn_lowercaseAfter, List.filter_map]
  congr 1
  apply List.filter_congr
  intro part _
  have same : (lowercaseAfter [] part).isEmpty = part.isEmpty := by
    rw [Bool.eq_iff_iff, List.isEmpty_iff, List.isEmpty_iff, lowercaseAfter_eq_nil_iff]
  simp [same]

end Enlistment.Path
