import Enlistment.Proofs.Path.CaseKey
import Mathlib.Data.List.DropRight

/-!
What lies inside `.git`. Separators at either end of a path change none of its names, so an entry
lies inside `.git` exactly when the path does that it was made of. The first characters of a path
tell whether it does, unless a separator comes first.
-/

namespace Enlistment.Path

def liesInDotGit (path : String) : Bool :=
  match segments path.toList with
  | first :: _ :: _ => first.map Char.toLower == ".git".toList
  | _ => false

def StartsWithSeparator (path : String) : Prop :=
  path.toList.head? = some separator

theorem liesInDotGit_iff (path : String) :
    liesInDotGit path = true ↔ ∃ first second rest,
      segments path.toList = first :: second :: rest ∧ first.map Char.toLower = ".git".toList := by
  unfold liesInDotGit
  constructor
  · intro inside
    split at inside
    · rename_i first second rest names
      exact ⟨first, second, rest, names, by simpa using inside⟩
    · exact absurd inside (by simp)
  · rintro ⟨first, second, rest, names, dotGit⟩
    rw [names]
    simpa using dotGit

section Separators

variable {blank : List Char} (separators : ∀ character ∈ blank, character = separator)

include separators

@[simp]
theorem segments_blank_append (text : List Char) : segments (blank ++ text) = segments text := by
  induction blank with
  | nil => rfl
  | cons first rest ih =>
      rw [separators first List.mem_cons_self, List.cons_append]
      have others := ih fun character member => separators character (List.mem_cons_of_mem _ member)
      exact (segments_append_separator [] (rest ++ text)).trans others

@[simp]
theorem segments_append_blank (text : List Char) : segments (text ++ blank) = segments text := by
  cases blank with
  | nil => rw [List.append_nil]
  | cons first rest =>
      have others := segments_blank_append
        (fun character member => separators character (List.mem_cons_of_mem first member)) []
      rw [List.append_nil] at others
      rw [separators first List.mem_cons_self, segments_append_separator, others]
      exact List.append_nil _

end Separators

@[simp]
theorem segments_trimSeparators (path : List Char) :
    segments (trimSeparators path) = segments path := by
  have isSeparator : ∀ text : List Char, ∀ character ∈ text.takeWhile (· == separator),
      character = separator := by
    intro text character member
    simpa using List.mem_takeWhile_imp member
  have front : segments (path.dropWhile (· == separator)) = segments path := by
    conv => rhs; rw [← List.takeWhile_append_dropWhile (p := (· == separator)) (l := path)]
    exact (segments_blank_append (isSeparator path) _).symm
  rw [← front, trimSeparators]
  have whole := List.takeWhile_append_dropWhile (p := (· == separator))
    (l := (path.dropWhile (· == separator)).reverse)
  have behind := congrArg List.reverse whole
  rw [List.reverse_append, List.reverse_reverse] at behind
  conv => rhs; rw [← behind]
  refine (segments_append_blank ?_ _).symm
  exact fun character member => isSeparator _ character (List.mem_reverse.mp member)

@[simp]
theorem segments_normalizeEntry (path : String) (isFolder : Bool) :
    segments (normalizeEntry path isFolder).toList = segments path.toList := by
  rw [normalizeEntry, String.toList_ofList]
  cases isFolder with
  | false => simp
  | true =>
      refine (segments_append_blank ?_ _).trans (segments_trimSeparators path.toList)
      exact fun character member => List.mem_singleton.mp member

/-- An entry lies where its path lies. -/
@[simp]
theorem liesInDotGit_normalizeEntry (path : String) (isFolder : Bool) :
    liesInDotGit (normalizeEntry path isFolder) = liesInDotGit path := by
  simp [liesInDotGit]

/-- Of several names the first ends at the first separator, unless the text starts with one. -/
theorem eq_append_of_segments {text first second : List Char} {rest : List (List Char)}
    (named : text.head? ≠ some separator) (names : segments text = first :: second :: rest) :
    ∃ behind, text = first ++ separator :: behind := by
  have whole := List.takeWhile_append_dropWhile (p := (· != separator)) (l := text)
  have absent : separator ∉ text.takeWhile (· != separator) := by
    intro member
    simpa using List.mem_takeWhile_imp member
  cases later : text.dropWhile (· != separator) with
  | nil =>
      rw [later, List.append_nil] at whole
      rw [whole] at absent
      by_cases empty : text = []
      · rw [empty] at names
        exact absurd names (by simp [segments])
      · rw [segments_of_absent absent empty] at names
        exact absurd names (by simp)
  | cons next behind =>
      have stopped : next = separator := by
        have last := List.head?_dropWhile_not (· != separator) text
        rw [later] at last
        simpa using last
      rw [later, stopped] at whole
      have nonempty : text.takeWhile (· != separator) ≠ [] := by
        intro empty
        rw [empty, List.nil_append] at whole
        exact named (by rw [← whole]; rfl)
      rw [← whole, segments_append_separator, segments_of_absent absent nonempty] at names
      exact ⟨behind, (List.cons.inj names).1 ▸ whole.symm⟩

/-- What lies inside `.git` is told by its first characters, unless the first is a separator. -/
theorem isInsideDotGit_of_liesInDotGit {path : String} (named : ¬ StartsWithSeparator path)
    (inside : liesInDotGit path = true) : isInsideDotGit path = true := by
  obtain ⟨first, second, rest, names, dotGit⟩ := (liesInDotGit_iff path).mp inside
  obtain ⟨behind, whole⟩ := eq_append_of_segments named names
  have four : first.length = 4 := by
    rw [← List.length_map (f := Char.toLower), dotGit]
    rfl
  obtain ⟨a, b, c, d, rfl⟩ := List.length_eq_four.mp four
  unfold isInsideDotGit
  rw [whole]
  simp only [List.cons_append, List.nil_append, Bool.and_eq_true, beq_iff_eq, and_true]
  exact dotGit

end Enlistment.Path
