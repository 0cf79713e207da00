import Enlistment.Proofs.Path.Ancestors
import Enlistment.Proofs.Path.DotGit

/-!
The separators of an entry and of its case key stand at the same places, so a folder entry that the
case key of another entry starts with cuts that entry at a separator. If its own separators are single
it is one of the folders above that entry. If two of them are next to each other it is above nothing,
as the folders above an entry are written with single separators.
-/

namespace Enlistment.Path

open Text

theorem folderOf_append (left right : List (List Char)) :
    folderOf (left ++ right) = folderOf left ++ folderOf right :=
  List.flatMap_append

theorem folderOf_eq_intercalate {parts : List (List Char)} (nonempty : parts ≠ []) :
    folderOf parts = [separator].intercalate parts ++ [separator] := by
  induction parts with
  | nil => contradiction
  | cons first rest ih =>
      cases rest with
      | nil => simp [folderOf]
      | cons second others =>
          have unfolded : folderOf (first :: second :: others) =
              first ++ [separator] ++ folderOf (second :: others) := by
            simp [folderOf]
          rw [unfolded, ih (by simp), List.intercalate_cons_cons, List.append_assoc _ _ [separator]]

theorem folderOf_splitOn (text : List Char) :
    folderOf (text.splitOn separator) = text ++ [separator] := by
  rw [folderOf_eq_intercalate (List.splitOn_ne_nil separator text), List.intercalate_splitOn]

theorem splitOn_folderOf {parts : List (List Char)} (absent : ∀ part ∈ parts, separator ∉ part) :
    (folderOf parts).splitOn separator = parts ++ [[]] := by
  induction parts with
  | nil => rfl
  | cons first rest ih =>
      have tail := ih fun part member => absent part (List.mem_cons_of_mem _ member)
      have unfolded : folderOf (first :: rest) = first ++ separator :: folderOf rest := by
        simp [folderOf]
      rw [unfolded, List.splitOn_append_cons_self, tail,
        List.splitOn_eq_singleton (absent first List.mem_cons_self)]
      rfl

theorem intercalate_append {left right : List (List Char)} (leftParts : left ≠ [])
    (rightParts : right ≠ []) :
    [separator].intercalate (left ++ right) =
      [separator].intercalate left ++ separator :: [separator].intercalate right := by
  have whole := folderOf_append left right
  rw [folderOf_eq_intercalate leftParts, folderOf_eq_intercalate rightParts,
    folderOf_eq_intercalate (by simp [leftParts]), ← List.append_assoc] at whole
  rw [List.append_cancel_right whole, List.append_assoc, List.singleton_append]

/-- A separator of lowercased text was one before. -/
theorem exists_of_lowercaseAfter_eq {text left right : List Char}
    (lowered : lowercaseAfter [] text = left ++ separator :: right) :
    ∃ front behind, text = front ++ separator :: behind ∧
      lowercaseAfter [] front = left ∧ lowercaseAfter [] behind = right := by
  have parts := splitOn_lowercaseAfter text
  rw [lowered, List.splitOn_append_cons_self] at parts
  obtain ⟨before, after, whole, beforeSame, afterSame⟩ := List.map_eq_append_iff.mp parts.symm
  have filled : ∀ {pieces : List (List Char)} {source : List Char},
      pieces.map (lowercaseAfter []) = source.splitOn separator → pieces ≠ [] := by
    rintro _ source same rfl
    exact List.splitOn_ne_nil separator source same.symm
  have joined : ∀ {pieces : List (List Char)} {source : List Char},
      pieces.map (lowercaseAfter []) = source.splitOn separator →
        lowercaseAfter [] ([separator].intercalate pieces) = source := by
    intro pieces source same
    rw [lowercaseAfter_intercalate (filled same), same, List.intercalate_splitOn]
  refine ⟨[separator].intercalate before, [separator].intercalate after, ?_,
    joined beforeSame, joined afterSame⟩
  rw [← intercalate_append (filled beforeSame) (filled afterSame), ← whole,
    List.intercalate_splitOn]

theorem segments_eq_nil_iff (text : List Char) :
    segments text = [] ↔ ∀ character ∈ text, character = separator := by
  constructor
  · intro none character member
    have listed : character ∈ folderOf (text.splitOn separator) := by
      rw [folderOf_splitOn]
      exact List.mem_append_left _ member
    obtain ⟨part, split, within⟩ := List.mem_flatMap.mp listed
    have empty : part = [] := by
      simpa using List.filter_eq_nil_iff.mp none part split
    simpa [empty] using within
  · intro separators
    have blank := segments_blank_append separators []
    rwa [List.append_nil] at blank

theorem doubled_suffix_of_blank {blank : List Char}
    (separators : ∀ character ∈ blank, character = separator) (nonempty : blank ≠ []) :
    [separator, separator] <:+ separator :: blank := by
  obtain ⟨first, rest, rfl⟩ := List.exists_cons_of_ne_nil nonempty
  have copies : separator :: first :: rest = List.replicate (rest.length + 2) separator := by
    refine List.eq_replicate_iff.mpr ⟨rfl, ?_⟩
    intro character member
    rcases List.mem_cons.mp member with same | later
    · exact same
    · exact separators character later
  rw [copies, List.replicate_add]
  exact List.suffix_append _ _

/-! Trimmed paths. -/

theorem getLast?_trimSeparators (path : List Char) :
    (trimSeparators path).getLast? ≠ some separator := by
  rw [trimSeparators, List.getLast?_reverse]
  intro last
  have stopped := List.head?_dropWhile_not (· == separator)
    (path.dropWhile (· == separator)).reverse
  rw [last] at stopped
  simp at stopped

theorem head?_trimSeparators (path : List Char) :
    (trimSeparators path).head? ≠ some separator := by
  intro first
  obtain ⟨behind, whole⟩ : trimSeparators path <+: path.dropWhile (· == separator) := by
    rw [trimSeparators, ← List.reverse_suffix, List.reverse_reverse]
    exact List.dropWhile_suffix _
  have stopped := List.head?_dropWhile_not (· == separator) path
  rw [← whole, List.head?_append, first] at stopped
  simp at stopped

theorem segments_normalizeEntry_eq (path : String) (isFolder : Bool) :
    segments (normalizeEntry path isFolder).toList = segments (trimSeparators path.toList) := by
  rw [segments_normalizeEntry, segments_trimSeparators]

theorem toList_normalizeEntry_folder (path : String) :
    (normalizeEntry path true).toList = trimSeparators path.toList ++ [separator] := by
  simp [normalizeEntry]

theorem toList_normalizeEntry_file (path : String) :
    (normalizeEntry path false).toList = trimSeparators path.toList := by
  simp [normalizeEntry]

/-- An entry has no more than one separator at its end. -/
theorem not_suffix_normalizeEntry (path : String) (isFolder : Bool) :
    ¬ [separator, separator] <:+ (normalizeEntry path isFolder).toList := by
  rintro ⟨front, whole⟩
  cases isFolder with
  | false =>
      rw [toList_normalizeEntry_file] at whole
      apply getLast?_trimSeparators path.toList
      rw [← whole]
      simp
  | true =>
      have regrouped : (front ++ [separator]) ++ [separator] =
          trimSeparators path.toList ++ [separator] := by
        rw [← toList_normalizeEntry_folder, ← whole]
        simp
      apply getLast?_trimSeparators path.toList
      rw [← List.append_cancel_right regrouped]
      simp

/-! Doubled separators. -/

def HasDoubledSeparator (entry : String) : Prop :=
  [separator, separator] <:+: entry.toList

instance (entry : String) : Decidable (HasDoubledSeparator entry) :=
  inferInstanceAs (Decidable ([separator, separator] <:+: entry.toList))

theorem hasDoubledSeparator_iff (entry : String) :
    HasDoubledSeparator entry ↔
      ∃ front behind, entry.toList = front ++ separator :: separator :: behind := by
  constructor
  · rintro ⟨front, behind, whole⟩
    exact ⟨front, behind, by simp [← whole]⟩
  · rintro ⟨front, behind, whole⟩
    exact ⟨front, behind, by simp [whole]⟩

theorem hasDoubledSeparator_caseKey (entry : String) :
    HasDoubledSeparator (caseKey entry) ↔ HasDoubledSeparator entry := by
  rw [hasDoubledSeparator_iff, hasDoubledSeparator_iff, toList_caseKey]
  constructor
  · rintro ⟨left, right, lowered⟩
    obtain ⟨front, behind, whole, _, rest⟩ := exists_of_lowercaseAfter_eq lowered
    rw [← List.nil_append (separator :: right)] at rest
    obtain ⟨between, last, split, none, _⟩ := exists_of_lowercaseAfter_eq rest
    rw [lowercaseAfter_eq_nil_iff] at none
    exact ⟨front, last, by rw [whole, split, none, List.nil_append]⟩
  · rintro ⟨front, behind, whole⟩
    have next := lowercaseAfter_append_separator [] [] behind
    rw [List.nil_append] at next
    refine ⟨lowercaseAfter [] front, lowercaseAfter [] behind, ?_⟩
    rw [whole, lowercaseAfter_append_separator, next]
    rfl

theorem not_hasDoubledSeparator_folderOf {parts : List (List Char)}
    (absent : ∀ part ∈ parts, separator ∉ part) (nonempty : ∀ part ∈ parts, part ≠ []) :
    ¬ HasDoubledSeparator (String.ofList (folderOf parts)) := by
  rw [hasDoubledSeparator_iff, String.toList_ofList]
  rintro ⟨front, behind, whole⟩
  have split := splitOn_folderOf absent
  have between : (separator :: behind).splitOn separator = [[]] ++ behind.splitOn separator :=
    List.splitOn_append_cons_self [] behind
  rw [whole, List.splitOn_append_cons_self, between] at split
  obtain ⟨others, last, ends⟩ : ∃ others last, behind.splitOn separator = others ++ [last] := by
    rcases List.eq_nil_or_concat (behind.splitOn separator) with none | ⟨others, last, ends⟩
    · exact absurd none (List.splitOn_ne_nil separator behind)
    · exact ⟨others, last, by rw [ends, List.concat_eq_append]⟩
  have member : [] ∈ parts := by
    rw [ends, ← List.append_assoc, ← List.append_assoc] at split
    rw [← (List.append_inj' split rfl).1]
    simp
  exact nonempty [] member rfl

theorem not_hasDoubledSeparator_of_mem_ancestorFolders {folder entry : String}
    (above : folder ∈ ancestorFolders entry) : ¬ HasDoubledSeparator folder := by
  obtain ⟨count, _, _, rfl⟩ := (mem_ancestorFolders_iff folder entry).mp above
  apply not_hasDoubledSeparator_folderOf
  · exact fun part member => absent_of_mem_segments (List.mem_of_mem_take member)
  · exact fun part member => ne_nil_of_mem_segments (List.mem_of_mem_take member)

/-- A folder entry that is written with single separators is made of its segments. -/
theorem folderOf_segments {folder : String}
    (named : segments (normalizeEntry folder true).toList ≠ [])
    (single : ¬ HasDoubledSeparator (normalizeEntry folder true)) :
    folderOf (segments (normalizeEntry folder true).toList) =
      (normalizeEntry folder true).toList := by
  rw [hasDoubledSeparator_iff, toList_normalizeEntry_folder, ← folderOf_splitOn] at single
  have nonempty : ∀ part ∈ (trimSeparators folder.toList).splitOn separator, part ≠ [] := by
    rintro part member rfl
    obtain ⟨before, after, parts⟩ := List.append_of_mem member
    rw [parts] at single
    rcases List.eq_nil_or_concat before with rfl | ⟨others, last, rfl⟩
    · -- The text would start with a separator, so there would be nothing before it.
      have whole := folderOf_splitOn (trimSeparators folder.toList)
      rw [parts] at whole
      cases text : trimSeparators folder.toList with
      | nil =>
          rw [segments_normalizeEntry_eq, text] at named
          exact named rfl
      | cons first rest =>
          rw [text] at whole
          have start : first = separator := (List.cons.inj whole).1.symm
          exact head?_trimSeparators folder.toList (by rw [text, start]; rfl)
    · refine single ⟨folderOf others ++ last, folderOf after, ?_⟩
      simp [folderOf]
  have parts := segments_folderOf (fun part => not_mem_of_mem_splitOn) nonempty
  rw [toList_normalizeEntry_folder, ← folderOf_splitOn, parts]

/-- A folder entry with a name and with single separators, where the case key of another entry
starts with its own and goes on, is one of the folders above that entry. -/
theorem exists_ancestor_of_caseKey_prefix {folder path : String} {isFolder : Bool}
    (named : segments (normalizeEntry folder true).toList ≠ [])
    (single : ¬ HasDoubledSeparator (normalizeEntry folder true))
    (starts : (caseKey (normalizeEntry folder true)).toList <+:
      (caseKey (normalizeEntry path isFolder)).toList)
    (different : caseKey (normalizeEntry folder true) ≠ caseKey (normalizeEntry path isFolder)) :
    ∃ above ∈ ancestorFolders (normalizeEntry path isFolder),
      caseKey above = caseKey (normalizeEntry folder true) := by
  have trimmed := segments_normalizeEntry_eq folder true
  have folderKey : (caseKey (normalizeEntry folder true)).toList =
      lowercaseAfter [] (trimSeparators folder.toList) ++ [separator] := by
    rw [toList_caseKey, toList_normalizeEntry_folder, lowercaseAfter_append_separator]
    rfl
  obtain ⟨right, whole⟩ := starts
  have more : right ≠ [] := by
    rintro rfl
    rw [List.append_nil] at whole
    exact different (String.toList_injective whole)
  rw [folderKey, toList_caseKey, List.append_assoc, List.singleton_append] at whole
  obtain ⟨front, behind, cut, frontKey, behindKey⟩ := exists_of_lowercaseAfter_eq whole.symm
  have frontSegments : (segments front).map (lowercaseAfter []) =
      (segments (trimSeparators folder.toList)).map (lowercaseAfter []) := by
    rw [← segments_lowercaseAfter, frontKey, segments_lowercaseAfter]
  -- What is left behind the folder is a name, as an entry does not end in two separators.
  have rest : segments behind ≠ [] := by
    intro none
    have blank := (segments_eq_nil_iff behind).mp none
    have nonempty : behind ≠ [] := by
      rintro rfl
      exact more behindKey.symm
    apply not_suffix_normalizeEntry path isFolder
    rw [cut]
    exact (doubled_suffix_of_blank blank nonempty).trans (List.suffix_append _ _)
  have parts : segments (normalizeEntry path isFolder).toList =
      segments front ++ segments behind := by
    rw [cut, segments_append_separator]
  refine ⟨String.ofList (folderOf (segments front)), ?_, ?_⟩
  · refine (mem_ancestorFolders_iff _ _).mpr ⟨(segments front).length, ?_, ?_, ?_⟩
    · have same := congrArg List.length frontSegments
      rw [List.length_map, List.length_map, ← trimmed] at same
      rw [same]
      exact List.length_pos_iff.mpr named
    · rw [depth, parts, List.length_append]
      exact Nat.lt_add_of_pos_right (List.length_pos_iff.mpr rest)
    · rw [parts, List.take_left]
  · apply String.toList_injective
    rw [toList_caseKey, toList_caseKey, String.toList_ofList, lowercaseAfter_folderOf,
      frontSegments, ← lowercaseAfter_folderOf, ← trimmed, folderOf_segments named single]

end Enlistment.Path
