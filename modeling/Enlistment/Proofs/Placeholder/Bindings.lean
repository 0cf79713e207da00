import Enlistment.Proofs.Placeholder.Key
import Enlistment.Proofs.Task.Rows
import Mathlib.Data.Finmap

/-!
The table of placeholders as a finite map. A row binds its path, in lowercase, to the record that is
read from it; to put a row is to bind its path anew, and to delete one is to free it. This takes
that the table tells the paths apart.
-/

namespace Enlistment

open Enlistment.Text (asciiLowercase)

abbrev PlaceholderMap := Finmap fun _ : String => PlaceholderRecord

namespace PlaceholderMap

def ofRecords (records : List PlaceholderRecord) : PlaceholderMap :=
  (records.map fun record => ⟨asciiLowercase record.path, record⟩).toFinmap

def records (bindings : PlaceholderMap) : Multiset PlaceholderRecord :=
  bindings.entries.map (·.2)

theorem mem_records (bindings : PlaceholderMap) (record : PlaceholderRecord) :
    record ∈ bindings.records ↔ ∃ key, bindings.lookup key = some record := by
  simp only [records, Multiset.mem_map]
  constructor
  · rintro ⟨⟨key, bound⟩, member, rfl⟩
    exact ⟨key, Finmap.lookup_eq_some_iff.mpr member⟩
  · rintro ⟨key, found⟩
    exact ⟨⟨key, record⟩, Finmap.lookup_eq_some_iff.mp found, rfl⟩

@[simp]
theorem card_records (bindings : PlaceholderMap) : bindings.records.card = bindings.keys.card := by
  rw [records, Multiset.card_map, Finmap.keys, Finset.card_mk, Multiset.keys, Multiset.card_map]

end PlaceholderMap

theorem PathType.code_injective {left right : PathType} (same : left.code = right.code) :
    left = right := by
  have found := ofCode?_code left
  rw [same, ofCode?_code] at found
  exact (Option.some.inj found).symm

theorem PlaceholderKind.pathType_of_ofColumns {pathType : PathType} {sha : Option String}
    {kind : PlaceholderKind} (read : ofColumns pathType sha = .ok kind) :
    kind.pathType = pathType := by
  cases pathType with
  | file =>
      cases sha with
      | none => simp [ofColumns] at read
      | some text =>
          simp only [ofColumns] at read
          split at read
          · rw [← Except.ok.inj read]
            rfl
          · simp at read
  | partialFolder => rw [← Except.ok.inj read]; rfl
  | expandedFolder => rw [← Except.ok.inj read]; rfl
  | possibleTombstoneFolder => rw [← Except.ok.inj read]; rfl

namespace PlaceholderRow

@[simp]
theorem toRecord_ofRecord (record : PlaceholderRecord) : (ofRecord record).toRecord = .ok record := by
  simp [toRecord, ofRecord, PlaceholderRecord.sha?]

theorem columns_of_toRecord {row : PlaceholderRow} {record : PlaceholderRecord}
    (read : row.toRecord = .ok record) :
    record.path = row.path ∧ record.kind.pathType.code = row.pathType := by
  unfold toRecord at read
  split at read
  · simp at read
  · rename_i pathType known
    split at read
    · rename_i kind columns
      obtain rfl := Except.ok.inj read
      have code := List.find?_some known
      rw [PlaceholderKind.pathType_of_ofColumns columns]
      exact ⟨rfl, by simpa using code⟩
    · simp at read

theorem isFile_iff {row : PlaceholderRow} {record : PlaceholderRecord}
    (read : row.toRecord = .ok record) :
    row.pathType = PathType.file.code ↔ record.isFolder = false := by
  rw [← (columns_of_toRecord read).2, PlaceholderRecord.isFolder, PlaceholderKind.isFolder,
    PathType.isFolder, bne_eq_false_iff_eq]
  constructor
  · exact PathType.code_injective
  · intro file
    rw [file]

theorem exists_records {rows : List PlaceholderRow}
    (decodes : ∀ row ∈ rows, ∃ record, row.toRecord = .ok record) :
    ∃ records : List PlaceholderRecord, rows.map toRecord = records.map .ok := by
  induction rows with
  | nil => exact ⟨[], rfl⟩
  | cons first rest ih =>
      obtain ⟨record, read⟩ := decodes first List.mem_cons_self
      obtain ⟨records, later⟩ := ih fun row member => decodes row (List.mem_cons_of_mem _ member)
      exact ⟨record :: records, by simp [read, later]⟩

section Read

variable {rows : List PlaceholderRow} {records : List PlaceholderRecord}

theorem mem_records (read : rows.map toRecord = records.map .ok) (record : PlaceholderRecord) :
    record ∈ records ↔ ∃ row ∈ rows, row.toRecord = .ok record := by
  rw [← List.mem_map, read]
  simp

theorem paths_of_records (read : rows.map toRecord = records.map .ok) :
    records.map (·.path) = rows.map (·.path) := by
  induction rows generalizing records with
  | nil =>
      cases records with
      | nil => rfl
      | cons _ _ => simp at read
  | cons first rest ih =>
      cases records with
      | nil => simp at read
      | cons record others =>
          rw [List.map_cons, List.map_cons, List.cons.injEq] at read
          rw [List.map_cons, List.map_cons, ih read.2, (columns_of_toRecord read.1).1]

end Read

end PlaceholderRow

namespace Tables

structure Binds (paths : Set String) (bindings : PlaceholderMap) (tables : Tables) : Prop where
  ordered : tables.placeholders.Pairwise fun earlier later => earlier.key < later.key
  inside : ∀ row ∈ tables.placeholders, row.path ∈ paths
  decodes : ∀ row ∈ tables.placeholders, ∃ record, row.toRecord = .ok record
  bound : ∀ key record, bindings.lookup key = some record ↔
    ∃ row ∈ tables.placeholders, row.toRecord = .ok record ∧ asciiLowercase row.path = key

@[simp]
theorem mem_deletePlaceholder (path : String) (row : PlaceholderRow) (tables : Tables) :
    row ∈ (tables.deletePlaceholder path).placeholders ↔
      row ∈ tables.placeholders ∧ row.key ≠ PlaceholderKey.ofPath path := by
  simp [deletePlaceholder]

namespace Binds

variable {paths : Set String} {bindings : PlaceholderMap} {tables : Tables}

/-- Nothing but the placeholders counts. -/
theorem withVersion (binds : tables.Binds paths bindings) (version : Int) :
    Binds paths bindings { tables with version } :=
  ⟨binds.ordered, binds.inside, binds.decodes, binds.bound⟩

theorem key_eq (binds : tables.Binds paths bindings) {key : String} {record : PlaceholderRecord}
    (found : bindings.lookup key = some record) : key = asciiLowercase record.path := by
  obtain ⟨row, _, read, same⟩ := (binds.bound key record).mp found
  rw [(PlaceholderRow.columns_of_toRecord read).1, same]

theorem has (binds : tables.Binds paths bindings) (apart : PlaceholderKey.TellsApart paths)
    {path : String} (named : path ∈ paths) :
    tables.hasPlaceholder path = decide (asciiLowercase path ∈ bindings) := by
  rw [Bool.eq_iff_iff, hasPlaceholder, List.any_eq_true, decide_eq_true_eq, Finmap.mem_iff]
  constructor
  · rintro ⟨row, member, same⟩
    obtain ⟨record, read⟩ := binds.decodes row member
    have folded := apart row.path (binds.inside row member) path named (of_decide_eq_true same)
    exact ⟨record, (binds.bound _ _).mpr ⟨row, member, read, folded⟩⟩
  · rintro ⟨record, found⟩
    obtain ⟨row, member, _, folded⟩ := (binds.bound _ _).mp found
    exact ⟨row, member, decide_eq_true (PlaceholderKey.ofPath_congr folded)⟩

theorem delete (binds : tables.Binds paths bindings) (apart : PlaceholderKey.TellsApart paths)
    {path : String} (named : path ∈ paths) :
    (tables.deletePlaceholder path).Binds paths (bindings.erase (asciiLowercase path)) := by
  have kept : ∀ {row}, row ∈ (tables.deletePlaceholder path).placeholders →
      row ∈ tables.placeholders := by
    intro row member
    exact ((mem_deletePlaceholder path row tables).mp member).1
  refine ⟨binds.ordered.filter _, fun row member => binds.inside row (kept member),
    fun row member => binds.decodes row (kept member), ?_⟩
  intro key record
  by_cases own : key = asciiLowercase path
  · rw [own, Finmap.lookup_erase]
    constructor
    · intro impossible
      simp at impossible
    · rintro ⟨row, member, _, folded⟩
      have different := ((mem_deletePlaceholder path row tables).mp member).2
      exact absurd (PlaceholderKey.ofPath_congr folded) different
  · rw [Finmap.lookup_erase_ne own, binds.bound]
    constructor
    · -- A row of another path is deleted as well unless the table tells the two apart.
      rintro ⟨row, member, read, folded⟩
      refine ⟨row, (mem_deletePlaceholder path row tables).mpr ⟨member, ?_⟩, read, folded⟩
      intro same
      exact own (folded.symm.trans (apart row.path (binds.inside row member) path named same))
    · rintro ⟨row, member, rest⟩
      exact ⟨row, kept member, rest⟩

/-- To put a row is to delete the one in its stead, and to add it. -/
theorem mem_put_iff (binds : tables.Binds paths bindings) (row other : PlaceholderRow) :
    other ∈ (tables.putPlaceholder row).placeholders ↔
      other = row ∨ other ∈ (tables.deletePlaceholder row.path).placeholders := by
  rw [mem_deletePlaceholder]
  exact Rows.mem_put binds.ordered

theorem put (binds : tables.Binds paths bindings) (apart : PlaceholderKey.TellsApart paths)
    {record : PlaceholderRecord} (named : record.path ∈ paths) :
    (tables.putPlaceholder (.ofRecord record)).Binds paths
      (bindings.insert (asciiLowercase record.path) record) := by
  have freed := binds.delete apart named
  have read := PlaceholderRow.toRecord_ofRecord record
  refine ⟨Rows.ordered_put _ binds.ordered, ?_, ?_, ?_⟩
  · intro row member
    rcases (binds.mem_put_iff _ _).mp member with rfl | old
    · exact named
    · exact freed.inside row old
  · intro row member
    rcases (binds.mem_put_iff _ _).mp member with rfl | old
    · exact ⟨record, read⟩
    · exact freed.decodes row old
  · intro key other
    by_cases own : key = asciiLowercase record.path
    · rw [own, Finmap.lookup_insert]
      constructor
      · intro same
        obtain rfl := Option.some.inj same
        exact ⟨.ofRecord record, (binds.mem_put_iff _ _).mpr (.inl rfl), read, rfl⟩
      · rintro ⟨row, member, found, folded⟩
        rcases (binds.mem_put_iff _ _).mp member with rfl | old
        · exact congrArg some (Except.ok.inj (read.symm.trans found))
        · have bound := (freed.bound _ _).mpr ⟨row, old, found, folded⟩
          have free : (bindings.erase (asciiLowercase record.path)).lookup
              (asciiLowercase record.path) = none := Finmap.lookup_erase _ _
          exact absurd (bound.symm.trans free) (by simp)
    · rw [Finmap.lookup_insert_of_ne _ own, ← Finmap.lookup_erase_ne own, freed.bound]
      constructor
      · rintro ⟨row, old, rest⟩
        exact ⟨row, (binds.mem_put_iff _ _).mpr (.inr old), rest⟩
      · rintro ⟨row, member, found, folded⟩
        rcases (binds.mem_put_iff _ _).mp member with rfl | old
        · exact absurd folded.symm own
        · exact ⟨row, old, found, folded⟩

variable {records : List PlaceholderRecord}

theorem nodup_paths (ordered : tables.placeholders.Pairwise fun earlier later =>
      earlier.key < later.key) :
    (tables.placeholders.map fun row => asciiLowercase row.path).Nodup := by
  rw [List.Nodup, List.pairwise_map]
  refine ordered.imp ?_
  intro earlier later less same
  have keys : earlier.key = later.key := PlaceholderKey.ofPath_congr same
  rw [keys] at less
  exact PlaceholderKey.lt_irrefl _ less

theorem ofRecords (ordered : tables.placeholders.Pairwise fun earlier later =>
      earlier.key < later.key)
    (inside : ∀ row ∈ tables.placeholders, row.path ∈ paths)
    (read : tables.placeholders.map PlaceholderRow.toRecord = records.map .ok) :
    tables.Binds paths (PlaceholderMap.ofRecords records) := by
  refine ⟨ordered, inside, ?_, ?_⟩
  · intro row member
    have found : row.toRecord ∈ records.map Except.ok := read ▸ List.mem_map_of_mem member
    obtain ⟨record, _, same⟩ := List.mem_map.mp found
    exact ⟨record, same.symm⟩
  · intro key record
    have distinct : (records.map fun record =>
        (⟨asciiLowercase record.path, record⟩ : Sigma fun _ : String => PlaceholderRecord)).NodupKeys := by
      have folded := nodup_paths ordered
      have same := congrArg (List.map asciiLowercase) (PlaceholderRow.paths_of_records read)
      rw [List.map_map, List.map_map] at same
      rw [List.NodupKeys, List.keys, List.map_map]
      exact same ▸ folded
    rw [PlaceholderMap.ofRecords, Finmap.dlookup_list_toFinmap]
    refine (List.mem_dlookup_iff distinct).trans ?_
    rw [List.mem_map]
    constructor
    · rintro ⟨listed, member, same⟩
      obtain ⟨rfl, value⟩ := Sigma.mk.inj same
      obtain rfl := eq_of_heq value
      obtain ⟨row, stored, found⟩ := (PlaceholderRow.mem_records read listed).mp member
      rw [(PlaceholderRow.columns_of_toRecord found).1]
      exact ⟨row, stored, found, rfl⟩
    · rintro ⟨row, stored, found, rfl⟩
      refine ⟨record, (PlaceholderRow.mem_records read record).mpr ⟨row, stored, found⟩, ?_⟩
      rw [(PlaceholderRow.columns_of_toRecord found).1]

/-- Reading the table gives each record of the map once. -/
theorem records_eq (binds : tables.Binds paths bindings)
    (read : tables.placeholders.map PlaceholderRow.toRecord = records.map .ok) :
    (records : Multiset PlaceholderRecord) = bindings.records := by
  have listedOnce : records.Nodup := by
    have folded := nodup_paths binds.ordered
    rw [show (fun row : PlaceholderRow => asciiLowercase row.path) =
      asciiLowercase ∘ PlaceholderRow.path from rfl, ← List.map_map,
      ← PlaceholderRow.paths_of_records read, List.map_map] at folded
    exact folded.of_map
  have boundOnce : bindings.records.Nodup := by
    refine Multiset.Nodup.map_on ?_ bindings.nodupKeys.nodup
    rintro ⟨left, record⟩ leftIn ⟨right, other⟩ rightIn same
    obtain rfl : record = other := same
    have first := binds.key_eq (Finmap.lookup_eq_some_iff.mpr leftIn)
    have second := binds.key_eq (Finmap.lookup_eq_some_iff.mpr rightIn)
    rw [first, second]
  refine (Multiset.Nodup.ext (Multiset.coe_nodup.mpr listedOnce) boundOnce).mpr ?_
  intro record
  rw [Multiset.mem_coe, PlaceholderRow.mem_records read, PlaceholderMap.mem_records]
  constructor
  · rintro ⟨row, stored, found⟩
    exact ⟨_, (binds.bound _ _).mpr ⟨row, stored, found, rfl⟩⟩
  · rintro ⟨key, found⟩
    obtain ⟨row, stored, same, _⟩ := (binds.bound _ _).mp found
    exact ⟨row, stored, same⟩

end Binds

end Tables

end Enlistment
