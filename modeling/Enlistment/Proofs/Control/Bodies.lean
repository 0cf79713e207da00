import Enlistment.Control.Client
import Enlistment.Mount.Daemon
import Enlistment.Proofs.Json.Reader

/-!
What the two sides of a connection write in JSON, and how the other side reads it. A requester and
a list of packs come back as they were sent, and so does what a mount says of itself, as far as
numbers are in the bounds that both sides set.
-/

namespace Enlistment.Control

open Json

theorem naturalBelow?_lt {bound natural : Nat} {value : Json}
    (read : value.naturalBelow? bound = some natural) : natural < bound := by
  unfold naturalBelow? at read
  split at read
  · split at read
    · rename_i below
      exact Option.some.inj read ▸ below
    · contradiction
  · contradiction

namespace Requester

def written (requester : Requester) : List (String × List Char × Json) :=
  [("pid", writeNatural requester.pid, .natural requester.pid),
    ("is_elevated", writeBoolean requester.isElevated, .boolean requester.isElevated),
    ("check_availability_only", writeBoolean requester.checkAvailabilityOnly,
      .boolean requester.checkAvailabilityOnly),
    ("parsed_command", quote requester.parsedCommand, .text (some requester.parsedCommand)),
    ("git_command_session_id", quote requester.sessionId, .text (some requester.sessionId))]

theorem writes_written (requester : Requester) :
    ∀ member ∈ requester.written, Writes member.2.1 member.2.2 := by
  simp only [written, List.forall_mem_cons, List.not_mem_nil, false_implies, implies_true, and_true]
  exact ⟨writes_writeNatural _, writes_writeBoolean _, writes_writeBoolean _, writes_quote _,
    writes_quote _⟩

theorem toBody_eq (requester : Requester) :
    requester.toBody =
      String.ofList (writeObject (requester.written.map fun member => (member.1, member.2.1))) := by
  simp only [toBody, written, List.map_cons, List.map_nil]

theorem ofJson?_of_fields {requester : Requester} (bound : requester.pid < pidBound) {value : Json}
    (fields : value.fields? fieldNames = some (requester.written.map fun member => member.2.2)) :
    ofJson? value = some requester := by
  have pid : (Json.natural requester.pid).naturalBelow? pidBound = some requester.pid :=
    if_pos bound
  rw [ofJson?, fields]
  simp only [written, List.map_cons, List.map_nil, Option.bind_eq_bind, Option.bind_some, pid,
    boolean?, text?, Option.pure_def]

theorem fromBody_toBody {requester : Requester} (bound : requester.pid < pidBound) :
    fromBody (some requester.toBody) = some requester := by
  have names : requester.written.map Prod.fst = fieldNames := by
    simp only [written, List.map_cons, List.map_nil, fieldNames]
  have distinct : (requester.written.map Prod.fst).Nodup := by
    rw [names]
    decide
  obtain ⟨value, parsed, fields⟩ := parse_fields requester.writes_written distinct
  rw [names] at fields
  rw [fromBody, Option.bind_eq_bind, Option.bind_some, toBody_eq, parsed, Option.bind_eq_bind,
    Option.bind_some, ofJson?_of_fields bound fields]

def toArrayBody (requester : Requester) : String :=
  String.ofList (writeArray (requester.written.map fun member => member.2.1))

theorem fromBody_toArrayBody {requester : Requester} (bound : requester.pid < pidBound) :
    fromBody (some requester.toArrayBody) = some requester := by
  have each : ∀ pair ∈ requester.written.map Prod.snd, Writes pair.1 pair.2 := by
    intro pair listed
    obtain ⟨member, known, rfl⟩ := List.mem_map.mp listed
    exact requester.writes_written member known
  have parsed := parse_writeArray each
  rw [List.map_map, List.map_map] at parsed
  have fields : (Json.array (requester.written.map fun member => member.2.2)).fields? fieldNames =
      some (requester.written.map fun member => member.2.2) := by
    have count : (requester.written.map fun member => member.2.2).length = fieldNames.length := rfl
    rw [fields?, if_pos count]
  rw [fromBody, Option.bind_eq_bind, Option.bind_some]
  exact (congrArg (· >>= ofJson?) parsed).trans (ofJson?_of_fields bound fields)

theorem pid_lt_of_fromBody {body : Option String} {requester : Requester}
    (read : fromBody body = some requester) : requester.pid < pidBound := by
  simp only [fromBody, Option.bind_eq_bind, Option.bind_eq_some_iff] at read
  obtain ⟨_, _, value, _, found⟩ := read
  simp only [ofJson?, Option.bind_eq_bind, Option.bind_eq_some_iff] at found
  obtain ⟨fields, _, found⟩ := found
  split at found
  · simp only [Option.bind_eq_some_iff] at found
    obtain ⟨pid, inBounds, _, _, _, _, _, _, _, _, same⟩ := found
    rw [← Option.some.inj same]
    exact naturalBelow?_lt inBounds
  · contradiction

end Requester

namespace StatusReport

def written (report : StatusReport) : List (String × List Char × Json) :=
  [("enlistment_root", quote report.enlistmentRoot, .text (some report.enlistmentRoot)),
    ("local_cache_root", quote report.localCacheRoot, .text (some report.localCacheRoot)),
    ("repo_url", quote report.repositoryUrl, .text (some report.repositoryUrl)),
    ("cache_server", quote report.cacheServer, .text (some report.cacheServer)),
    ("lock_status", quote report.lockStatus, .text (some report.lockStatus)),
    ("mount_status", quote report.mountStatus.name, .text (some report.mountStatus.name)),
    ("disk_layout_version", quote report.diskLayoutVersion, .text (some report.diskLayoutVersion)),
    ("background_operation_count", writeNatural report.backgroundOperationCount,
      .natural report.backgroundOperationCount)]

theorem writes_written (report : StatusReport) :
    ∀ member ∈ report.written, Writes member.2.1 member.2.2 := by
  simp only [written, List.forall_mem_cons, List.not_mem_nil, false_implies, implies_true, and_true]
  exact ⟨writes_quote _, writes_quote _, writes_quote _, writes_quote _, writes_quote _,
    writes_quote _, writes_quote _, writes_writeNatural _⟩

theorem toLine_eq (report : StatusReport) :
    report.toLine =
      String.ofList (writeObject (report.written.map fun member => (member.1, member.2.1))) := by
  simp only [toLine, members, written, List.map_cons, List.map_nil]

theorem mountState?_name (state : MountState) :
    mountState? (.text (some state.name)) = some state := by
  cases state <;> decide

theorem fromLine_toLine {report : StatusReport}
    (bound : report.backgroundOperationCount < countBound) :
    fromLine report.toLine = .ok report := by
  have names : report.written.map Prod.fst = fieldNames := by
    simp only [written, List.map_cons, List.map_nil, fieldNames]
  have distinct : (report.written.map Prod.fst).Nodup := by
    rw [names]
    decide
  obtain ⟨value, parsed, fields⟩ := parse_fields report.writes_written distinct
  rw [names] at fields
  have count : (Json.natural report.backgroundOperationCount).naturalBelow? countBound =
      some report.backgroundOperationCount := if_pos bound
  have read : ofJson? value = some report := by
    rw [ofJson?, fields]
    simp only [written, List.map_cons, List.map_nil, Option.bind_eq_bind, Option.bind_some, count,
      text?, mountState?_name, Option.pure_def]
  rw [fromLine, toLine_eq, parsed, Option.bind_some, read]

end StatusReport

theorem texts?_texts (texts : List String) :
    texts? (.array (texts.map fun text => .text (some text))) = some texts := by
  induction texts with
  | nil => rfl
  | cons text rest ih =>
      rw [texts?] at ih
      rw [texts?, List.map_cons, List.mapM_cons, ih]
      rfl

theorem packsOfBody_packsToBody (packs : List String) :
    Daemon.packsOfBody (some (Transport.packsToBody packs)) = some packs := by
  have each : ∀ pair ∈ packs.map fun pack => (quote pack, Json.text (some pack)),
      Writes pair.1 pair.2 := by
    intro pair listed
    obtain ⟨pack, _, rfl⟩ := List.mem_map.mp listed
    exact writes_quote pack
  have parsed := parse_writeArray each
  rw [List.map_map, List.map_map] at parsed
  rw [Daemon.packsOfBody, Transport.packsToBody]
  exact (congrArg (·.bind texts?) parsed).trans (texts?_texts packs)

end Enlistment.Control
