import Enlistment.Proofs.Control.Vocabulary
import Mathlib.Data.List.TakeWhile

/-!
What is sent as JSON, over both layers. A requester and a report of a mount are written as an object
on one line, which goes through a message as it is and is read as what was written. Numbers that are
not in the bounds of the reader are the only thing that does not come back.
-/

namespace Enlistment.Control

theorem Message.bar_not_mem_header (line : String) : '|' ∉ (fromLine line).header.toList := by
  have header : (fromLine line).header =
      String.ofList ((trimLineEnd line.toList).takeWhile (· != '|')) := by
    rw [fromLine, ofCharacters]
    split <;> rfl
  rw [header, String.toList_ofList]
  intro member
  exact absurd (List.mem_takeWhile_imp member) (by decide)

theorem StatusReport.count_lt_of_fromLine {line : String} {report : StatusReport}
    (read : fromLine line = .ok report) : report.backgroundOperationCount < countBound := by
  rw [fromLine] at read
  split at read
  · rename_i found parsed
    obtain rfl := Except.ok.inj read
    obtain ⟨value, _, described⟩ := Option.bind_eq_some_iff.mp parsed
    simp only [ofJson?, Option.bind_eq_bind, Option.bind_eq_some_iff] at described
    obtain ⟨fields, _, described⟩ := described
    split at described
    · simp only [Option.bind_eq_some_iff] at described
      obtain ⟨_, _, _, _, _, _, _, _, _, _, _, _, _, _, count, inBounds, same⟩ := described
      rw [← Option.some.inj same]
      exact naturalBelow?_lt inBounds
    · contradiction
  · contradiction

/-- The text of an object on one line, which a message brings with every header that can be read. -/
structure IsObjectLine (text : String) : Prop where
  printable : Json.Printable text.toList
  opened : text.toList.head? = some '\x7b'
  closed : text.toList.getLast? = some '\x7d'
  carried : ∀ header,
    Message.fromLine (Message.toLine ⟨header, some text⟩) = ⟨header, some text⟩ ↔
      '|' ∉ header.toList

theorem isObjectLine_of_written {text : String} {members : List (String × List Char)}
    (written : text = String.ofList (Json.writeObject members))
    (printable : Json.Printable text.toList) : IsObjectLine text := by
  have characters : text.toList = Json.writeObject members := by
    rw [written, String.toList_ofList]
  have notEmpty : text ≠ "" := by
    rw [Ne, ← String.toList_eq_nil_iff, characters]
    exact List.cons_ne_nil _ _
  refine ⟨printable, ?_, ?_, fun header => ⟨fun read => ?_, fun noBar => ?_⟩⟩
  · rw [characters]
    rfl
  · rw [characters]
    exact List.getLast?_concat
  · have noBar := Message.bar_not_mem_header (Message.toLine ⟨header, some text⟩)
    rw [read] at noBar
    exact noBar
  · exact Message.fromLine_of_whole noBar (Message.isWhole_of_printable printable notEmpty)

theorem Requester.isObjectLine_toBody (requester : Requester) : IsObjectLine requester.toBody :=
  isObjectLine_of_written requester.toBody_eq requester.printable_toBody

theorem StatusReport.isObjectLine_toLine (report : StatusReport) : IsObjectLine report.toLine :=
  isObjectLine_of_written report.toLine_eq report.printable_toLine

/-- Every requester is read from its body, if its process id is in the bounds, and every report from
its line, if its count is; and both are written as objects on one line, whatever their texts are. -/
theorem written_is_read :
    (∀ requester : Requester, IsObjectLine requester.toBody ∧
      (Requester.fromBody (some requester.toBody) = some requester ↔
        requester.pid < Requester.pidBound)) ∧
    ∀ report : StatusReport, IsObjectLine report.toLine ∧
      (StatusReport.fromLine report.toLine = .ok report ↔
        report.backgroundOperationCount < StatusReport.countBound) := by
  refine ⟨fun requester => ⟨requester.isObjectLine_toBody, ?_⟩,
    fun report => ⟨report.isObjectLine_toLine, ?_⟩⟩
  · exact ⟨Requester.pid_lt_of_fromBody, Requester.fromBody_toBody⟩
  · exact ⟨StatusReport.count_lt_of_fromLine, StatusReport.fromLine_toLine⟩

end Enlistment.Control
