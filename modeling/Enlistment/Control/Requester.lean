import Enlistment.Json.Value
import Enlistment.Json.Writer

/-!
The process that asks for the lock, and its JSON form.
-/

namespace Enlistment.Control

structure Requester where
  pid : Nat
  isElevated : Bool
  checkAvailabilityOnly : Bool
  parsedCommand : String
  sessionId : String
deriving DecidableEq

namespace Requester

def pidBound : Nat := 0x100000000

def fieldNames : List String :=
  ["pid", "is_elevated", "check_availability_only", "parsed_command", "git_command_session_id"]

def ofJson? (value : Json) : Option Requester := do
  match ← value.fields? fieldNames with
  | [pid, isElevated, checkAvailabilityOnly, parsedCommand, sessionId] =>
      pure {
        pid := ← pid.naturalBelow? pidBound
        isElevated := ← isElevated.boolean?
        checkAvailabilityOnly := ← checkAvailabilityOnly.boolean?
        parsedCommand := ← parsedCommand.text?
        sessionId := ← sessionId.text?
      }
  | _ => none

def fromBody (body : Option String) : Option Requester := do
  ofJson? (← Json.parse (← body))

def toBody (requester : Requester) : String :=
  String.ofList (Json.writeObject [
    ("pid", Json.writeNatural requester.pid),
    ("is_elevated", Json.writeBoolean requester.isElevated),
    ("check_availability_only", Json.writeBoolean requester.checkAvailabilityOnly),
    ("parsed_command", Json.quote requester.parsedCommand),
    ("git_command_session_id", Json.quote requester.sessionId)])

def display (requester : Requester) : String :=
  requester.parsedCommand ++ " (PID:" ++ toString requester.pid ++ ")"

end Requester

end Enlistment.Control
