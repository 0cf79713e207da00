import Enlistment.Control.Framing
import Enlistment.Control.ListPayload
import Enlistment.Control.LockAnswer
import Enlistment.Control.Socket
import Enlistment.Control.StatusReport

/-!
The client's side of a connection to a mount. Every call sends one request and waits for its answer;
only an unmount is answered twice, unless it is refused.
-/

namespace Enlistment.Control

inductive ClientError where
  | connect (path : String) (fault : ConnectFault)
  | protocol (error : ProtocolError)
  | disconnected
  | unexpectedResponse (response : String)
deriving DecidableEq

def ClientError.message? : ClientError → Option String
  | connect path fault => some ("failed to connect to mount at " ++ path ++ ": " ++ fault.message)
  | protocol error => error.message?
  | disconnected => some "mount closed the connection"
  | unexpectedResponse response => some ("unexpected response: " ++ response)

structure Transport (State : Type) where
  send : String → State → Except ProtocolError Unit × State
  receive : State → Except ProtocolError (Option String) × State

abbrev Conversation (State : Type) := ExceptT ClientError (StateM State)

namespace Transport

variable {State : Type} (transport : Transport State)

def sendLine (line : String) : Conversation State Unit := do
  match writeLine line with
  | .error error => throw (.protocol error)
  | .ok framed =>
      let (sent, after) := transport.send framed (← get)
      set after
      match sent with
      | .error error => throw (.protocol error)
      | .ok _ => pure ()

def receiveLine : Conversation State String := do
  let (received, after) := transport.receive (← get)
  set after
  match received with
  | .error error => throw (.protocol error)
  | .ok none => throw .disconnected
  | .ok (some line) => pure line

def receiveMessage : Conversation State Message := do
  return Message.fromLine (← transport.receiveLine)

def call (request : Message) : Conversation State Message := do
  transport.sendLine request.toLine
  transport.receiveMessage

def fromProtocol {Answer : Type} : Except ProtocolError Answer → Conversation State Answer
  | .ok answer => pure answer
  | .error error => throw (.protocol error)

def parseCode {Code : Type} [WireCode Code] (message : Message) : Conversation State Code :=
  fromProtocol (WireCode.parse message.header)

def getStatus : Conversation State StatusReport := do
  transport.sendLine Request.getStatus
  fromProtocol (StatusReport.fromLine (← transport.receiveLine))

def unmount : Conversation State UnmountResult := do
  let first : UnmountResult ← parseCode (← transport.call (.headerOnly Request.unmount))
  if first = .acknowledged then parseCode (← transport.receiveMessage) else pure first

def acquireLock (requester : Requester) : Conversation State LockAnswer := do
  let answer ← transport.call ⟨Request.acquireLock, some requester.toBody⟩
  fromProtocol (LockAnswer.fromMessage answer)

def releaseLock (requester : Requester) : Conversation State ReleaseLockResult := do
  parseCode (← transport.call ⟨Request.releaseLock, some requester.toBody⟩)

def downloadObject (id : String) : Conversation State DownloadObjectResult := do
  parseCode (← transport.call ⟨Request.downloadObject, some id⟩)

def modifiedPathsWithVersion (version : String) :
    Conversation State (ModifiedPathsResult × List String) := do
  let answer ← transport.call ⟨Request.modifiedPaths, some version⟩
  let result ← parseCode answer
  pure (result, (answer.body.map splitList).getD [])

def modifiedPaths : Conversation State (List String) := do
  match ← transport.modifiedPathsWithVersion Request.modifiedPathsVersion with
  | (.success, entries) => pure entries
  | (other, _) => throw (.unexpectedResponse (WireCode.spelling other))

def packsToBody (packs : List String) : String :=
  String.ofList (Json.writeArray (packs.map Json.quote))

def postFetch (packs : List String) : Conversation State PostFetchResult := do
  parseCode (← transport.call ⟨Request.postFetch, some (packsToBody packs)⟩)

end Transport

end Enlistment.Control
