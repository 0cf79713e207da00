/-!
What can go wrong with a line of the control protocol.
-/

namespace Enlistment.Control

/-- The longest line, in bytes and without its end. -/
def maxMessageBytes : Nat := 64 * 1024 * 1024

inductive BodyFault where
  | unreadable
  | missingHolder
deriving DecidableEq

inductive ProtocolError where
  | io
  | embeddedNewline
  | messageTooLarge
  | unknownResult (code : String)
  | malformedBody (fault : BodyFault)
deriving DecidableEq

def ProtocolError.message? : ProtocolError → Option String
  | io => none
  | embeddedNewline => some "message body may not contain a line break"
  | messageTooLarge => some s!"message exceeds {maxMessageBytes} bytes"
  | unknownResult code => some s!"unrecognized result code: {code}"
  | malformedBody .unreadable => none
  | malformedBody .missingHolder => some "malformed body: DenyGit without a lock holder"

end Enlistment.Control
