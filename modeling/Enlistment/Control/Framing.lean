import Enlistment.Control.Error
import Enlistment.Control.Message

/-!
Lines on a stream of bytes. A line ends in a line feed, or with the stream; one carriage return
before its end is dropped. A line of more than `maxMessageBytes` bytes is refused as soon as that
many came without a line feed.
-/

namespace Enlistment.Control

def lineFeed : UInt8 := 10

def carriageReturn : UInt8 := 13

def lineEnd (bytes : ByteArray) (position stop : Nat) : Nat :=
  if position < stop then
    if bytes.get! position == lineFeed then position else lineEnd bytes (position + 1) stop
  else stop
termination_by stop - position

def dropCarriageReturn (line : ByteArray) : ByteArray :=
  if 0 < line.size && line.get! (line.size - 1) == carriageReturn then
    line.extract 0 (line.size - 1)
  else line

structure ReadLine where
  text : String
  next : Nat

inductive ReadOutcome where
  | waiting
  | ended
  | line (found : ReadLine)
  /-- The bytes before `next` cannot be read as a line. -/
  | failed (error : ProtocolError) (next : Nat)

def decodeLine (line : ByteArray) (next : Nat) : ReadOutcome :=
  match String.fromUTF8? (dropCarriageReturn line) with
  | some text => .line ⟨text, next⟩
  | none => .failed .io next

/-- Reads the line that starts at `position`, where lines hold at most `limit` bytes. -/
def readLineLimited (limit : Nat) (isClosed : Bool) (bytes : ByteArray) (position : Nat) :
    ReadOutcome :=
  let stop := min bytes.size (position + limit + 1)
  let found := lineEnd bytes position stop
  if found < stop then decodeLine (bytes.extract position found) (found + 1)
  else if limit < stop - position then .failed .messageTooLarge stop
  else if !isClosed then .waiting
  else if stop ≤ position then .ended
  else decodeLine (bytes.extract position stop) stop

def readLine (isClosed : Bool) (bytes : ByteArray) (position : Nat) : ReadOutcome :=
  readLineLimited maxMessageBytes isClosed bytes position

theorem lineEnd_bounds (bytes : ByteArray) {position stop : Nat} (inside : position ≤ stop) :
    position ≤ lineEnd bytes position stop ∧ lineEnd bytes position stop ≤ stop := by
  fun_induction lineEnd bytes position stop with
  | case1 => omega
  | case2 position below different ih => have := ih below; omega
  | case3 => omega

theorem next_of_decodeLine {line : ByteArray} {next : Nat} {found : ReadLine}
    (decoded : decodeLine line next = .line found) : found.next = next := by
  unfold decodeLine at decoded
  split at decoded
  · cases decoded; rfl
  · cases decoded

/-- Reading a line moves on and stays on the stream, so a stream is used up. -/
theorem readLineLimited_bounds {limit position : Nat} {isClosed : Bool} {bytes : ByteArray}
    {found : ReadLine} (read : readLineLimited limit isClosed bytes position = .line found) :
    position < found.next ∧ found.next ≤ bytes.size := by
  unfold readLineLimited at read
  dsimp only at read
  split at read
  · rename_i newline
    rw [next_of_decodeLine read]
    by_cases inside : position ≤ min bytes.size (position + limit + 1)
    · have := lineEnd_bounds bytes inside
      omega
    · unfold lineEnd at newline
      rw [if_neg (by omega)] at newline
      omega
  · split at read
    · cases read
    · split at read
      · cases read
      · split at read
        · cases read
        · rw [next_of_decodeLine read]
          omega

def readLinesFrom (bytes : ByteArray) (position : Nat) : List String × Option ProtocolError :=
  match _read : readLine true bytes position with
  | .line found =>
      let (lines, error) := readLinesFrom bytes found.next
      (found.text :: lines, error)
  | .failed error _ => ([], some error)
  | .waiting => ([], none)
  | .ended => ([], none)
termination_by bytes.size - position
decreasing_by
  have := readLineLimited_bounds _read
  omega

def readLines (bytes : ByteArray) : List String × Option ProtocolError :=
  readLinesFrom bytes 0

structure Inbox where
  bytes : ByteArray
  position : Nat
  isClosed : Bool

namespace Inbox

def empty : Inbox := ⟨ByteArray.empty, 0, false⟩

def receive (more : ByteArray) (inbox : Inbox) : Inbox :=
  { inbox with bytes := inbox.bytes ++ more }

def takeLine (inbox : Inbox) : Except ProtocolError (Option String) × Inbox :=
  match readLine inbox.isClosed inbox.bytes inbox.position with
  | .waiting => (.ok none, inbox)
  | .ended => (.ok none, inbox)
  | .line found => (.ok (some found.text), { inbox with position := found.next })
  | .failed error next => (.error error, { inbox with position := next })

end Inbox

def writeLine (line : String) : Except ProtocolError String :=
  if line.toList.contains '\n' then .error .embeddedNewline else .ok (line.push '\n')

def writeMessage (message : Message) : Except ProtocolError String :=
  writeLine message.toLine

end Enlistment.Control
