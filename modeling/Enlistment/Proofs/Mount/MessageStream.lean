import Mathlib.Data.List.TakeWhile
import Enlistment.Control.Client
import Enlistment.Proofs.Mount.Exchange
import Enlistment.Proofs.Text.Size

/-!
Messages one after another. A reader takes them off a stream as a writer put them on it, and then
finds the end of the stream; a message that does not fit on one line never gets onto a stream.
-/

namespace Enlistment

open Control

namespace Control

theorem ReadAs.eq_of_last {line text : String} (readAs : ReadAs line text)
    (last : line.toList.getLast? ≠ some '\r') : text = line := by
  rcases readAs with same | rfl
  · exact same
  · exact absurd (by simp) last

structure Exact (line : String) : Prop extends Sendable line where
  noCarriageReturn : line.toList.getLast? ≠ some '\r'

theorem readLine_of_exact {line : String} (isClosed : Bool) (before rest : ByteArray)
    (exact : Exact line) :
    readLine isClosed (before ++ (line.push '\n').toUTF8 ++ rest) before.size =
      .line ⟨line, (before ++ (line.push '\n').toUTF8).size⟩ := by
  obtain ⟨text, read, readAs⟩ := readLine_of_framed false before exact.toSendable
  rw [readLine_append _ _ (by rw [read]; simp), read, readAs.eq_of_last exact.noCarriageReturn]

namespace Message

/-- A message that can be told from its line, and whose line can be read from a stream. -/
structure Framable (message : Message) : Prop where
  noBar : '|' ∉ message.header.toList
  header : '\n' ∉ message.header.toList
  body : ∀ body, message.body = some body → body ≠ "" ∧ '\n' ∉ body.toList
  noCarriageReturn : message.toLine.toList.getLast? ≠ some '\r'
  fits : message.toLine.utf8ByteSize ≤ maxMessageBytes

variable {message : Message}

theorem Framable.exact (framable : message.Framable) : Exact message.toLine := by
  refine ⟨⟨?_, framable.fits⟩, framable.noCarriageReturn⟩
  obtain ⟨header, _ | body⟩ := message
  · exact framable.header
  · have inHeader := framable.header
    have inBody := (framable.body body rfl).2
    simp [inHeader, inBody]

theorem trimLineEnd_of_exact {line : String} (exact : Exact line) :
    trimLineEnd line.toList = line.toList := by
  refine trimLineEnd_of_last fun character last => ?_
  have notLineFeed : character ≠ '\n' :=
    ne_of_mem_of_not_mem (List.mem_of_getLast? last) exact.noLineFeed
  have notCarriageReturn : character ≠ '\r' := by
    rintro rfl
    exact exact.noCarriageReturn last
  simp [isLineEnd, notLineFeed, notCarriageReturn]

theorem ofCharacters_of_header {header : List Char} (noBar : '|' ∉ header) :
    ofCharacters header = ⟨String.ofList header, none⟩ := by
  have plain := ne_bar_of_absent noBar
  unfold ofCharacters
  dsimp only
  rw [List.takeWhile_eq_self_iff.mpr plain, List.dropWhile_eq_nil_iff.mpr plain]

theorem Framable.fromLine_toLine (framable : message.Framable) :
    fromLine message.toLine = message := by
  rw [fromLine, trimLineEnd_of_exact framable.exact]
  obtain ⟨header, _ | body⟩ := message
  · rw [toLine, ofCharacters_of_header framable.noBar, String.ofList_toList]
  · have some : body.toList ≠ [] := by
      rw [ne_eq, String.toList_eq_nil_iff]
      exact (framable.body body rfl).1
    rw [toList_toLine, ofCharacters_of_body _ framable.noBar, if_neg some, String.ofList_toList,
      String.ofList_toList]

end Message

namespace Inbox

def takeMessage (inbox : Inbox) : Except ProtocolError (Option Message) × Inbox :=
  let (line, rest) := inbox.takeLine
  (line.map (·.map Message.fromLine), rest)

def takeMessages : Nat → Inbox → List (Except ProtocolError (Option Message))
  | 0, _ => []
  | count + 1, inbox => inbox.takeMessage.1 :: takeMessages count inbox.takeMessage.2

theorem takeMessages_of_ended (bytes : ByteArray) (count : Nat) :
    takeMessages count ⟨bytes, bytes.size, true⟩ = List.replicate count (.ok none) := by
  have taken : takeMessage ⟨bytes, bytes.size, true⟩ = (.ok none, ⟨bytes, bytes.size, true⟩) := by
    rw [takeMessage, takeLine, readLine_of_ended]
    rfl
  induction count with
  | zero => rfl
  | succ count ih => rw [takeMessages, taken, ih, List.replicate_succ]

theorem takeMessage_of_framable {message : Message} (isClosed : Bool) (before rest : ByteArray)
    (framable : message.Framable) :
    takeMessage ⟨before ++ (message.toLine.push '\n').toUTF8 ++ rest, before.size, isClosed⟩ =
      (.ok (some message), ⟨before ++ (message.toLine.push '\n').toUTF8 ++ rest,
        (before ++ (message.toLine.push '\n').toUTF8).size, isClosed⟩) := by
  unfold takeMessage takeLine
  dsimp only
  rw [readLine_of_exact isClosed before rest framable.exact]
  dsimp only [Except.map, Option.map]
  rw [framable.fromLine_toLine]

end Inbox

theorem readLinesFrom_of_line {bytes : ByteArray} {position : Nat} {found : ReadLine}
    (read : readLine true bytes position = .line found) :
    readLinesFrom bytes position =
      (found.text :: (readLinesFrom bytes found.next).1, (readLinesFrom bytes found.next).2) := by
  rw [readLinesFrom]
  split <;> rename_i other
  · obtain rfl := ReadOutcome.line.inj (other.symm.trans read)
    rfl
  all_goals exact absurd (other.symm.trans read) (by simp)

theorem readLinesFrom_of_ended {bytes : ByteArray} {position : Nat}
    (ended : readLine true bytes position = .ended) : readLinesFrom bytes position = ([], none) := by
  rw [readLinesFrom]
  split <;> rename_i other
  · exact absurd (other.symm.trans ended) (by simp)
  · exact absurd (other.symm.trans ended) (by simp)
  · rfl
  · rfl

end Control

namespace ControlLink

theorem append_framed_nil (before : ByteArray) : before ++ framed [] = before := by
  simp

theorem readLinesFrom_framed {lines : List String} (exact : ∀ line ∈ lines, Exact line)
    (before : ByteArray) :
    readLinesFrom (before ++ framed lines) before.size = (lines, none) := by
  induction lines generalizing before with
  | nil =>
      rw [append_framed_nil]
      exact readLinesFrom_of_ended (readLine_of_ended before)
  | cons line rest ih =>
      have read := readLine_of_exact true before (framed rest) (exact line List.mem_cons_self)
      rw [framed_cons, ← ByteArray.append_assoc, readLinesFrom_of_line read]
      dsimp only
      rw [ih fun other listed => exact other (List.mem_cons_of_mem line listed)]

variable {messages : List Message}

theorem takeMessages_framed (framable : ∀ message ∈ messages, message.Framable) (further : Nat)
    (before : ByteArray) :
    Inbox.takeMessages (messages.length + further)
        ⟨before ++ framed (messages.map Message.toLine), before.size, true⟩ =
      messages.map (fun message => .ok (some message)) ++ List.replicate further (.ok none) := by
  induction messages generalizing before with
  | nil =>
      rw [List.map_nil, append_framed_nil, List.length_nil, Nat.zero_add]
      exact Inbox.takeMessages_of_ended before further
  | cons message rest ih =>
      have first : message.Framable := framable message List.mem_cons_self
      have others : ∀ other ∈ rest, other.Framable := fun other listed =>
        framable other (List.mem_cons_of_mem message listed)
      have count : (message :: rest).length + further = rest.length + further + 1 := by
        rw [List.length_cons]
        omega
      rw [count, Inbox.takeMessages, List.map_cons, framed_cons, ← ByteArray.append_assoc,
        Inbox.takeMessage_of_framable true before _ first, ih others]
      rfl

theorem mapM_writeMessage (framable : ∀ message ∈ messages, message.Framable) :
    messages.mapM writeMessage = .ok (messages.map (·.toLine.push '\n')) := by
  induction messages with
  | nil => rfl
  | cons message rest ih =>
      have first : writeMessage message = .ok (message.toLine.push '\n') :=
        writeLine_of_sendable (framable message List.mem_cons_self).exact.toSendable
      rw [List.mapM_cons, first, ih fun other listed => framable other (.tail message listed)]
      rfl

end ControlLink

/-- Messages that can be framed come off a stream as they were put on it, and then the stream has
ended, however often it is asked. A message with a line feed in its line is not written at all,
neither by a client nor by a mount. -/
theorem takeMessages_written :
    (∀ messages : List Message, (∀ message ∈ messages, message.Framable) →
      ∃ written, messages.mapM writeMessage = .ok written ∧
        (∀ further, Inbox.takeMessages (messages.length + further)
            ⟨(String.join written).toUTF8, 0, true⟩ =
          messages.map (fun message => .ok (some message)) ++
            List.replicate further (.ok none)) ∧
        readLines (String.join written).toUTF8 = (messages.map Message.toLine, none)) ∧
    ∀ message : Message, '\n' ∈ message.toLine.toList →
      writeMessage message = .error .embeddedNewline ∧
      (∀ peer : Peer, peer.writeLine message.toLine = (.error .embeddedNewline, peer)) ∧
      ∀ {State : Type} (transport : Transport State) (state : State),
        (transport.sendLine message.toLine).run state =
          (.error (.protocol .embeddedNewline), state) := by
  constructor
  · intro messages framable
    have exact : ∀ line ∈ messages.map Message.toLine, Exact line := by
      rintro line listed
      obtain ⟨message, member, rfl⟩ := List.mem_map.mp listed
      exact (framable message member).exact
    have bytes : (String.join (messages.map (·.toLine.push '\n'))).toUTF8 =
        ByteArray.empty ++ ControlLink.framed (messages.map Message.toLine) := by
      rw [ByteArray.empty_append, ControlLink.framed, List.map_map]
      rfl
    refine ⟨_, ControlLink.mapM_writeMessage framable, ?_, ?_⟩
    · intro further
      rw [bytes]
      exact ControlLink.takeMessages_framed framable further ByteArray.empty
    · rw [bytes]
      exact ControlLink.readLinesFrom_framed exact ByteArray.empty
  · intro message embedded
    have refused : writeLine message.toLine = .error .embeddedNewline := by
      rw [writeLine, List.contains_eq_mem, decide_eq_true embedded]
      rfl
    refine ⟨refused, ?_, ?_⟩
    · intro peer
      rw [Peer.writeLine, refused]
    · intro State transport state
      rw [Transport.sendLine, refused]
      rfl

def lettered (count : Nat) : Message :=
  ⟨"X", some (String.ofList (List.replicate count 'a'))⟩

theorem toList_lettered (count : Nat) :
    (lettered count).toLine.toList = 'X' :: '|' :: List.replicate count 'a' := by
  rw [lettered, Message.toList_toLine, String.toList_ofList, String.toList_ofList,
    List.cons_append, List.nil_append]

theorem utf8ByteSize_lettered (count : Nat) :
    (lettered count).toLine.utf8ByteSize = count + 2 := by
  have letter : 'a'.utf8Size = 1 := by decide
  rw [← String.utf8Len_toList, toList_lettered, String.utf8Len_cons, String.utf8Len_cons,
    Text.utf8Len_replicate, letter, Nat.mul_one]
  rfl

theorem framable_lettered {count : Nat} (some : 0 < count) (fits : count + 2 ≤ maxMessageBytes) :
    (lettered count).Framable := by
  refine ⟨?_, ?_, ?_, ?_, (utf8ByteSize_lettered count).trans_le fits⟩
  · show '|' ∉ "X".toList
    decide
  · show '\n' ∉ "X".toList
    decide
  · rintro body ⟨⟩
    rw [ne_eq, ← String.toList_eq_nil_iff, String.toList_ofList]
    simp [Nat.pos_iff_ne_zero.mp some]
  · rw [toList_lettered]
    intro last
    have listed := List.mem_of_getLast? last
    simp at listed

theorem takeMessages_written_at_limit :
    (lettered (maxMessageBytes - 2)).toLine.utf8ByteSize = maxMessageBytes ∧
    (∃ written, [⟨"MPL", some "a|\rb"⟩, lettered (maxMessageBytes - 2), ⟨"", none⟩].mapM
          writeMessage = .ok written ∧
      ∀ further, Inbox.takeMessages (3 + further) ⟨(String.join written).toUTF8, 0, true⟩ =
        .ok (some ⟨"MPL", some "a|\rb"⟩) :: .ok (some (lettered (maxMessageBytes - 2))) ::
          .ok (some ⟨"", none⟩) :: List.replicate further (.ok none)) ∧
    writeMessage ⟨"X", some "a\nb"⟩ = .error .embeddedNewline := by
  have full : (lettered (maxMessageBytes - 2)).Framable :=
    framable_lettered (by decide) (by decide)
  have framable : ∀ message ∈ [⟨"MPL", some "a|\rb"⟩, lettered (maxMessageBytes - 2), ⟨"", none⟩],
      message.Framable := by
    intro message listed
    simp only [List.mem_cons, List.not_mem_nil, or_false] at listed
    rcases listed with rfl | rfl | rfl
    · exact ⟨by decide, by decide, by rintro body ⟨⟩; decide, by decide, by decide⟩
    · exact full
    · exact ⟨by decide, by decide, by rintro body ⟨⟩, by decide, by decide⟩
  obtain ⟨written, all, taken, _⟩ := takeMessages_written.1 _ framable
  exact ⟨utf8ByteSize_lettered _, ⟨written, all, taken⟩, (takeMessages_written.2 _ (by decide)).1⟩

end Enlistment
