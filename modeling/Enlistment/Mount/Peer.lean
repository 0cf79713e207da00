import Enlistment.Control.Framing

/-!
The other end of a connection, and the one answer that a request gets.
-/

namespace Enlistment

open Control

structure Peer where
  lines : List String
  /-- How many more writes it takes before the connection breaks; `none` if it does not. -/
  accepts : Option Nat
deriving DecidableEq

namespace Peer

def steady : Peer := ⟨[], none⟩

def breakingAfter (writes : Nat) : Peer := ⟨[], some writes⟩

def writeLine (line : String) (peer : Peer) : Except ProtocolError Unit × Peer :=
  match Control.writeLine line with
  | .error error => (.error error, peer)
  | .ok _ =>
      match peer.accepts with
      | some 0 => (.error .io, peer)
      | some (writes + 1) => (.ok (), ⟨peer.lines ++ [line], some writes⟩)
      | none => (.ok (), ⟨peer.lines ++ [line], none⟩)

def internalError : String := "InternalError"

def answerLine (line : String) (peer : Peer) : Except ProtocolError Unit × Peer :=
  match peer.writeLine line with
  | (.error .embeddedNewline, kept) => kept.writeLine internalError
  | written => written

def answer (message : Message) (peer : Peer) : Except ProtocolError Unit × Peer :=
  peer.answerLine message.toLine

end Peer

end Enlistment
