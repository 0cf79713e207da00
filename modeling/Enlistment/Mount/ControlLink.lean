import Enlistment.Mount.Daemon

/-!
A client's connection to a mount. Requests are answered one after another until the client hangs up
or sends what is no line of text; what a client sent last counts as a line even without its end.
-/

namespace Enlistment

open Control

structure ControlLink where
  incoming : Inbox
  outgoing : Inbox

namespace ControlLink

def fresh : ControlLink := ⟨.empty, .empty⟩

structure Served where
  position : Nat
  peer : Peer
  hungUp : Bool
  daemon : Daemon

def serveFrom (fetch : ContentId → Bool) (isEnded : Bool) (bytes : ByteArray) (position : Nat)
    (peer : Peer) (daemon : Daemon) : Served :=
  match _read : readLine isEnded bytes position with
  | .line found =>
      let handled := daemon.handle fetch (Message.fromLine found.text) peer
      match handled.outcome with
      | .ok _ => serveFrom fetch isEnded bytes found.next handled.peer handled.daemon
      | .error _ => ⟨found.next, handled.peer, true, handled.daemon⟩
  | .waiting => ⟨position, peer, false, daemon⟩
  | .ended => ⟨position, peer, true, daemon⟩
  | .failed _ next => ⟨next, peer, true, daemon⟩
termination_by bytes.size - position
decreasing_by
  have := readLineLimited_bounds _read
  omega

def framed (lines : List String) : ByteArray :=
  (String.join (lines.map (·.push '\n'))).toUTF8

def serve (fetch : ContentId → Bool) (peer : Peer) (link : ControlLink) (daemon : Daemon) :
    ControlLink × Daemon :=
  if link.outgoing.isClosed then (link, daemon)
  else
    let served :=
      serveFrom fetch link.incoming.isClosed link.incoming.bytes link.incoming.position peer daemon
    let outgoing := link.outgoing.receive (framed served.peer.lines)
    (⟨{ link.incoming with position := served.position },
      { outgoing with isClosed := served.hungUp }⟩, served.daemon)

def send (fetch : ContentId → Bool) (bytes : ByteArray) (link : ControlLink) (daemon : Daemon) :
    ControlLink × Daemon :=
  { link with incoming := link.incoming.receive bytes }.serve fetch .steady daemon

def close (fetch : ContentId → Bool) (link : ControlLink) (daemon : Daemon) :
    ControlLink × Daemon :=
  { link with incoming := { link.incoming with isClosed := true } }.serve fetch
    (.breakingAfter 0) daemon

end ControlLink

end Enlistment
