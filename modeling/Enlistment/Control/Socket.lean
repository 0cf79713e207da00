import Enlistment.Files

/-!
The sockets of mounts, by their paths. A path that starts with a zero character names a socket that is
no file.
-/

namespace Enlistment.Control

inductive ConnectFault where
  | file (fault : FileFault)
  | refused
  | invalidAddress
  | pathTooLong
  | nameTooLong
  | hasZero
deriving DecidableEq

def ConnectFault.message : ConnectFault → String
  | file fault => fault.message
  | refused => "Connection refused (os error 111)"
  | invalidAddress => "Invalid argument (os error 22)"
  | pathTooLong => "path must be shorter than SUN_LEN"
  | nameTooLong => "abstract socket name must be shorter than SUN_LEN"
  | hasZero => "paths must not contain interior null bytes"

namespace Socket

def pathBound : Nat := 108

def isAbstract (path : String) : Bool :=
  path.toList.head? == some '\x00'

def pathFault? (path : String) : Option ConnectFault :=
  if isAbstract path then if pathBound < path.utf8ByteSize then some .nameTooLong else none
  else if path.toList.contains '\x00' then some .hasZero
  else if pathBound ≤ path.utf8ByteSize then some .pathTooLong
  else none

end Socket

end Enlistment.Control
