import Enlistment.Path.Names

/-!
Where an enlistment keeps what belongs to its mount.
-/

namespace Enlistment

structure Layout where
  enlistmentRoot : String
  dotFolder : String
  database : String
  logs : String
  config : String
  socket : String
  gitObjects : String
deriving DecidableEq

def Layout.below (root : String) : Layout :=
  let dotFolder := Path.join root ".vgit"
  { enlistmentRoot := root
    dotFolder
    database := Path.join (Path.join dotFolder "databases") "vgit.sqlite"
    logs := Path.join dotFolder "logs"
    config := Path.join dotFolder "mount.toml"
    socket := Path.join dotFolder "mount.sock"
    gitObjects := Path.join (Path.join root ".git") "objects" }

end Enlistment
