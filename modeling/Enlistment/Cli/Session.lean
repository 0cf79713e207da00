import Enlistment.Cli.Context
import Enlistment.Machine

/-!
Command lines run on a machine. A command that mounts keeps running until its mount is asked to exit.
-/

namespace Enlistment.Cli

structure MountProcess where
  mount : Nat
  context : Context
deriving DecidableEq

def runClient (context : Context) (command : ClientCommand) (machine : Machine) :
    CommandResult × Machine :=
  let name := "command"
  let path := context.socketPath (machine.configSource context.layout)
  match machine.connect name path with
  | (.error fault, after) => (clientFailure (.connect path fault), after)
  | (.ok _, connected) =>
      let (result, after) := command.run (Machine.transport name) context connected
      (result, (after.close name).2)

def startMount (context : Context) (options : MountOptions) (machine : Machine) :
    Except CommandResult MountProcess × Machine :=
  let (made, files) := machine.files.createFolders .sound machine.folder context.layout.logs
  let logging := { machine with files }
  match made with
  | .error fault => (.error (.failure ["failed to set up logging: " ++ fault.message]), logging)
  | .ok _ =>
      match options.configure context (logging.configSource context.layout) with
      | .error error => (.error (configFailure context.layout.config error), logging)
      | .ok config =>
          match logging.startMount config [] with
          | (.ok mount, after) => (.ok ⟨mount, context⟩, after)
          | (.error (.error _), after) =>
              (.error (.mountEnded context.enlistmentRoot .genericError), after)
          | (.error (.abort _), after) => (.error .aborted, after)

def run (currentFolder : String) (environment : Environment) (arguments : List String)
    (machine : Machine) : Except CommandResult MountProcess × Machine :=
  match parse environment arguments with
  | .error reason => (.error (.ofStop reason), machine)
  | .ok invocation =>
      let context := Context.ofInvocation currentFolder invocation
      match invocation.command with
      | .mount options => startMount context options machine
      | .client command =>
          let (result, after) := runClient context command machine
          (.error result, after)

def MountProcess.finish? (process : MountProcess) (machine : Machine) :
    Option (CommandResult × Machine) :=
  match (machine.mounts[process.mount]?).bind (·.daemon.exitCode) with
  | none => none
  | some code =>
      let (_, ended) := machine.endMount process.mount
      some (.mountEnded process.context.enlistmentRoot code, ended.hangUp process.mount)

end Enlistment.Cli
