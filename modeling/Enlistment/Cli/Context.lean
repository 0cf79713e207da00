import Enlistment.Cli.Report
import Enlistment.Json.Writer

/-!
Commands in an enlistment: with which configuration a mount is started, and how the other commands
talk to a mount.
-/

namespace Enlistment.Cli

open Control

structure Context where
  enlistmentRoot : String
  socket : Option String
deriving DecidableEq

def Context.ofInvocation (currentFolder : String) (invocation : Invocation) : Context :=
  ⟨invocation.enlistment.getD currentFolder, invocation.socket⟩

def Context.layout (context : Context) : Layout :=
  Layout.below context.enlistmentRoot

def Context.socketPath (source : ConfigSource) (context : Context) : String :=
  match context.socket, MountConfig.load context.layout source with
  | some path, _ => path
  | none, .ok config => config.socketPath
  | none, .error _ => context.layout.socket

def MountOptions.configure (context : Context) (source : ConfigSource) (options : MountOptions) :
    Except ConfigError MountConfig := do
  let config ← MountConfig.load context.layout source
  if options.backgroundWorkers = some 0 then throw .noWorkers
  pure { config with
    cacheServer := options.cacheServer.or config.cacheServer
    repositoryUrl := options.repositoryUrl.getD config.repositoryUrl
    gitObjectsRoot := options.gitObjectsRoot.getD config.gitObjectsRoot
    backgroundWorkers := options.backgroundWorkers.getD config.backgroundWorkers
    socketPath := context.socket.getD config.socketPath }

def reportStatus (asJson : Bool) (report : StatusReport) : CommandResult :=
  .success (if asJson then report.toIndentedJson else describe report)

def reportUnmount (context : Context) : UnmountResult → CommandResult
  | .completed => .success (context.enlistmentRoot ++ " " ++ Style.green "unmounted")
  | .alreadyUnmounting =>
      .success (context.enlistmentRoot ++ " " ++ Style.yellow "is already unmounting")
  | refusal => .failure ["unmount refused: " ++ WireCode.spelling refusal]

def reportPaths (asJson : Bool) (entries : List String) : CommandResult :=
  let sorted := entries.mergeSort fun left right => left ≤ right
  .success (if asJson then String.ofList (Json.writeIndentedArray (sorted.map Json.quote))
    else "\n".intercalate sorted)

def ClientCommand.converse {State : Type} (transport : Transport State) (context : Context) :
    ClientCommand → Conversation State CommandResult
  | .status asJson => do return reportStatus asJson (← transport.getStatus)
  | .unmount => do return reportUnmount context (← transport.unmount)
  | .modifiedPaths asJson => do return reportPaths asJson (← transport.modifiedPaths)

def ClientCommand.run {State : Type} (transport : Transport State) (context : Context)
    (command : ClientCommand) (state : State) : CommandResult × State :=
  match (command.converse transport context).run state with
  | (.ok result, after) => (result, after)
  | (.error error, after) => (clientFailure error, after)

end Enlistment.Cli
