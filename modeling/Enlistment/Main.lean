import Enlistment.Cli.Session

/-!
The command line. A mount answers the lines of its standard input and keeps its tables in memory;
the other commands find no mount to connect to.
-/

namespace Enlistment.Cli

open Control

def optionVariables : List String :=
  mountLevel.options.filterMap (·.variableName)

def readEnvironment : IO Environment :=
  optionVariables.filterMapM fun name => do
    return (← IO.getEnv name).map fun value => (name, value)

def readSource (path : String) : IO ConfigSource := do
  match ← (IO.FS.readBinFile path).toBaseIO with
  | .ok bytes => return .ofBytes bytes
  | .error (.noFileOrDirectory ..) => return .absent
  | .error _ => return .unreadable (.file .isADirectory)

partial def serveLines (input output : IO.FS.Stream) (daemon : Daemon) : IO ExitCode := do
  match readLine true (← input.getLine).toUTF8 0 with
  | .line found =>
      let answered := daemon.handle (fun _ => false) (Message.fromLine found.text) .steady
      for answer in answered.peer.lines do
        output.putStrLn answer
      output.flush
      match answered.daemon.exitCode with
      | some code => return code
      | none => serveLines input output answered.daemon
  | _ => return .success

def runMount (context : Context) (options : MountOptions) : IO CommandResult := do
  match options.configure context (← readSource context.layout.config) with
  | .error error => return configFailure context.layout.config error
  | .ok config =>
      let (_, _, started) := (Daemon.mounting (Machine.infoOf config)).startPipeline
        config.pool.sizes Tables.empty
      let (_, ready) := Machine.becomeReady started
      let code ← serveLines (← IO.getStdin) (← IO.getStdout) ready
      return .mountEnded context.enlistmentRoot code

def runCommandLine (arguments : List String) : IO CommandResult := do
  match parse (← readEnvironment) arguments with
  | .error reason => return .ofStop reason
  | .ok invocation =>
      let context := Context.ofInvocation (toString (← IO.currentDir)) invocation
      match invocation.command with
      | .mount options => runMount context options
      | .client _ =>
          let path := context.socketPath (← readSource context.layout.config)
          return clientFailure (.connect path (.file .notFound))

end Enlistment.Cli

def main (arguments : List String) : IO UInt32 := do
  let result ← Enlistment.Cli.runCommandLine arguments
  IO.print result.output
  if !result.errors.isEmpty then IO.eprintln result.errors
  return result.code.toUInt32
