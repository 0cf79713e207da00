import Enlistment.Cli.Arguments
import Enlistment.Control.Client
import Enlistment.Mount.State

/-!
What a command prints, and the code that it exits with.
-/

namespace Enlistment.Cli

open Control

structure CommandResult where
  code : Nat
  output : String
  errors : String
deriving DecidableEq

namespace Style

def escape : String := "\x1b["

def bold (text : String) : String := escape ++ "1m" ++ text ++ escape ++ "0m"

def dimmed (text : String) : String := escape ++ "2m" ++ text ++ escape ++ "0m"

def red (text : String) : String := escape ++ "31m" ++ text ++ escape ++ "39m"

def green (text : String) : String := escape ++ "32m" ++ text ++ escape ++ "39m"

def yellow (text : String) : String := escape ++ "33m" ++ text ++ escape ++ "39m"

end Style

namespace CommandResult

def misuse : CommandResult := ⟨2, "", ""⟩

def success (text : String) : CommandResult :=
  ⟨ExitCode.success.value, if text.isEmpty then "" else text ++ "\n", ""⟩

def failure (chain : List String) : CommandResult :=
  ⟨ExitCode.genericError.value, "", "Error: " ++ ": ".intercalate chain⟩

def version : CommandResult := success "vgit 0.1.0"

def mountEnded (root : String) (code : ExitCode) : CommandResult :=
  let outcome :=
    match code with
    | .success => Style.green "unmounted"
    | other => Style.red "stopped" ++ " (exit code " ++ toString other.value ++ ")"
  ⟨code.value, root ++ " " ++ outcome ++ "\n", ""⟩

/-- The process was ended by a signal, which a shell reports as 134. -/
def aborted : CommandResult := ⟨134, "", ""⟩

def ofStop : Stop → CommandResult
  | .misuse => misuse
  | .showHelp => success ""
  | .showVersion => version

end CommandResult

def clientCauses : ClientError → List String
  | .connect _ fault => [fault.message]
  | _ => []

def clientFailure (error : ClientError) : CommandResult :=
  let text := error.message?.getD "io error"
  .failure (("mount is not running: " ++ text) :: text :: clientCauses error)

def configChain (path : String) : ConfigError → List String
  | .unreadable fault => ["failed to read " ++ path ++ ": " ++ fault.message, fault.message]
  | .malformed => ["failed to parse " ++ path]
  | .cacheServerUrl error => ["cache server url is invalid: " ++ error.message, error.message]
  | .noWorkers => ["background_workers must be at least 1"]

def configFailure (path : String) (error : ConfigError) : CommandResult :=
  match configChain path error with
  | [] => .failure []
  | first :: causes => .failure (("config error: " ++ first) :: first :: causes)

def stateText (state : MountState) : String :=
  match state with
  | .ready => Style.green state.name
  | .mounting => Style.yellow state.name
  | .unmounting => Style.yellow state.name
  | .mountFailed => Style.red state.name

def describe (report : StatusReport) : String :=
  let line (label value : String) : String := "  " ++ Style.dimmed label ++ " " ++ value
  "\n".intercalate [
    Style.bold "Mount status:" ++ " " ++ stateText report.mountStatus,
    line "enlistment:" report.enlistmentRoot,
    line "repo url:" report.repositoryUrl,
    line "cache server:" report.cacheServer,
    line "local cache:" report.localCacheRoot,
    line "lock:" report.lockStatus,
    line "background operations:" (toString report.backgroundOperationCount),
    line "disk layout version:" report.diskLayoutVersion]

end Enlistment.Cli
