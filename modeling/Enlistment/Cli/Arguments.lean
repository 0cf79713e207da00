import Enlistment.Config

/-!
The words of a command line. Options may stand before the command or behind it, each once; behind it
they count more, and the environment counts least.
-/

namespace Enlistment.Cli

structure MountOptions where
  cacheServer : Option Url
  repositoryUrl : Option String
  gitObjectsRoot : Option String
  backgroundWorkers : Option Nat
deriving DecidableEq

inductive ClientCommand where
  | status (asJson : Bool)
  | unmount
  | modifiedPaths (asJson : Bool)
deriving DecidableEq

inductive Command where
  | mount (options : MountOptions)
  | client (command : ClientCommand)
deriving DecidableEq

inductive Stop where
  | misuse
  | showHelp
  | showVersion
deriving DecidableEq

structure Invocation where
  enlistment : Option String
  socket : Option String
  command : Command
deriving DecidableEq

structure OptionRule where
  name : String
  letter : Option Char
  variableName : Option String
  accepts : String → Bool

structure Level where
  options : List OptionRule
  switches : List String
  hasVersion : Bool

abbrev Given := List (String × String)

inductive Word where
  | switch (name : String)
  | attached (option : OptionRule) (value : String)
  | awaiting (option : OptionRule)
  | plain
  | stop (reason : Stop)

def dropEquals : List Char → List Char
  | '=' :: rest => rest
  | rest => rest

def Level.longWord (text : List Char) (level : Level) : Word :=
  let name := String.ofList (text.takeWhile (· != '='))
  let value := text.dropWhile (· != '=')
  match level.options.find? (·.name == name) with
  | some option =>
      if value.isEmpty then .awaiting option
      else .attached option (String.ofList (value.drop 1))
  | none =>
      if !value.isEmpty then .stop .misuse
      else if name == "help" then .stop .showHelp
      else if name == "version" && level.hasVersion then .stop .showVersion
      else if level.switches.contains name then .switch name
      else .stop .misuse

def Level.shortWord (letter : Char) (more : List Char) (level : Level) : Word :=
  match level.options.find? (·.letter == some letter) with
  | some option =>
      if more.isEmpty then .awaiting option else .attached option (String.ofList (dropEquals more))
  | none =>
      if letter == 'h' then .stop .showHelp
      else if letter == 'V' && level.hasVersion then .stop .showVersion
      else .stop .misuse

def Level.word (argument : String) (level : Level) : Word :=
  match argument.toList with
  | '-' :: '-' :: rest => level.longWord rest
  | '-' :: letter :: rest => level.shortWord letter rest
  | _ => .plain

def looksLikeOption (argument : String) : Bool :=
  match argument.toList with
  | '-' :: _ :: _ => true
  | _ => false

def isGiven (name : String) (given : Given) : Bool :=
  (given.lookup name).isSome

def admits (option : OptionRule) (value : String) (given : Given) : Bool :=
  !isGiven option.name given && option.accepts value

def Level.read (level : Level) (given : Given) : List String → Except Stop (Given × List String)
  | [] => .ok (given, [])
  | argument :: rest =>
      if argument == "--" then
        if rest.isEmpty then .ok (given, []) else .error .misuse
      else
        match level.word argument with
        | .plain => .ok (given, argument :: rest)
        | .stop reason => .error reason
        | .switch name =>
            if isGiven name given then .error .misuse
            else Level.read level ((name, "") :: given) rest
        | .attached option value =>
            if admits option value given then Level.read level ((option.name, value) :: given) rest
            else .error .misuse
        | .awaiting option =>
            match rest with
            | [] => .error .misuse
            | value :: rest =>
                if !looksLikeOption value && admits option value given then
                  Level.read level ((option.name, value) :: given) rest
                else .error .misuse

def workerBound : Nat := 0x10000000000000000

def parseCount? (text : String) : Option Nat :=
  let digits :=
    match text.toList with
    | '+' :: rest => rest
    | rest => rest
  if digits.isEmpty || !digits.all Char.isDigit then none
  else
    let count := Text.valueOf 10 digits
    if count < workerBound then some count else none

def isUrl (text : String) : Bool :=
  (Url.parse text).toOption.isSome

def isNotEmpty (text : String) : Bool :=
  !text.isEmpty

def enlistmentRule : OptionRule :=
  ⟨"enlistment", some 'e', some "VGIT_ENLISTMENT", isNotEmpty⟩

def socketRule : OptionRule :=
  ⟨"socket", none, some "VGIT_SOCKET", isNotEmpty⟩

def cacheServerRule : OptionRule :=
  ⟨"cache-server-url", none, some "VGIT_CACHE_SERVER_URL", isUrl⟩

def repositoryUrlRule : OptionRule :=
  ⟨"repo-url", none, none, fun _ => true⟩

def gitObjectsRootRule : OptionRule :=
  ⟨"git-objects-root", none, none, isNotEmpty⟩

def backgroundWorkersRule : OptionRule :=
  ⟨"background-workers", none, none, fun text => (parseCount? text).isSome⟩

def globalOptions : List OptionRule :=
  [enlistmentRule, socketRule]

def topLevel : Level :=
  ⟨globalOptions, [], true⟩

def mountLevel : Level :=
  ⟨globalOptions ++ [cacheServerRule, repositoryUrlRule, gitObjectsRootRule, backgroundWorkersRule],
    [], false⟩

def jsonLevel : Level :=
  ⟨globalOptions, ["json"], false⟩

def plainLevel : Level :=
  ⟨globalOptions, [], false⟩

def levelOf? : String → Option Level
  | "mount" => some mountLevel
  | "status" => some jsonLevel
  | "unmount" => some plainLevel
  | "modified-paths" => some jsonLevel
  | _ => none

abbrev Environment := List (String × String)

def valueAt (option : OptionRule) (environment : Environment) (given : Given) :
    Except Stop (Option String) :=
  match given.lookup option.name, option.variableName.bind fun name => environment.lookup name with
  | some value, _ => .ok (some value)
  | none, none => .ok none
  | none, some value => if option.accepts value then .ok (some value) else .error .misuse

/-- The value of a global option. At each level a variable that stands in has to be sound, even if
the other level gives the value. -/
def globalValue (option : OptionRule) (environment : Environment) (above behind : Given) :
    Except Stop (Option String) := do
  let outer ← valueAt option environment above
  let inner ← valueAt option environment behind
  pure (if isGiven option.name behind || !isGiven option.name above then inner else outer)

def commandOf (name : String) (environment : Environment) (given : Given) :
    Except Stop Command := do
  let asJson := isGiven "json" given
  match name with
  | "mount" =>
      let cacheServer ← valueAt cacheServerRule environment given
      pure (.mount {
        cacheServer := cacheServer.bind fun text => (Url.parse text).toOption
        repositoryUrl := given.lookup repositoryUrlRule.name
        gitObjectsRoot := given.lookup gitObjectsRootRule.name
        backgroundWorkers := (given.lookup backgroundWorkersRule.name).bind parseCount? })
  | "status" => pure (.client (.status asJson))
  | "unmount" => pure (.client .unmount)
  | "modified-paths" => pure (.client (.modifiedPaths asJson))
  | _ => throw .misuse

def readHelp : List String → Stop
  | [] => .showHelp
  | [name] => if name == "help" || (levelOf? name).isSome then .showHelp else .misuse
  | _ => .misuse

def parse (environment : Environment) (arguments : List String) : Except Stop Invocation := do
  let (above, rest) ← topLevel.read [] arguments
  match rest with
  | [] => throw .misuse
  | name :: rest =>
      if name == "help" then throw (readHelp rest)
      else
        match levelOf? name with
        | none => throw .misuse
        | some level =>
            let (behind, left) ← level.read [] rest
            if !left.isEmpty then throw .misuse
            let command ← commandOf name environment behind
            pure { enlistment := ← globalValue enlistmentRule environment above behind
                   socket := ← globalValue socketRule environment above behind
                   command }

end Enlistment.Cli
