import Enlistment.Proofs.Cli.Arguments

/-!
What a mount runs with when the configuration file and the command line both have a say. The options
count more than the file, but they are put over a file that was read, checked and filled up without
them. So a file that is refused is refused under any options, and objects are cached where they
would have been stored without the option that says where to store them.
-/

namespace Enlistment

namespace MountConfig

def filled (layout : Layout) (file : ConfigFile) (cacheServer : Option Url) : MountConfig where
  layout
  socketPath := file.socketPath.getD layout.socket
  repositoryUrl := file.repositoryUrl.getD ""
  cacheServer
  localCacheRoot := file.localCacheRoot.getD (file.gitObjectsRoot.getD layout.gitObjects)
  gitObjectsRoot := file.gitObjectsRoot.getD layout.gitObjects
  pool := file.pool
  heartbeatInterval := file.heartbeatInterval.getD standardHeartbeat
  backgroundWorkers := file.backgroundWorkers.getD 1

theorem getD_one_eq_zero_iff (workers : Option Nat) : workers.getD 1 = 0 ↔ workers = some 0 := by
  cases workers <;> simp

variable {layout : Layout} {file : ConfigFile}

theorem resolve_of_refused {error : ConfigError}
    (refused : parseCacheServer file.cacheServerUrl = .error error) :
    resolve layout file = .error error := by
  simp [resolve, refused, bind, Except.bind]

theorem resolve_of_idle {server : Option Url}
    (read : parseCacheServer file.cacheServerUrl = .ok server)
    (idle : file.backgroundWorkers = some 0) :
    resolve layout file = .error .noWorkers := by
  simp [resolve, read, idle, bind, Except.bind, throw, throwThe, MonadExceptOf.throw]

theorem resolve_of_sound {server : Option Url}
    (read : parseCacheServer file.cacheServerUrl = .ok server)
    (staffed : file.backgroundWorkers ≠ some 0) :
    resolve layout file = .ok (filled layout file server) := by
  have some : ¬ file.backgroundWorkers.getD 1 = 0 := mt (getD_one_eq_zero_iff _).mp staffed
  simp [resolve, read, some, filled, bind, Except.bind, pure, Except.pure]

theorem eq_of_refused {text : Option String} {error : ConfigError}
    (refused : parseCacheServer text = .error error) : ∃ cause, error = .cacheServerUrl cause := by
  unfold parseCacheServer at refused
  split at refused
  · cases refused
  · cases refused
  · split at refused
    · cases refused
    · cases refused
      exact ⟨_, rfl⟩

theorem resolve_cases (layout : Layout) (file : ConfigFile) :
    (∃ error, parseCacheServer file.cacheServerUrl = .error error ∧
      resolve layout file = .error error) ∨
    (∃ server, parseCacheServer file.cacheServerUrl = .ok server ∧
      file.backgroundWorkers = some 0 ∧ resolve layout file = .error .noWorkers) ∨
    ∃ server, parseCacheServer file.cacheServerUrl = .ok server ∧
      file.backgroundWorkers ≠ some 0 ∧ resolve layout file = .ok (filled layout file server) := by
  cases read : parseCacheServer file.cacheServerUrl with
  | error error => exact .inl ⟨error, rfl, resolve_of_refused read⟩
  | ok server =>
      by_cases idle : file.backgroundWorkers = some 0
      · exact .inr (.inl ⟨server, rfl, idle, resolve_of_idle read idle⟩)
      · exact .inr (.inr ⟨server, rfl, idle, resolve_of_sound read idle⟩)

end MountConfig

namespace Cli

def MountArguments.replacing (arguments : MountArguments) (file : ConfigFile) : ConfigFile :=
  { file with
    socketPath := arguments.socket.or file.socketPath
    repositoryUrl := arguments.repositoryUrl.or file.repositoryUrl
    cacheServerUrl := arguments.cacheServerUrl.or file.cacheServerUrl
    gitObjectsRoot := arguments.gitObjectsRoot.or file.gitObjectsRoot
    backgroundWorkers := arguments.backgroundWorkers.or file.backgroundWorkers }

namespace MountArguments

/-- A key of the file has an effect although the command line replaces it. -/
inductive ShowsThrough (layout : Layout) (file : ConfigFile) (arguments : MountArguments) : Prop
  | cacheServer {error : ConfigError} (given : arguments.cacheServerUrl ≠ none)
      (refused : MountConfig.parseCacheServer file.cacheServerUrl = .error error)
  | workers {server : Option Url} {count : Nat}
      (read : MountConfig.parseCacheServer file.cacheServerUrl = .ok server)
      (idle : file.backgroundWorkers = some 0)
      (given : arguments.backgroundWorkers = some (count + 1))
  | cacheRoot {server : Option Url} {root : String}
      (read : MountConfig.parseCacheServer file.cacheServerUrl = .ok server)
      (staffed : file.backgroundWorkers ≠ some 0) (kept : arguments.backgroundWorkers ≠ some 0)
      (left : file.localCacheRoot = none) (given : arguments.gitObjectsRoot = some root)
      (moved : root ≠ file.gitObjectsRoot.getD layout.gitObjects)

def overlay (arguments : MountArguments) (config : MountConfig) : MountConfig :=
  { config with
    cacheServer := arguments.options.cacheServer.or config.cacheServer
    repositoryUrl := arguments.repositoryUrl.getD config.repositoryUrl
    gitObjectsRoot := arguments.gitObjectsRoot.getD config.gitObjectsRoot
    backgroundWorkers := arguments.backgroundWorkers.getD config.backgroundWorkers
    socketPath := arguments.socket.getD config.socketPath }

/-- A URL on the command line is read in any case, and the one of the file only if there is none. -/
theorem parseCacheServer_replacing (arguments : MountArguments) {file : ConfigFile}
    {server : Option Url} (read : arguments.cacheServerUrl = none →
      MountConfig.parseCacheServer file.cacheServerUrl = .ok server) :
    MountConfig.parseCacheServer (arguments.replacing file).cacheServerUrl =
      .ok (arguments.options.cacheServer.or server) := by
  have isUrl := arguments.isUrl
  cases given : arguments.cacheServerUrl with
  | none => simpa [replacing, options, given] using read given
  | some text =>
      rw [given, Option.all_some, Cli.isUrl] at isUrl
      -- The empty text would stand for no cache server.
      have nonempty : text ≠ "" := by
        rintro rfl
        exact absurd isUrl (by decide +kernel)
      cases parsed : Url.parse text with
      | error error => simp [parsed, Except.toOption] at isUrl
      | ok url =>
          simp [MountConfig.parseCacheServer, replacing, options, given, parsed, Except.toOption]

theorem backgroundWorkers_replacing_eq_iff (arguments : MountArguments) (file : ConfigFile) :
    (arguments.replacing file).backgroundWorkers = some 0 ↔
      arguments.backgroundWorkers = some 0 ∨
        arguments.backgroundWorkers = none ∧ file.backgroundWorkers = some 0 := by
  cases given : arguments.backgroundWorkers <;> simp [replacing, given]

variable {arguments : MountArguments} {layout : Layout} {file : ConfigFile}

/-- Over a sound file only the command line can ask for no workers. -/
theorem resolve_replacing {server : Option Url}
    (sound : MountConfig.parseCacheServer file.cacheServerUrl = .ok server)
    (staffed : file.backgroundWorkers ≠ some 0) :
    MountConfig.resolve layout (arguments.replacing file) =
      if arguments.backgroundWorkers = some 0 then .error .noWorkers
      else .ok (MountConfig.filled layout (arguments.replacing file)
        (arguments.options.cacheServer.or server)) := by
  have replaced := parseCacheServer_replacing arguments fun _ => sound
  have idle := backgroundWorkers_replacing_eq_iff arguments file
  simp only [staffed, and_false, or_false] at idle
  split
  · rename_i given
    exact MountConfig.resolve_of_idle replaced (idle.mpr given)
  · rename_i given
    exact MountConfig.resolve_of_sound replaced (mt idle.mp given)

/-- All that is filled up comes out as from the replaced keys, but for the local cache. -/
theorem overlay_filled (server : Option Url) :
    arguments.overlay (MountConfig.filled layout file server) =
      { MountConfig.filled layout (arguments.replacing file)
          (arguments.options.cacheServer.or server) with
        localCacheRoot := (MountConfig.filled layout file server).localCacheRoot } := by
  simp only [overlay, replacing, MountConfig.filled, MountConfig.mk.injEq, true_and]
  refine ⟨?_, ?_, ?_, ?_⟩
  · cases arguments.socket <;> rfl
  · cases arguments.repositoryUrl <;> rfl
  · cases arguments.gitObjectsRoot <;> rfl
  · cases arguments.backgroundWorkers <;> rfl

theorem configure_of_error {root : String} {source : ConfigSource} {error : ConfigError}
    (read : source.read = .ok file)
    (refused : MountConfig.resolve (Layout.below root) file = .error error) :
    arguments.options.configure (arguments.context root) source = .error error := by
  simp [MountOptions.configure, MountConfig.load, Context.layout, context, read, refused, bind,
    Except.bind]

theorem configure_of_ok {root : String} {source : ConfigSource} {own : MountConfig}
    (read : source.read = .ok file)
    (resolved : MountConfig.resolve (Layout.below root) file = .ok own) :
    arguments.options.configure (arguments.context root) source =
      if arguments.backgroundWorkers = some 0 then .error .noWorkers
      else .ok (arguments.overlay own) := by
  by_cases idle : arguments.backgroundWorkers = some 0
  · simp [MountOptions.configure, MountConfig.load, Context.layout, context, options, read,
      resolved, idle, bind, Except.bind, throw, throwThe, MonadExceptOf.throw]
  · simp [MountOptions.configure, MountConfig.load, Context.layout, context, options, overlay, read,
      resolved, idle, bind, Except.bind, pure, Except.pure]

theorem overlay_filled_eq_iff (server : Option Url) :
    arguments.overlay (MountConfig.filled layout file server) =
        MountConfig.filled layout (arguments.replacing file)
          (arguments.options.cacheServer.or server) ↔
      (file.localCacheRoot = none → ∀ root, arguments.gitObjectsRoot = some root →
        root = file.gitObjectsRoot.getD layout.gitObjects) := by
  rw [overlay_filled]
  simp only [replacing, MountConfig.filled, MountConfig.mk.injEq, true_and, and_true]
  cases file.localCacheRoot with
  | some cacheRoot => simp
  | none =>
      cases arguments.gitObjectsRoot with
      | none => simp
      | some root => simp [eq_comm]

theorem showsThrough_iff_of_refused {error : ConfigError}
    (refused : MountConfig.parseCacheServer file.cacheServerUrl = .error error) :
    arguments.ShowsThrough layout file ↔ arguments.cacheServerUrl ≠ none := by
  constructor
  · rintro (⟨given, _⟩ | ⟨read, _, _⟩ | ⟨read, _, _, _, _, _⟩)
    · exact given
    all_goals simp [refused] at read
  · exact fun given => .cacheServer given refused

theorem showsThrough_iff_of_idle {server : Option Url}
    (sound : MountConfig.parseCacheServer file.cacheServerUrl = .ok server)
    (idle : file.backgroundWorkers = some 0) :
    arguments.ShowsThrough layout file ↔ (arguments.replacing file).backgroundWorkers ≠ some 0 := by
  rw [Ne, backgroundWorkers_replacing_eq_iff, not_or, not_and]
  constructor
  · rintro (⟨_, refused⟩ | ⟨_, _, given⟩ | ⟨_, staffed, _, _, _, _⟩)
    · simp [sound] at refused
    · simp [given]
    · exact absurd idle staffed
  · rintro ⟨nonzero, absent⟩
    match given : arguments.backgroundWorkers with
    | none => exact absurd idle (absent given)
    | some 0 => exact absurd given nonzero
    | some (count + 1) => exact .workers sound idle given

theorem showsThrough_iff_of_sound {server : Option Url}
    (sound : MountConfig.parseCacheServer file.cacheServerUrl = .ok server)
    (staffed : file.backgroundWorkers ≠ some 0) :
    arguments.ShowsThrough layout file ↔
      arguments.backgroundWorkers ≠ some 0 ∧ arguments.overlay (.filled layout file server) ≠
        .filled layout (arguments.replacing file) (arguments.options.cacheServer.or server) := by
  rw [Ne, Ne, overlay_filled_eq_iff]
  constructor
  · rintro (⟨_, refused⟩ | ⟨_, idle, _⟩ | ⟨_, _, kept, left, given, moved⟩)
    · simp [sound] at refused
    · exact absurd idle staffed
    · exact ⟨kept, fun same => moved (same left _ given)⟩
  · rintro ⟨kept, differs⟩
    simp only [Classical.not_forall] at differs
    obtain ⟨left, root, given, moved⟩ := differs
    exact .cacheRoot sound staffed kept left given moved

section Agreement

variable {root : String} {source : ConfigSource} (read : source.read = .ok file)

include read

theorem configure_eq_resolve_iff :
    arguments.options.configure (arguments.context root) source =
        MountConfig.resolve (Layout.below root) (arguments.replacing file) ↔
      ¬ arguments.ShowsThrough (Layout.below root) file := by
  rcases MountConfig.resolve_cases (Layout.below root) file with
    ⟨error, refused, resolved⟩ | ⟨server, sound, idle, resolved⟩ |
      ⟨server, sound, staffed, resolved⟩
  · rw [configure_of_error read resolved, showsThrough_iff_of_refused refused, Decidable.not_not]
    by_cases given : arguments.cacheServerUrl = none
    · have same : MountConfig.parseCacheServer (arguments.replacing file).cacheServerUrl =
          .error error := by
        simpa [replacing, given] using refused
      rw [MountConfig.resolve_of_refused same]
      simp [given]
    · have replaced : MountConfig.parseCacheServer (arguments.replacing file).cacheServerUrl =
          .ok (arguments.options.cacheServer.or none) :=
        parseCacheServer_replacing arguments fun absent => absurd absent given
      obtain ⟨cause, rfl⟩ := MountConfig.eq_of_refused refused
      by_cases idle : (arguments.replacing file).backgroundWorkers = some 0
      · rw [MountConfig.resolve_of_idle replaced idle]
        simp [given]
      · rw [MountConfig.resolve_of_sound replaced idle]
        simp [given]
  · have replaced := parseCacheServer_replacing arguments fun _ => sound
    rw [configure_of_error read resolved, showsThrough_iff_of_idle sound idle, Decidable.not_not]
    by_cases still : (arguments.replacing file).backgroundWorkers = some 0
    · rw [MountConfig.resolve_of_idle replaced still]
      simp [still]
    · rw [MountConfig.resolve_of_sound replaced still]
      simp [still]
  · rw [configure_of_ok read resolved, resolve_replacing sound staffed,
      showsThrough_iff_of_sound sound staffed]
    by_cases idle : arguments.backgroundWorkers = some 0
    · simp [idle]
    · simp [idle]

theorem configure_eq :
    arguments.options.configure (arguments.context root) source = (do
      let own ← MountConfig.resolve (Layout.below root) file
      let full ← MountConfig.resolve (Layout.below root) (arguments.replacing file)
      pure { full with localCacheRoot := own.localCacheRoot }) := by
  rcases MountConfig.resolve_cases (Layout.below root) file with
    ⟨error, _, refused⟩ | ⟨_, _, _, refused⟩ | ⟨server, sound, staffed, resolved⟩
  · rw [configure_of_error read refused, refused]
    rfl
  · rw [configure_of_error read refused, refused]
    rfl
  · rw [configure_of_ok read resolved, resolved, resolve_replacing sound staffed, overlay_filled]
    by_cases idle : arguments.backgroundWorkers = some 0
    · rw [if_pos idle, if_pos idle]
      rfl
    · rw [if_neg idle, if_neg idle]
      rfl

end Agreement

/-- Over a file that can be read, and under any arguments, a mount runs with what the file gives
with the keys replaced that the arguments give, except that the file has to pass with its own keys
first and that these also decide on the local cache. This makes a difference exactly if one of the
replaced keys shows through. Any command line that mounts says what some arguments do. -/
theorem configure_replaces_unless_shown_through {source : ConfigSource} {file : ConfigFile}
    (read : source.read = .ok file) :
    (∀ (arguments : MountArguments) (root : String),
      let layout := Layout.below root
      let configured := arguments.options.configure (arguments.context root) source
      let replaced := MountConfig.resolve layout (arguments.replacing file)
      (configured = do
        let own ← MountConfig.resolve layout file
        let full ← replaced
        pure { full with localCacheRoot := own.localCacheRoot }) ∧
      (configured = replaced ↔ ¬ arguments.ShowsThrough layout file)) ∧
    ∀ (environment : Environment) (words : List String) (invocation : Invocation)
      (options : MountOptions), parse environment words = .ok invocation →
      invocation.command = .mount options →
      ∃ arguments : MountArguments, arguments.options = options ∧ ∀ currentFolder,
        Context.ofInvocation currentFolder invocation =
          arguments.context (invocation.enlistment.getD currentFolder) := by
  constructor
  · intro arguments root
    exact ⟨configure_eq read, configure_eq_resolve_iff read⟩
  · intro environment words invocation options parsed mounts
    exact exists_arguments_of_parse parsed mounts

/-- All that a command line can give, over a file with a local cache of its own. -/
theorem configure_over_local_cache :
    let file := { ConfigFile.empty with
      repositoryUrl := some "old", localCacheRoot := some "/cache", backgroundWorkers := some 3 }
    let source := ConfigSource.text
      "repo_url = \"old\"\nlocal_cache_root = \"/cache\"\nbackground_workers = 3\n"
    let arguments : MountArguments :=
      ⟨some "cache://server/objects", by decide +kernel, some "new", some "/objects", some 2,
        some "/run/mount.sock"⟩
    (parse [] ["mount", "--cache-server-url", "cache://server/objects", "--repo-url", "new",
      "--git-objects-root=/objects", "--background-workers", "2", "--socket", "/run/mount.sock"]
      ).toOption = some ⟨none, arguments.socket, .mount arguments.options⟩ ∧
    source.read = .ok file ∧
    arguments.options.configure (arguments.context "/repo") source =
      MountConfig.resolve (Layout.below "/repo") (arguments.replacing file) := by
  intro file source arguments
  have parsed : ConfigFile.parse
      "repo_url = \"old\"\nlocal_cache_root = \"/cache\"\nbackground_workers = 3\n" =
        some file := by
    decide +kernel
  have read : source.read = .ok file := by
    simp only [source, ConfigSource.read, parsed]
  obtain ⟨replaces, _⟩ := configure_replaces_unless_shown_through read
  refine ⟨by decide +kernel, read, (replaces arguments "/repo").2.mpr ?_⟩
  rintro (⟨_, refused⟩ | ⟨_, idle, _⟩ | ⟨_, _, _, left, _, _⟩)
  · cases refused
  · cases idle
  · cases left

theorem read_empty_content : (ConfigSource.text "").read = .ok .empty := by
  have parsed : ConfigFile.parse "" = some .empty := by decide +kernel
  simp only [ConfigSource.read, parsed]

/-- Objects are stored where the command line says, and cached where they would have been stored.
A file without content is like none. -/
theorem local_cache_stays_behind_objects_root :
    let arguments : MountArguments := ⟨none, rfl, none, some "/objects", none, none⟩
    (∀ source ∈ [ConfigSource.absent, .text ""],
      source.read = .ok .empty ∧
      (arguments.options.configure (arguments.context "/repo") source).toOption.map
        (fun config => (config.gitObjectsRoot, config.localCacheRoot)) =
          some ("/objects", "/repo/.git/objects")) ∧
    (MountConfig.resolve (Layout.below "/repo") (arguments.replacing .empty)).toOption.map
      (fun config => (config.gitObjectsRoot, config.localCacheRoot)) =
        some ("/objects", "/objects") := by
  refine ⟨?_, by decide +kernel⟩
  intro source listed
  have read : source.read = .ok .empty := by
    simp only [List.mem_cons, List.not_mem_nil, or_false] at listed
    rcases listed with rfl | rfl
    · rfl
    · exact read_empty_content
  refine ⟨read, ?_⟩
  rw [configure_eq read]
  decide +kernel

end MountArguments

end Cli

end Enlistment
