import Enlistment.Cli.Context
import Enlistment.Proofs.Files.Places
import Mathlib.Data.List.Nodup

/-!
What a command line can say of a mount. Every value that is read for an option was accepted by that
option, so what stands for the URL of the cache server on a command line that is taken is a URL.
-/

namespace Enlistment.Cli

def Word.Fits (level : Level) : Word → Prop
  | .attached option _ => option ∈ level.options
  | .awaiting option => option ∈ level.options
  | .switch name => ∀ option ∈ level.options, option.name ≠ name
  | .plain => True
  | .stop _ => True

namespace Level

theorem fits_longWord (text : List Char) (level : Level) : (level.longWord text).Fits level := by
  unfold longWord
  simp only
  split
  · rename_i option found
    have listed := List.mem_of_find?_eq_some found
    split <;> exact listed
  · rename_i unknown
    split
    · trivial
    · split
      · trivial
      · split
        · trivial
        · split
          · intro option listed same
            exact List.find?_eq_none.mp unknown option listed (beq_iff_eq.mpr same)
          · trivial

theorem fits_shortWord (letter : Char) (more : List Char) (level : Level) :
    (level.shortWord letter more).Fits level := by
  unfold shortWord
  split
  · rename_i option found
    have listed := List.mem_of_find?_eq_some found
    split <;> exact listed
  · split
    · trivial
    · split <;> trivial

theorem fits_word (argument : String) (level : Level) : (level.word argument).Fits level := by
  unfold word
  split
  · exact fits_longWord _ level
  · exact fits_shortWord _ _ level
  · trivial

def Accepted (level : Level) (given : Given) : Prop :=
  ∀ option ∈ level.options, ∀ value, given.lookup option.name = some value →
    option.accepts value = true

theorem accepted_nil (level : Level) : level.Accepted [] := by
  intro option _ value found
  cases found

variable {level : Level} {given : Given}

theorem Accepted.switch (accepted : level.Accepted given) {name : String}
    (other : ∀ option ∈ level.options, option.name ≠ name) :
    level.Accepted ((name, "") :: given) := by
  intro option listed value found
  rw [List.lookup_cons, beq_false_of_ne (other option listed)] at found
  exact accepted option listed value found

theorem Accepted.option (accepted : level.Accepted given)
    (distinct : (level.options.map OptionRule.name).Nodup) {option : OptionRule}
    (listed : option ∈ level.options) {value : String}
    (admitted : admits option value given = true) :
    level.Accepted ((option.name, value) :: given) := by
  intro other known text found
  rw [List.lookup_cons] at found
  by_cases same : other.name = option.name
  · obtain rfl := List.inj_on_of_nodup_map distinct known listed same
    rw [beq_self_eq_true, Option.some.injEq] at found
    rw [← found]
    exact (Bool.and_eq_true_iff.mp admitted).2
  · rw [beq_false_of_ne same] at found
    exact accepted other known text found

theorem accepted_of_read (distinct : (level.options.map OptionRule.name).Nodup)
    {arguments rest : List String} {result : Given} (accepted : level.Accepted given)
    (read : level.read given arguments = .ok (result, rest)) : level.Accepted result := by
  fun_induction Level.read level given arguments with
  -- The arguments end, or a plain word comes.
  | case1 | case2 | case4 =>
      cases read
      exact accepted
  | case3 | case5 | case6 | case9 | case10 | case12 => cases read
  | case7 given argument rest _ name word _ ih =>
      have other := fits_word argument level
      rw [word] at other
      exact ih (accepted.switch other) read
  | case8 given argument rest _ option value word admitted ih =>
      have listed := fits_word argument level
      rw [word] at listed
      exact ih (accepted.option distinct listed admitted) read
  | case11 given argument _ option word value rest admitted ih =>
      have listed := fits_word argument level
      rw [word] at listed
      exact ih (accepted.option distinct listed (Bool.and_eq_true_iff.mp admitted).2) read

end Level

theorem accepts_of_valueAt {option : OptionRule} {environment : Environment} {given : Given}
    (accepted : ∀ value, given.lookup option.name = some value → option.accepts value = true)
    {value : String} (found : valueAt option environment given = .ok (some value)) :
    option.accepts value = true := by
  unfold valueAt at found
  split at found
  · rename_i text listed
    cases found
    exact accepted _ listed
  · cases found
  · split at found
    · rename_i sound
      cases found
      exact sound
    · cases found

structure MountArguments where
  cacheServerUrl : Option String
  isUrl : cacheServerUrl.all isUrl = true
  repositoryUrl : Option String
  gitObjectsRoot : Option String
  backgroundWorkers : Option Nat
  socket : Option String

namespace MountArguments

def options (arguments : MountArguments) : MountOptions where
  cacheServer := arguments.cacheServerUrl.bind fun text => (Url.parse text).toOption
  repositoryUrl := arguments.repositoryUrl
  gitObjectsRoot := arguments.gitObjectsRoot
  backgroundWorkers := arguments.backgroundWorkers

def context (arguments : MountArguments) (enlistmentRoot : String) : Context :=
  ⟨enlistmentRoot, arguments.socket⟩

end MountArguments

theorem mountLevel_distinct : (mountLevel.options.map OptionRule.name).Nodup := by
  decide

/-- A command is asked for by its name, with what was read at the level of that name. -/
theorem exists_of_parse {environment : Environment} {words : List String} {invocation : Invocation}
    (parsed : parse environment words = .ok invocation) :
    ∃ name level behind given left, levelOf? name = some level ∧
      level.read [] behind = .ok (given, left) ∧
      commandOf name environment given = .ok invocation.command := by
  unfold parse at parsed
  obtain ⟨⟨above, words⟩, _, parsed⟩ := exists_of_bind_eq_ok parsed
  simp only at parsed
  split at parsed
  · cases parsed
  · rename_i name behind _
    split at parsed
    · cases parsed
    · split at parsed
      · cases parsed
      · rename_i level known
        obtain ⟨⟨given, left⟩, read, parsed⟩ := exists_of_bind_eq_ok parsed
        simp only at parsed
        split at parsed
        · cases parsed
        · obtain ⟨command, asked, parsed⟩ := exists_of_bind_eq_ok parsed
          obtain ⟨enlistment, _, parsed⟩ := exists_of_bind_eq_ok parsed
          obtain ⟨socket, _, parsed⟩ := exists_of_bind_eq_ok parsed
          cases parsed
          exact ⟨name, level, behind, given, left, known, read, asked⟩

theorem exists_url_of_commandOf {name : String} {level : Level} {behind left : List String}
    {environment : Environment} {given : Given} {options : MountOptions}
    (known : levelOf? name = some level) (read : level.read [] behind = .ok (given, left))
    (asked : commandOf name environment given = .ok (.mount options)) :
    ∃ url : Option String, url.all isUrl = true ∧
      options.cacheServer = url.bind fun text => (Url.parse text).toOption := by
  unfold commandOf at asked
  simp only at asked
  split at asked
  · obtain rfl : mountLevel = level := Option.some.inj known
    have accepted := Level.accepted_of_read mountLevel_distinct (Level.accepted_nil _) read
    obtain ⟨url, found, asked⟩ := exists_of_bind_eq_ok asked
    cases asked
    refine ⟨url, ?_, rfl⟩
    cases url with
    | none => rfl
    | some text =>
        have listed : cacheServerRule ∈ mountLevel.options := by simp [mountLevel]
        exact accepts_of_valueAt (accepted cacheServerRule listed) found
  all_goals cases asked

/-- A command line that mounts says what some arguments do. -/
theorem exists_arguments_of_parse {environment : Environment} {words : List String}
    {invocation : Invocation} {options : MountOptions}
    (parsed : parse environment words = .ok invocation)
    (mounts : invocation.command = .mount options) :
    ∃ arguments : MountArguments, arguments.options = options ∧ ∀ currentFolder,
      Context.ofInvocation currentFolder invocation =
        arguments.context (invocation.enlistment.getD currentFolder) := by
  obtain ⟨name, level, behind, given, left, known, read, asked⟩ := exists_of_parse parsed
  rw [mounts] at asked
  obtain ⟨url, isUrl, server⟩ := exists_url_of_commandOf known read asked
  refine ⟨⟨url, isUrl, options.repositoryUrl, options.gitObjectsRoot, options.backgroundWorkers,
    invocation.socket⟩, ?_, fun currentFolder => rfl⟩
  rw [MountArguments.options, ← server]

end Enlistment.Cli
