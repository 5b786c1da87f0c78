import Mathlib.Data.Nat.Digits.Lemmas
import Pam.Foundation.Codec
import Pam.Manager.Commands

namespace Pam.Manager

open Pam.Foundation Option Nat

/-! The worker count of a launch command: what `start` reads of it, and what the
manager's edits make of it. -/

def parsePositive (value : String) : Option Nat :=
  (parseUnsigned (2 ^ 64) value.toList).filter (0 < ·)

def isWord (argument : String) : Bool := argument.toList.head? != some '-'

/-- The options of `start` that take a value, but for the worker count. No
command of the manager has `--pool`. -/
def valuedOptions : List String := ["--max-requests", "--graceful-timeout", "--startup-timeout",
    "--restart-backoff", "--watchdog-grace", "--admin-address",
    "--state-file", "--ingress-address", "--php-extension"]

def startLimit (workers : Nat) : Option Nat := if 256 < workers then none else some workers

/-- The worker count of `StartOptions::parse`; `workers` is the one before. -/
def startWorkers (workers : Nat) : List String → Option Nat
  | [] => startLimit workers
  | argument :: rest =>
    if argument = "--workers" then
      match rest with
      | [] => none
      | value :: rest => (parsePositive value).bind fun count => startWorkers count rest
    else if argument ∈ valuedOptions then
      match rest with
      | [] => none
      | _ :: rest => startWorkers workers rest
    else if argument = "--isolate-php-extensions" then
      startWorkers workers rest
    else if argument = "--" then startLimit workers
    else if isWord argument then startWorkers workers rest
    else none

/-- The workers of a master: a stored command is the executable, the verb and
what the verb reads. The default is one worker per core. -/
def commandWorkers (cores : Nat) (command : List String) : Option Nat :=
  startWorkers cores (command.drop 2)

theorem parsePositive_toString (positive : 0 < workers) (small : workers ≤ 256) :
    parsePositive (toString workers) = some workers := by
  have written : (toString workers).toList = toDigits 10 workers := toList_repr
  rw [parsePositive, written, parseUnsigned_toDigits (by omega)]
  simpa using positive

def reservedArguments : List String :=
  ["--", "--workers", "--isolate-php-extensions", "--php-extension"]

inductive LaunchOptions : List String → List String → Prop where
  | nil : LaunchOptions [] []
  | word {argument : String} {rest counts : List String}
      (plain : isWord argument = true) (later : LaunchOptions rest counts) :
      LaunchOptions (argument :: rest) counts
  | flag {rest counts : List String} (later : LaunchOptions rest counts) :
      LaunchOptions ("--isolate-php-extensions" :: rest) counts
  | valued {option value : String} {rest counts : List String}
      (known : option ∈ valuedOptions) (free : value ∉ reservedArguments)
      (later : LaunchOptions rest counts) : LaunchOptions (option :: value :: rest) counts
  | workers {value : String} {rest counts : List String} (free : value ∉ reservedArguments)
      (later : LaunchOptions rest counts) :
      LaunchOptions ("--workers" :: value :: rest) (value :: counts)

def ArgumentTail (tail : List String) : Prop := tail = [] ∨ ∃ arguments, tail = "--" :: arguments

structure Scalable (executable verb : String) (options counts tail : List String) : Prop where
  program : isWord executable = true
  verbal : isWord verb = true
  launch : LaunchOptions options counts
  single : counts.length ≤ 1
  shape : ArgumentTail tail
  unnamed : counts = [] → "--workers" ∉ tail

def ScalableCommand (command : List String) : Prop := ∃ executable verb options counts tail,
    command = executable :: verb :: (options ++ tail) ∧ Scalable executable verb options counts tail

theorem ne_of_free (free : argument ∉ reservedArguments) : argument ≠ "--" ∧
    argument ≠ "--workers" ∧ argument ≠ "--isolate-php-extensions" ∧
    argument ≠ "--php-extension" := by
  simpa [reservedArguments] using free

theorem isWord_not_mem {options : List String} (plain : isWord argument = true)
    (dashed : ∀ option ∈ options, isWord option = false) : argument ∉ options := by
  intro member
  rw [dashed argument member] at plain
  exact Bool.false_ne_true plain

theorem ne_of_isWord (plain : isWord argument = true) : argument ≠ "--" ∧
    argument ≠ "--workers" ∧ argument ≠ "--isolate-php-extensions" ∧
    argument ≠ "--php-extension" :=
  ne_of_free (isWord_not_mem plain (by decide))

namespace LaunchOptions

variable (launch : LaunchOptions options counts)
include launch

theorem separator_not_mem : "--" ∉ options := by
  have unvalued : "--" ∉ valuedOptions := by decide
  induction launch with
  | nil => simp
  | word plain later induction =>
    simp only [List.mem_cons, not_or]
    exact ⟨(ne_of_isWord plain).1.symm, induction⟩
  | flag later induction =>
    simp only [List.mem_cons, not_or]
    exact ⟨by decide, induction⟩
  | valued known free later induction =>
    simp only [List.mem_cons, not_or]
    refine ⟨?_, (ne_of_free free).1.symm, induction⟩
    intro same
    exact unvalued (same ▸ known)
  | workers free later induction =>
    simp only [List.mem_cons, not_or]
    exact ⟨by decide, (ne_of_free free).1.symm, induction⟩

theorem append (other : LaunchOptions more values) :
    LaunchOptions (options ++ more) (counts ++ values) := by
  induction launch with
  | nil => exact other
  | word plain later induction => exact .word plain induction
  | flag later induction => exact .flag induction
  | valued known free later induction => exact .valued known free induction
  | workers free later induction => exact .workers free induction

theorem startWorkers_append (workers : Nat) : startWorkers workers (options ++ rest) =
      (counts.foldlM (fun _ value => parsePositive value) workers).bind
        fun count => startWorkers count rest := by
  induction launch generalizing workers with
  | nil => rfl
  | word plain later induction =>
    have other := ne_of_isWord plain
    rw [List.cons_append, startWorkers.eq_def]
    have unvalued : _ ∉ valuedOptions := isWord_not_mem plain (by decide)
    simp only [other.2.1, unvalued, other.2.2.1, other.1, plain]
    exact induction workers
  | flag later induction =>
    rw [startWorkers.eq_def]
    exact induction workers
  | valued known free later induction =>
    have other : ∀ option ∈ valuedOptions, option ≠ "--workers" := by
      decide
    rw [List.cons_append, startWorkers.eq_def]
    simp only [other _ known, known]
    exact induction workers
  | workers free later induction =>
    rw [startWorkers.eq_def, List.foldlM_cons]
    simp only [List.cons_append, bind_eq_bind, bind_assoc, induction, if_true]

end LaunchOptions

theorem startWorkers_tail (shape : ArgumentTail tail) (workers : Nat) :
    startWorkers workers tail = startLimit workers := by
  rcases shape with rfl | ⟨arguments, rfl⟩
  · rfl
  rw [startWorkers.eq_def]
  dsimp only
  rw [if_neg (by decide), if_neg (by decide), if_neg (by decide), if_pos rfl]

theorem findIdx?_of_not_mem {command : List String} (absent : option ∉ command) :
    command.findIdx? (fun argument => argument == option) = none := by
  rw [List.findIdx?_eq_none_iff]
  intro argument member
  simp only [beq_eq_false_iff_ne]
  rintro rfl
  exact absent member

theorem separatorIndex_append (none : "--" ∉ options)
    (shape : ArgumentTail tail) : separatorIndex (options ++ tail) = options.length := by
  have skipped := findIdx?_of_not_mem none
  rcases shape with rfl | ⟨arguments, rfl⟩
  · simp [separatorIndex, skipped]
  · simp [separatorIndex, skipped, List.findIdx?_cons]

theorem take_drop_separator (none : "--" ∉ options) (shape : ArgumentTail tail) :
    (options ++ tail).take (separatorIndex (options ++ tail)) = options ∧
      (options ++ tail).drop (separatorIndex (options ++ tail)) = tail := by
  rw [separatorIndex_append none shape]
  exact ⟨List.take_left, List.drop_left⟩

theorem setCommandFlag_append (none : "--" ∉ options)
    (shape : ArgumentTail tail) : setCommandFlag (options ++ tail) flag enabled =
      options.filter (fun argument => argument != flag) ++
        (if enabled then [flag] else []) ++ tail := by
  obtain ⟨taken, dropped⟩ := take_drop_separator none shape
  simp [setCommandFlag, taken, dropped]

theorem setCommandOptions_append (none : "--" ∉ options)
    (shape : ArgumentTail tail) :
    setCommandOptions (options ++ tail) option values = removeOptionPairs option options ++
        values.flatMap (fun value => [option, value]) ++ tail := by
  obtain ⟨taken, dropped⟩ := take_drop_separator none shape
  simp [setCommandOptions, taken, dropped]

theorem setCommandOption_cons (different : argument ≠ option) (inside : argument ≠ "--") :
    setCommandOption (argument :: command) option value =
      argument :: setCommandOption command option value := by
  have separator : separatorIndex (argument :: command) = separatorIndex command + 1 := by
    simp only [separatorIndex, List.findIdx?_cons, beq_iff_eq, inside]
    cases command.findIdx? fun other => other == "--" <;> rfl
  simp only [setCommandOption, separator, List.findIdx?_cons, beq_iff_eq, different, if_false]
  cases found : command.findIdx? fun other => other == option with
  | none => rfl
  | some index =>
    simp only [map_some, List.length_cons, add_lt_add_iff_right]
    split <;> rfl

theorem setCommandOption_tail (shape : ArgumentTail tail) (unnamed : option ∉ tail) :
    setCommandOption tail option value = option :: value :: tail := by
  have skipped := findIdx?_of_not_mem unnamed
  have start : separatorIndex tail = 0 := by
    rcases shape with rfl | ⟨arguments, rfl⟩
    · rfl
    · simp [separatorIndex, List.findIdx?_cons]
  simp [setCommandOption, skipped, start]

theorem removeOptionPairs_cons (other : argument ≠ option) :
    removeOptionPairs option (argument :: rest) = argument :: removeOptionPairs option rest := by
  cases rest <;> simp [removeOptionPairs, other]

namespace LaunchOptions

theorem filterFlag (launch : LaunchOptions options counts) : LaunchOptions
      (options.filter fun argument => argument != "--isolate-php-extensions")
      counts := by
  have valuedKept : ∀ option ∈ valuedOptions, (option != "--isolate-php-extensions") = true := by
    decide
  induction launch with
  | nil => exact .nil
  | word plain later induction =>
    have other := ne_of_isWord plain
    rw [List.filter_cons_of_pos (by simpa using other.2.2.1)]
    exact .word plain induction
  | flag later induction => exact induction
  | valued known free later induction =>
    have other := ne_of_free free
    rw [List.filter_cons_of_pos (by simpa using valuedKept _ known),
      List.filter_cons_of_pos (by simpa using other.2.2.1)]
    exact .valued known free induction
  | workers free later induction =>
    have other := ne_of_free free
    rw [List.filter_cons_of_pos (by decide), List.filter_cons_of_pos (by simpa using other.2.2.1)]
    exact .workers free induction

theorem removeExtensions (launch : LaunchOptions options counts) :
    LaunchOptions (removeOptionPairs "--php-extension" options) counts := by
  induction launch with
  | nil => exact .nil
  | word plain later induction =>
    have other := ne_of_isWord plain
    rw [removeOptionPairs_cons other.2.2.2]
    exact .word plain induction
  | flag later induction =>
    rw [removeOptionPairs_cons (by decide)]
    exact .flag induction
  | @valued option value rest counts known free later induction =>
    have other := ne_of_free free
    by_cases extension : option = "--php-extension"
    · simp only [extension]
      exact induction
    rw [removeOptionPairs_cons extension, removeOptionPairs_cons other.2.2.2]
    exact .valued known free induction
  | workers free later induction =>
    have other := ne_of_free free
    rw [removeOptionPairs_cons (by decide), removeOptionPairs_cons other.2.2.2]
    exact .workers free induction

theorem extensions {values : List String} (free : ∀ value ∈ values, value ∉ reservedArguments) :
    LaunchOptions (values.flatMap fun value => ["--php-extension", value]) [] := by
  induction values with
  | nil => exact .nil
  | cons value values induction =>
    exact .valued (by decide) (free value List.mem_cons_self)
      (induction fun other member => free other (List.mem_cons_of_mem _ member))

theorem setWorkers (launch : LaunchOptions options counts)
    (single : counts.length ≤ 1) {tail : List String}
    (shape : ArgumentTail tail) (unnamed : counts = [] → "--workers" ∉ tail)
    {value : String} (free : value ∉ reservedArguments) : ∃ edited,
      setCommandOption (options ++ tail) "--workers" value = edited ++ tail ∧
        LaunchOptions edited [value] := by
  induction launch with
  | nil =>
    refine ⟨["--workers", value], ?_, .workers free .nil⟩
    exact setCommandOption_tail shape (unnamed rfl)
  | @word argument rest counts plain later induction =>
    have other := ne_of_isWord plain
    obtain ⟨edited, same, after⟩ := induction single unnamed
    refine ⟨argument :: edited, ?_, .word plain after⟩
    rw [List.cons_append, setCommandOption_cons other.2.1 other.1, same]
    rfl
  | flag later induction =>
    obtain ⟨edited, same, after⟩ := induction single unnamed
    refine ⟨"--isolate-php-extensions" :: edited, ?_, .flag after⟩
    rw [List.cons_append, setCommandOption_cons (by decide) (by decide), same]
    rfl
  | @valued option current rest counts known spared later induction =>
    have optionKept : ∀ option ∈ valuedOptions, option ≠ "--workers" ∧ option ≠ "--" := by
      decide
    have other := ne_of_free spared
    obtain ⟨edited, same, after⟩ := induction single unnamed
    refine ⟨option :: current :: edited, ?_, .valued known spared after⟩
    rw [List.cons_append, List.cons_append,
      setCommandOption_cons (optionKept _ known).1 (optionKept _ known).2,
      setCommandOption_cons other.2.1 other.1, same]
    rfl
  | @workers current rest counts spared later induction =>
    have none : counts = [] := by
      rw [List.length_cons] at single
      exact List.length_eq_zero_iff.mp (by omega)
    refine ⟨"--workers" :: value :: rest, ?_, .workers free (none ▸ later)⟩
    rfl

end LaunchOptions

theorem toString_free (workers : Nat) : toString workers ∉ reservedArguments := by
  intro member
  have dashed : ∀ reserved ∈ reservedArguments, reserved.toList.all Char.isDigit = false := by
    decide
  have digits : (toString workers).toList = toDigits 10 workers := toList_repr
  have counted : (toString workers).toList.all Char.isDigit = true := by
    rw [digits, List.all_eq_true]
    intro character written
    exact isDigit_of_mem_toDigits (by decide) (by decide) written
  rw [dashed _ member] at counted
  exact Bool.false_ne_true counted

def extendedCommand (command : List String) (isolation : Bool)
    (extensions : List String) : List String := setCommandOptions
    (setCommandFlag command "--isolate-php-extensions" isolation)
    "--php-extension" extensions

namespace ScalableCommand

theorem commandWorkers_eq (scalable : Scalable executable verb options counts tail) :
    commandWorkers cores (executable :: verb :: (options ++ tail)) =
      (counts.foldlM (fun _ value => parsePositive value) cores).bind startLimit := by
  have shape : (fun workers => startWorkers workers tail) = startLimit :=
    funext (startWorkers_tail scalable.shape)
  rw [← shape]
  exact scalable.launch.startWorkers_append cores

theorem commandWorkers_single {workers : Nat}
    (scalable : Scalable executable verb options [toString workers] tail)
    (positive : 0 < workers) (small : workers ≤ 256) :
    commandWorkers cores (executable :: verb :: (options ++ tail)) = some workers := by
  rw [commandWorkers_eq scalable]
  simp only [List.foldlM_cons, List.foldlM_nil,
    parsePositive_toString positive small, startLimit, bind_eq_bind,
    bind_some, pure_def, not_lt.mpr small, if_false]

theorem scaled_workers (scalable : ScalableCommand command) (cores : Nat)
    {workers : Nat} (positive : 0 < workers) (small : workers ≤ 256) : commandWorkers cores
        (setCommandOption command "--workers" (toString workers)) =
      some workers := by
  obtain ⟨executable, verb, options, counts, tail, rfl, scalable⟩ := scalable
  have first := ne_of_isWord scalable.program
  have second := ne_of_isWord scalable.verbal
  obtain ⟨edited, same, launch⟩ := scalable.launch.setWorkers scalable.single
    scalable.shape scalable.unnamed (toString_free workers)
  rw [setCommandOption_cons first.2.1 first.1, setCommandOption_cons second.2.1 second.1, same]
  exact commandWorkers_single { scalable with
      launch := launch
      single := le_refl 1
      unnamed := nofun } positive small

theorem extended (scalable : ScalableCommand command) {extensions : List String}
    (free : ∀ extension ∈ extensions, extension ∉ reservedArguments) :
    ScalableCommand (extendedCommand command isolation extensions) ∧
      ∀ cores, commandWorkers cores (extendedCommand command isolation extensions) =
        commandWorkers cores command := by
  obtain ⟨executable, verb, options, counts, tail, rfl, scalable⟩ := scalable
  have words : LaunchOptions (executable :: verb :: options) counts :=
    .word scalable.program (.word scalable.verbal scalable.launch)
  have first := ne_of_isWord scalable.program
  have second := ne_of_isWord scalable.verbal
  have flagged : LaunchOptions (if isolation then
      ["--isolate-php-extensions"] else []) [] := by
    cases isolation with
    | true => exact .flag .nil
    | false => exact .nil
  have isolated := scalable.launch.filterFlag.append flagged
  have flaggedWords := words.filterFlag.append flagged
  rw [List.append_nil] at isolated flaggedWords
  have extended := isolated.removeExtensions.append (LaunchOptions.extensions free)
  rw [List.append_nil] at extended
  have written : extendedCommand (executable :: verb :: (options ++ tail)) isolation extensions =
      executable :: verb :: ((removeOptionPairs "--php-extension"
        (options.filter (fun argument => argument != "--isolate-php-extensions") ++
          if isolation then ["--isolate-php-extensions"] else []) ++
        extensions.flatMap fun value => ["--php-extension", value]) ++
          tail) := by
    have whole : executable :: verb :: (options ++ tail) =
        (executable :: verb :: options) ++ tail := rfl
    rw [extendedCommand, whole, setCommandFlag_append words.separator_not_mem scalable.shape,
      setCommandOptions_append flaggedWords.separator_not_mem scalable.shape,
      List.filter_cons_of_pos (by simpa using first.2.2.1),
      List.filter_cons_of_pos (by simpa using second.2.2.1), List.cons_append, List.cons_append,
      removeOptionPairs_cons first.2.2.2, removeOptionPairs_cons second.2.2.2]
    simp
  have after : Scalable executable verb _ counts tail := { scalable with launch := extended }
  rw [written]
  refine ⟨⟨_, _, _, _, _, rfl, after⟩, ?_⟩
  intro cores
  rw [commandWorkers_eq after, commandWorkers_eq scalable]

end ScalableCommand

theorem launchArguments_eq : "pam" :: launchArguments options =
      "pam" :: (if options.laravel then "octane:start" else "start") ::
        (((if options.laravel then []
            else [options.target, "--state-file",
              options.name ++ ".master.json"]) ++
          (options.workers.elim [] fun workers => ["--workers", toString workers]) ++
          (if options.phpExtensionIsolation then ["--isolate-php-extensions"]
            else []) ++
          options.phpExtensions.flatMap fun extension => ["--php-extension", extension]) ++
        if options.applicationArguments.isEmpty then []
        else "--" :: options.applicationArguments) := by
  unfold launchArguments
  cases options.laravel <;> cases options.workers <;> simp [List.append_assoc]

theorem stateFile_free : name ++ ".master.json" ∉ reservedArguments := by
  intro member
  have undotted : ∀ reserved ∈ reservedArguments, '.' ∉ reserved.toList := by decide
  apply undotted _ member
  rw [String.toList_append]
  exact List.mem_append_right _ (by decide)

theorem launch_workers {options : UpOptions} {workers : Nat}
    (given : options.workers = some workers) (positive : 0 < workers)
    (small : workers ≤ 256) (plain : isWord options.target = true)
    (free : ∀ extension ∈ options.phpExtensions, extension ∉ reservedArguments) :
    commandWorkers cores options.launch.command = some workers := by
  have target : LaunchOptions (if options.laravel then []
      else [options.target, "--state-file", options.name ++ ".master.json"])
      [] := by
    cases options.laravel with
    | true => exact .nil
    | false => exact .word plain (.valued (by decide) stateFile_free .nil)
  have count : LaunchOptions
      (options.workers.elim [] fun workers => ["--workers", toString workers])
      [toString workers] := by
    rw [given]
    exact .workers (toString_free workers) .nil
  have flag : LaunchOptions (if options.phpExtensionIsolation then
      ["--isolate-php-extensions"] else []) [] := by
    cases options.phpExtensionIsolation with
    | true => exact .flag .nil
    | false => exact .nil
  have scalable : Scalable "pam" (if options.laravel then "octane:start" else "start")
      _ [toString workers] (if options.applicationArguments.isEmpty then []
        else "--" :: options.applicationArguments) :=
    { program := by decide
      verbal := by cases options.laravel <;> decide
      launch := ((target.append count).append flag).append (LaunchOptions.extensions free)
      single := le_refl 1
      shape := by
        cases options.applicationArguments.isEmpty with
        | true => exact .inl rfl
        | false => exact .inr ⟨_, rfl⟩
      unnamed := nofun }
  rw [UpOptions.launch, launchArguments_eq]
  exact ScalableCommand.commandWorkers_single scalable positive small

end Pam.Manager
