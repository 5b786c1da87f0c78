import Pam.Foundation.Failure
import Pam.Manager.Ecosystem

namespace Pam.Manager

open Pam.Foundation Nat

/-! The file of a record: what `read_record` demands of it, and what `up` and
`apply` demand of their input before they write one. -/

def maxRecordBytes : Nat := 1048576

def ensure (condition : Bool) (error : String) : Except String Unit :=
  if condition then .ok () else .error error

theorem ensure_eq_ok : ensure condition error = .ok value ↔ condition = true := by
  cases condition with
  | false => exact ⟨nofun, nofun⟩
  | true => exact ⟨fun _ => rfl, fun _ => rfl⟩

/-! Checks that `up`, `apply` and `read_record` share. -/

def nameCharacter (character : Char) : Bool :=
  character.isAlphanum || character == '-' || character == '_' || character == '.'

def validateName (name : AppName) : Except String Unit :=
  ensure (!(name.isEmpty || 64 < name.utf8ByteSize ||
      !name.toList.all nameCharacter || name == "." || name == ".."))
    ("application name must contain 1-64 ASCII letters, digits, '.', '-' or " ++ "'_'")

def validateResourcePolicy (memoryWarningBytes taskWarningCount memoryMaxBytes
    taskMaxCount : Option Nat) (label : String) : Except String Unit := do
  let exceeds (warning maximum : Option Nat) : Bool := match warning, maximum with
    | some warning, some maximum => maximum < warning
    | _, _ => false
  ensure (!(memoryWarningBytes == some 0 || taskWarningCount == some 0 ||
      memoryMaxBytes == some 0 || taskMaxCount == some 0))
    (label ++ " resource thresholds must be positive")
  ensure (!(exceeds memoryWarningBytes memoryMaxBytes || exceeds taskWarningCount taskMaxCount))
    (label ++ " warning cannot exceed its hard limit")

def validateRecoveryPolicy (delayMillis maximumDelayMillis maximumRestarts
    minimumUptimeMillis : Nat) : Except String Unit := do
  ensure (10 ≤ delayMillis && delayMillis ≤ 60000) "restart delay must be 10-60000 milliseconds"
  ensure (delayMillis ≤ maximumDelayMillis && maximumDelayMillis ≤ 300000)
    ("restart backoff maximum must be at least the delay and at most 300000 " ++ "milliseconds")
  ensure (1 ≤ maximumRestarts && maximumRestarts ≤ 100) "maximum unstable restarts must be 1-100"
  ensure (1000 ≤ minimumUptimeMillis && minimumUptimeMillis ≤ 3600000)
    "minimum stable uptime must be 1000-3600000 milliseconds"

def validateShutdownPolicy (timeoutMillis : Nat) : Except String Unit :=
  ensure (100 ≤ timeoutMillis && timeoutMillis ≤ 300000)
    "shutdown timeout must be between 100 and 300000 milliseconds"

def validateHealthStartPeriod (startPeriodMillis : Nat) (configured : Bool) :
    Except String Unit := do
  ensure (startPeriodMillis ≤ 3600000) "health check start period must be 0-3600000 milliseconds"
  ensure (!(0 < startPeriodMillis && !configured))
    "health check start period requires a health check URL"

/-- Socket addresses as the standard library reads and prints them: `parse` is
the printed form of the address that a text stands for. -/
structure SocketAddresses where
  parse : String → Option String
  isLoopback : String → Bool
  parse_parse : ∀ {text address}, parse text = some address → parse address = some address
  slash_notMem : ∀ {text address}, parse text = some address → '/' ∉ address.toList

variable (addresses : SocketAddresses)

def afterScheme (value : List Char) : Option (List Char) :=
  if "http://".toList.isPrefixOf value then some (value.drop 7) else none

def containsText (pattern text : List Char) : Bool :=
  text.tails.any fun rest => pattern.isPrefixOf rest

def validHealthPath (path : List Char) : Bool :=
  !(1024 < (String.ofList path).utf8ByteSize || path.head? != some '/' ||
    path.any (fun character => character == Char.ofNat 0 ||
      character == '\r' || character == '\n' || character == ' ') ||
    containsText "%0d".toList (path.map Char.toLower) ||
    containsText "%0a".toList (path.map Char.toLower))

def urlPath (remainder : List Char) : List Char :=
  match remainder.dropWhile fun character => character != '/' with
  | [] => ['/']
  | path => path

def parseHealthCheckUrl (value : String) : Except String (String × String) :=
  match afterScheme value.toList with
  | none => .error "health check URL must use http://"
  | some remainder =>
    let authority := remainder.takeWhile fun character => character != '/'
    match addresses.parse (String.ofList authority) with
    | none => .error "health check URL requires an explicit IP address and port"
    | some address => do
        ensure (addresses.isLoopback address) "health check URL must target a loopback address"
        ensure (validHealthPath (urlPath remainder))
          "health check path is invalid or exceeds 1024 bytes"
        return (address, String.ofList (urlPath remainder))

def validateHealthPolicy (url : Option String)
    (intervalMillis timeoutMillis failureThreshold : Nat) :
    Except String (Option (String × String)) := do
  ensure (250 ≤ intervalMillis && intervalMillis ≤ 3600000)
    "health check interval must be 250-3600000 milliseconds"
  ensure (50 ≤ timeoutMillis && timeoutMillis ≤ 5000 && timeoutMillis < intervalMillis)
    ("health check timeout must be 50-5000 milliseconds and less than the " ++ "interval")
  ensure (1 ≤ failureThreshold && failureThreshold ≤ 100)
    "health check failure threshold must be 1-100"
  match url with
  | none => return none
  | some url => return some (← parseHealthCheckUrl addresses url)

/-- The fields of the record about its logs, which only log rotation reads. -/
structure LogFields where
  stdoutLog : String
  stderrLog : String
  logMaxBytes : Nat
  logRetain : Nat

structure RecordFile where
  record : ApplicationRecord
  logs : LogFields

/-- The text of the file, as it is serialised and parsed. A code without a
meaning is an error of `parse`. -/
structure RecordFormat where
  Text : Type
  size : Text → Nat
  write : RecordFile → Text
  parse : Text → Except String RecordFile
  parse_write : ∀ file, parse (write file) = .ok file

def ApplicationRecord.healthUrl (record : ApplicationRecord) : Option String :=
  record.healthCheckAddress.map fun address =>
    "http://" ++ address ++ record.healthCheckPath.getD "/"

def validateRecord (record : ApplicationRecord) : Except String Unit := do
  validateRecoveryPolicy record.restartDelayMillis
    record.restartBackoffMaxMillis record.maxUnstableRestarts record.minUptimeMillis
  validateShutdownPolicy record.shutdownTimeoutMillis
  ensure (record.healthCheckAddress.isSome == record.healthCheckPath.isSome)
    "application health check address and path must be configured together"
  validateHealthStartPeriod record.healthCheckStartPeriodMillis record.healthUrl.isSome
  let _ ← validateHealthPolicy addresses record.healthUrl
    record.healthCheckIntervalMillis record.healthCheckTimeoutMillis
    record.healthCheckFailureThreshold
  ensure (!(record.healthUrl.isSome && !record.autoRestart))
    "application health checks require automatic restart"

def readRecordText (format : RecordFormat) (online : ApplicationRecord → Bool)
    (text : format.Text) : Except String RecordFile := do
  ensure (format.size text ≤ maxRecordBytes) "invalid application record"
  match format.parse text with
  | .error error => throw ("invalid application record: " ++ error)
  | .ok { record, logs } =>
    ensure (record.schemaVersion == 1 || record.schemaVersion == 2)
      "unsupported application record contract"
    validateName record.name
    let record := if record.schemaVersion == 1 then migrateRecord record (online record)
      else record
    validateRecord addresses record
    return { record := record, logs := logs }

structure ApplicationRecord.Valid (record : ApplicationRecord) : Prop where
  schemaVersion : record.schemaVersion = 2
  name : validateName record.name = .ok ()
  policies : validateRecord addresses record = .ok ()

theorem readRecordText_write_iff (valid : file.record.Valid addresses) :
    readRecordText addresses format online (format.write file) = .ok file ↔
      format.size (format.write file) ≤ maxRecordBytes := by
  rw [readRecordText, bind_eq_ok]
  simp only [ensure_eq_ok, format.parse_write, valid.schemaVersion, valid.name, decide_eq_true_eq]
  constructor
  · intro ⟨_, small, _⟩
    exact small
  intro small
  refine ⟨(), small, ?_⟩
  rw [bind_eq_ok]
  refine ⟨(), rfl, ?_⟩
  change (validateRecord addresses file.record >>= _) = _
  rw [valid.policies]
  rfl

/-- The checks of `up` on its options, given the URL of the health check. -/
def UpOptions.validate (options : UpOptions) (url : Option String) :
    Except String (Option (String × String)) := do
  validateResourcePolicy options.memoryWarningBytes options.taskWarningCount
    options.memoryMaxBytes options.taskMaxCount "application"
  validateShutdownPolicy options.shutdownTimeoutMillis
  validateRecoveryPolicy options.restartDelayMillis
    options.restartBackoffMaxMillis options.maxUnstableRestarts options.minUptimeMillis
  let health ← validateHealthPolicy addresses url
    options.healthCheckIntervalMillis options.healthCheckTimeoutMillis
    options.healthCheckFailureThreshold
  validateHealthStartPeriod options.healthCheckStartPeriodMillis health.isSome
  ensure (!(health.isSome && !options.autoRestart)) "health checks require automatic restart"
  validateName options.name
  return health

def UpOptions.Accepted (options : UpOptions) : Prop :=
  ∃ url health, options.validate addresses url = .ok health ∧
    options.healthCheckAddress = health.map Prod.fst ∧ options.healthCheckPath = health.map Prod.snd

/-- The checks of `validate_ecosystem_application` on what it keeps. -/
def EcosystemApplication.validate (application : EcosystemApplication)
    (name : AppName) (url : Option String) : Except String (Option (String × String)) := do
  validateName name
  ensure (!(application.workers == 0 || 256 < application.workers))
    ("application " ++ quoted name ++ " workers must be 1-256")
  validateResourcePolicy application.memoryWarningBytes
    application.taskWarningCount application.memoryMaxBytes
    application.taskMaxCount ("application " ++ quoted name)
  validateRecoveryPolicy application.restartDelayMillis
    application.restartBackoffMaxMillis application.maxUnstableRestarts application.minUptimeMillis
  validateShutdownPolicy application.shutdownTimeoutMillis
  validateHealthStartPeriod application.healthCheckStartPeriodMillis url.isSome
  let health ← validateHealthPolicy addresses url
    application.healthCheckIntervalMillis application.healthCheckTimeoutMillis
    application.healthCheckFailureThreshold
  ensure (!(url.isSome && !application.autoRestart)) ("application " ++ quoted name ++
      " health checks require auto_restart = true")
  ensure (!application.arguments.any fun argument => argument.toList.any fun character =>
        character == Char.ofNat 0 || character == '\n' || character == '\r')
    ("application " ++ quoted name ++ " contains invalid argument controls")
  return health

def EcosystemApplication.Accepted (application : EcosystemApplication) (name : AppName) : Prop :=
  ∃ url health, application.validate addresses name url = .ok health ∧
    application.healthCheckAddress = health.map Prod.fst ∧
    application.healthCheckPath = health.map Prod.snd

variable {addresses}

theorem parseHealthCheckUrl_eq_ok : parseHealthCheckUrl addresses url = .ok (address, path) ↔
      ∃ remainder, afterScheme url.toList = some remainder ∧ addresses.parse (String.ofList
          (remainder.takeWhile fun character => character != '/')) = some address ∧
        addresses.isLoopback address = true ∧ validHealthPath (urlPath remainder) = true ∧
        String.ofList (urlPath remainder) = path := by
  unfold parseHealthCheckUrl
  split
  · next unschemed => simp [unschemed]
  next schemed =>
  dsimp only
  split
  · next unparsed => simp [schemed, unparsed]
  next found =>
  simp only [bind_eq_ok, ensure_eq_ok, pure, Except.pure,
    Except.ok.injEq, Prod.mk.injEq, schemed, Option.some.injEq, exists_eq_left', found]
  constructor
  · intro ⟨_, loopback, _, valid, same, printed⟩
    subst same
    exact ⟨rfl, loopback, valid, printed⟩
  intro ⟨same, loopback, valid, printed⟩
  subst same
  exact ⟨(), loopback, (), valid, rfl, printed⟩

theorem head_of_validHealthPath (valid : validHealthPath path = true) : path.head? = some '/' := by
  simp only [validHealthPath, Bool.not_eq_true', Bool.or_eq_false_iff, bne_eq_false_iff_eq] at valid
  exact valid.1.1.1.2

theorem parseHealthCheckUrl_printed
    (parsed : parseHealthCheckUrl addresses url = .ok (address, path)) :
    parseHealthCheckUrl addresses ("http://" ++ address ++ path) = .ok (address, path) := by
  obtain ⟨remainder, _, found, loopback, valid, rfl⟩ := parseHealthCheckUrl_eq_ok.mp parsed
  obtain ⟨rest, begins⟩ : ∃ rest, urlPath remainder = '/' :: rest := by
    have head := head_of_validHealthPath valid
    cases path : urlPath remainder with
    | nil => simp [path] at head
    | cons first rest =>
      rw [path] at head
      cases head
      exact ⟨rest, rfl⟩
  have plain : ∀ character ∈ address.toList, (character != '/') = true := by
    intro character member
    rw [bne_iff_ne]
    intro same
    exact addresses.slash_notMem found (same ▸ member)
  have authority : (address.toList ++ urlPath remainder).takeWhile (fun character =>
        character != '/') = address.toList := by
    rw [List.takeWhile_append_of_pos plain, begins]
    simp
  have path : urlPath (address.toList ++ urlPath remainder) = urlPath remainder := by
    rw [begins, urlPath, List.dropWhile_append_of_pos plain]
    rfl
  apply parseHealthCheckUrl_eq_ok.mpr
  refine ⟨address.toList ++ urlPath remainder, ?_, ?_, loopback, ?_, ?_⟩
  · simp [afterScheme]
  · rw [authority, String.ofList_toList]
    exact addresses.parse_parse found
  · rw [path]
    exact valid
  · rw [path]

theorem validateHealthPolicy_eq_ok
    (valid : validateHealthPolicy addresses url interval timeout threshold = .ok health) :
    health.isSome = url.isSome ∧ validateHealthPolicy addresses
        (health.map fun health => "http://" ++ health.1 ++ health.2) interval
        timeout threshold = .ok health := by
  simp only [validateHealthPolicy, bind_eq_ok] at valid ⊢
  obtain ⟨_, inInterval, _, inTimeout, _, inThreshold, parsed⟩ := valid
  cases url with
  | none =>
    cases parsed
    exact ⟨rfl, (), inInterval, (), inTimeout, (), inThreshold, rfl⟩
  | some url =>
    obtain ⟨⟨address, path⟩, read, same⟩ := bind_eq_ok.mp parsed
    cases same
    refine ⟨rfl, (), inInterval, (), inTimeout, (), inThreshold, ?_⟩
    exact bind_eq_ok.mpr ⟨(address, path), parseHealthCheckUrl_printed read, rfl⟩

theorem validateRecord_of_policies (recovery : validateRecoveryPolicy record.restartDelayMillis
      record.restartBackoffMaxMillis record.maxUnstableRestarts record.minUptimeMillis = .ok ())
    (shutdown : validateShutdownPolicy record.shutdownTimeoutMillis = .ok ())
    (policy : validateHealthPolicy addresses url
      record.healthCheckIntervalMillis record.healthCheckTimeoutMillis
      record.healthCheckFailureThreshold = .ok health) (startPeriod : validateHealthStartPeriod
      record.healthCheckStartPeriodMillis url.isSome = .ok ())
    (restarts : (!(url.isSome && !record.autoRestart)) = true)
    (address : record.healthCheckAddress = health.map Prod.fst)
    (path : record.healthCheckPath = health.map Prod.snd) :
    validateRecord addresses record = .ok () := by
  obtain ⟨configured, printed⟩ := validateHealthPolicy_eq_ok policy
  have together : (record.healthCheckAddress.isSome == record.healthCheckPath.isSome) = true := by
    rw [address, path, Option.isSome_map, Option.isSome_map]
    exact BEq.rfl
  have url : record.healthUrl = health.map fun health => "http://" ++ health.1 ++ health.2 := by
    rw [ApplicationRecord.healthUrl, address, path]
    cases health <;> rfl
  rw [← configured] at startPeriod restarts
  simp only [validateRecord, bind_eq_ok, ensure_eq_ok, url, Option.isSome_map]
  exact ⟨(), recovery, (), shutdown, (), together, (), startPeriod, health, printed, restarts⟩

theorem UpOptions.Accepted.valid (accepted : options.Accepted addresses) (now : Nat) :
    (upRecord options now).Valid addresses := by
  obtain ⟨url, health, valid, address, path⟩ := accepted
  simp only [UpOptions.validate, bind_eq_ok, ensure_eq_ok] at valid
  obtain ⟨_, _, _, shutdown, _, recovery, health, policy, _, startPeriod, _,
    restarts, _, name, same⟩ := valid
  cases same
  rw [(validateHealthPolicy_eq_ok policy).1] at startPeriod restarts
  exact
    { schemaVersion := rfl
      name := name
      policies := validateRecord_of_policies recovery shutdown policy
        startPeriod restarts address path }

theorem EcosystemApplication.Accepted.valid (accepted : application.Accepted addresses name)
    (valid : record.Valid addresses) : (updatedRecord record application).Valid addresses := by
  obtain ⟨url, health, validated, address, path⟩ := accepted
  simp only [EcosystemApplication.validate, bind_eq_ok, ensure_eq_ok] at validated
  obtain ⟨_, _, _, _, _, _, _, recovery, _, shutdown, _, startPeriod, health,
    policy, _, restarts, _, _, same⟩ := validated
  cases same
  exact
    { schemaVersion := valid.schemaVersion
      name := valid.name
      policies := validateRecord_of_policies recovery shutdown policy
        startPeriod restarts address path }

inductive FieldValue where
  | null
  | bool (value : Bool)
  | number (value : Nat)
  | text (value : String)
  | texts (values : List String)

namespace FieldValue

def optional {Value : Type} (field : Value → FieldValue) : Option Value → FieldValue
  | none => .null
  | some value => field value

def total {Item : Type} (size : Item → Nat) : List Item → Nat :=
  List.foldr (fun item sum => size item + sum) 0

def escapedSize (character : Char) : Nat := if character == '"' || character == '\\' then 2
  else if [8, 9, 10, 12, 13].contains character.toNat then 2
  else if character.toNat < 32 then 6
  else character.utf8Size

def textSize (text : String) : Nat := 2 + total escapedSize text.toList

/-- The bytes of a value of a field; the items of a list stand on lines of
their own, indented by four blanks. -/
def size : FieldValue → Nat
  | .null => 4
  | .bool value => if value then 4 else 5
  | .number value => (Nat.toDigits 10 value).length
  | .text value => textSize value
  | .texts [] => 2
  | .texts values => 4 + total (fun value => 6 + textSize value) values

end FieldValue

def ApplicationKind.code : ApplicationKind → Nat
  | .runtime => 1
  | .laravelOctane => 2

def ApplicationState.code : ApplicationState → Nat
  | .online => 1
  | .stopped => 2

def RecoveryState.code : RecoveryState → Nat
  | .healthy => 1
  | .backoff => 2
  | .stabilizing => 3
  | .circuitOpen => 4
  | .disabled => 5

def HealthState.code : HealthState → Nat
  | .disabled => 1
  | .healthy => 2
  | .failing => 3
  | .unhealthy => 4
  | .starting => 5

def StateFile.path (runtime : Directory) : StateFile → String
  | .runtime name => runtime ++ "/" ++ name ++ ".master.json"
  | .octane directory => directory ++ "/.pam/octane.json"

def RecordFile.fields (runtime : Directory) (file : RecordFile) : List (String × FieldValue) :=
  let record := file.record
  [("schemaVersion", .number record.schemaVersion), ("name", .text record.name),
    ("kindCode", .number record.kind.code), ("workingDirectory", .text record.workingDirectory),
    ("command", .texts record.command),
    ("declarativeIdentitySha256", .optional .text record.declarativeIdentitySha256),
    ("phpExtensions", .texts record.phpExtensions),
    ("phpExtensionIsolation", .bool record.phpExtensionIsolation),
    ("masterStateFile", .text (record.masterStateFile.path runtime)),
    ("stdoutLog", .text file.logs.stdoutLog), ("stderrLog", .text file.logs.stderrLog),
    ("logMaxBytes", .number file.logs.logMaxBytes), ("logRetain", .number file.logs.logRetain),
    ("memoryWarningBytes", .optional .number record.memoryWarningBytes),
    ("taskWarningCount", .optional .number record.taskWarningCount),
    ("memoryMaxBytes", .optional .number record.memoryMaxBytes),
    ("taskMaxCount", .optional .number record.taskMaxCount),
    ("environmentFile", .optional .text record.environmentFile),
    ("shutdownTimeoutMillis", .number record.shutdownTimeoutMillis),
    ("healthCheckAddress", .optional .text record.healthCheckAddress),
    ("healthCheckPath", .optional .text record.healthCheckPath),
    ("healthCheckIntervalMillis", .number record.healthCheckIntervalMillis),
    ("healthCheckTimeoutMillis", .number record.healthCheckTimeoutMillis),
    ("healthCheckStartPeriodMillis", .number record.healthCheckStartPeriodMillis),
    ("healthCheckFailureThreshold", .number record.healthCheckFailureThreshold),
    ("consecutiveHealthFailures", .number record.consecutiveHealthFailures),
    ("lastHealthCheckAtMillis", .optional .number record.lastHealthCheckAtMillis),
    ("lastHealthSuccessAtMillis", .optional .number record.lastHealthSuccessAtMillis),
    ("healthStateCode", .number record.healthState.code),
    ("totalUnhealthyRestartCount", .number record.totalUnhealthyRestartCount),
    ("desiredStateCode", .number record.desiredState.code),
    ("autoRestart", .bool record.autoRestart),
    ("restartDelayMillis", .number record.restartDelayMillis),
    ("restartBackoffMaxMillis", .number record.restartBackoffMaxMillis),
    ("maxUnstableRestarts", .number record.maxUnstableRestarts),
    ("minUptimeMillis", .number record.minUptimeMillis),
    ("unstableRestartCount", .number record.unstableRestartCount),
    ("totalAutoRestartCount", .number record.totalAutoRestartCount),
    ("lastExitDetectedAtMillis", .optional .number record.lastExitDetectedAtMillis),
    ("lastRecoveryStartedAtMillis", .optional .number record.lastRecoveryStartedAtMillis),
    ("lastRecoveryReadyAtMillis", .optional .number record.lastRecoveryReadyAtMillis),
    ("nextRestartAtMillis", .optional .number record.nextRestartAtMillis),
    ("recoveryStateCode", .number record.recoveryState.code),
    ("createdAtMillis", .number record.createdAtMillis)]

/-- The bytes of the pretty object: every field on a line of its own, indented
by two blanks, with a comma on all but the last. -/
def objectSize (fields : List (String × FieldValue)) : Nat :=
  2 + FieldValue.total (fun field => 8 + field.1.length + field.2.size) fields

def RecordFile.size (runtime : Directory) (file : RecordFile) : Nat :=
  objectSize (file.fields runtime)

def prettyFormat (runtime : Directory) : RecordFormat where
  Text := RecordFile
  size := RecordFile.size runtime
  write := id
  parse := .ok
  parse_write := fun _ => rfl

open FieldValue

theorem total_mono (le : ∀ item, small item ≤ large item) :
    total small items ≤ total large items := by
  induction items with
  | nil => exact le_refl 0
  | cons item items induction => exact Nat.add_le_add (le item) induction

variable (size : Item → Nat)

theorem le_total_of_mem (member : item ∈ items) : size item ≤ total size items := by
  induction items with
  | nil => cases member
  | cons first items induction =>
    rcases List.mem_cons.mp member with rfl | later
    · exact le_add_right _ _
    · exact le_trans (induction later) (le_add_left _ _)

theorem total_append : total size (first ++ second) = total size first + total size second := by
  induction first with
  | nil => exact (zero_add _).symm
  | cons item first induction =>
    change size item + total size (first ++ second) = _
    rw [induction, ← add_assoc]
    rfl

theorem total_replicate {count : Nat} :
    total size (List.replicate count item) = count * size item := by
  induction count with
  | zero => exact (zero_mul _).symm
  | succ count induction =>
    change size item + total size (List.replicate count item) = _
    rw [induction, succ_mul, add_comm]

theorem escapedSize_pos (character : Char) : 1 ≤ escapedSize character := by
  unfold escapedSize
  split
  · exact le_succ 1
  split
  · exact le_succ 1
  split
  · exact le_add_left 1 5
  · exact character.utf8Size_pos

theorem length_le_textSize (text : String) : text.length ≤ textSize text := by
  have each : total (fun _ => 1) text.toList ≤
      total escapedSize text.toList := total_mono escapedSize_pos
  have count : ∀ characters : List Char, total (fun _ => 1) characters = characters.length := by
    intro characters
    induction characters with
    | nil => rfl
    | cons _ characters induction =>
      change 1 + total (fun _ => 1) characters = _
      rw [induction, add_comm]
      rfl
  rw [count] at each
  exact le_trans each (le_add_left _ 2)

theorem total_length_le_size : total String.length values ≤ (FieldValue.texts values).size := by
  cases values with
  | nil => exact zero_le _
  | cons value values =>
    refine le_trans (total_mono (fun text => ?_)) (le_add_left _ 4)
    exact le_trans (length_le_textSize text) (le_add_left _ 6)

theorem size_le_objectSize (member : (key, value) ∈ fields) : value.size ≤ objectSize fields := by
  have field := le_total_of_mem
    (fun field : String × FieldValue => 8 + field.1.length + field.2.size) member
  calc value.size ≤ 8 + key.length + value.size := le_add_left _ _
    _ ≤ total (fun field => 8 + field.1.length + field.2.size) fields := field
    _ ≤ objectSize fields := le_add_left _ 2

theorem total_command_le_size (runtime : Directory) (file : RecordFile) :
    total String.length file.record.command ≤ file.size runtime := by
  have member : ("command", FieldValue.texts file.record.command) ∈ file.fields runtime :=
    .tail _ (.tail _ (.tail _ (.tail _ (.head _))))
  exact le_trans total_length_le_size (size_le_objectSize member)

end Pam.Manager
