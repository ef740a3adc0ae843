import CovertVault.Text.Case
import CovertVault.Text.Quoted

namespace CovertVault

/-- Settings of the app, read from named variables. An empty variable counts as unset. -/
structure Settings where
  dbPath : String
  logLevel : String
  remoteUrl : Option String
  remoteUser : Option String
  remoteToken : Option String
  backupBucket : Option String
  backupKey : String
  sealingKey : Option String
deriving Repr, DecidableEq

inductive SettingsError where
  /-- A variable that another one makes necessary is unset. -/
  | missing (name : String)
  /-- No variable holds a NUL. -/
  | nul
deriving Repr, DecidableEq

def SettingsError.message : SettingsError → String
  | .missing v => "Missing required configuration: " ++ v
  | .nul => "embedded null byte"

namespace Settings

def defaultDbPath : String := "calculator_vault.db"
def defaultBackupKey : String := "vault-snapshot.bin"
def defaultLogLevel : String := "WARNING"

def setting? (env : List (String × String)) (name : String) : Option String :=
  (env.lookup name).filter (· ≠ "")

def require (value : Option String) (name : String) : Except SettingsError Unit :=
  if value.isNone then .error (.missing name) else .ok ()

/-- The remote copy needs a user, the snapshot backup a key. -/
def ofVariables (env : List (String × String)) : Except SettingsError Settings := do
  if env.any fun (name, value) => (name ++ value).contains '\x00' then throw .nul
  let get := setting? env
  let remoteUrl := get "CALCVAULT_MIRROR_URL"
  let remoteUser := get "CALCVAULT_MIRROR_USER"
  if remoteUrl.isSome then require remoteUser "CALCVAULT_MIRROR_USER"
  let backupBucket := get "CALCVAULT_BACKUP_BUCKET"
  let sealingKey := get "CALCVAULT_FERNET_KEY"
  if backupBucket.isSome then require sealingKey "CALCVAULT_FERNET_KEY"
  let level := (get "CALCVAULT_LOG_LEVEL").getD defaultLogLevel
  return ⟨(get "CALCVAULT_DB_PATH").getD defaultDbPath, String.ofList (Text.upper level.toList),
    remoteUrl, remoteUser, get "CALCVAULT_MIRROR_TOKEN", backupBucket,
    (get "CALCVAULT_BACKUP_KEY").getD defaultBackupKey, sealingKey⟩

def remoteEnabled (s : Settings) : Bool := s.remoteUrl.isSome
def backupEnabled (s : Settings) : Bool := s.backupBucket.isSome

/-- A name under which logging knows something that is no level. -/
inductive LevelError where
  | format
  | styles
deriving Repr, DecidableEq

/-- The format of a line of the log, where nothing else is asked for. -/
def lineFormat : String := "%(levelname)s:%(name)s:%(message)s"

/-- The styles of formats by their marks, each with its format of a line. -/
def formatStyles : String :=
  "\x7b'%': (<class 'logging.PercentStyle'>, '" ++ lineFormat
    ++ "'), '\x7b': (<class 'logging.StrFormatStyle'>, '\x7blevelname\x7d:\x7bname\x7d:\x7bmessage\x7d'), "
    ++ "'$': (<class 'logging.StringTemplateStyle'>, "
    ++ "'$\x7blevelname\x7d:$\x7bname\x7d:$\x7bmessage\x7d')\x7d"

def LevelError.message : LevelError → String
  | .format => "Unknown level: " ++ Text.quote lineFormat.toList
  | .styles => "Level not an integer or a valid string: " ++ formatStyles

/-- The number of a named level of logging, in any case; that of warnings for unknown names. -/
def logLevelNumber (name : String) : Except LevelError Nat :=
  match String.ofList (Text.upper name.toList) with
  | "NOTSET" => .ok 0
  | "DEBUG" => .ok 10
  | "INFO" => .ok 20
  | "ERROR" => .ok 40
  | "CRITICAL" | "FATAL" => .ok 50
  | "BASIC_FORMAT" => .error .format
  | "_STYLES" => .error .styles
  | _ => .ok 30

end Settings

end CovertVault
