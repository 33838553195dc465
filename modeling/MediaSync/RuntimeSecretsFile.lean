import MediaSync.Common.FaultPrograms
import MediaSync.Common.JsonValues
import MediaSync.Common.PythonText

/-!
# The runtime secrets

One file holds the keys, the administrator's password and the revision of its
sessions. The launcher reads it, or makes it, before it starts the service; the
service changes the password while it runs, in the file first and then in its
memory. Every file operation may raise, before or after it has taken effect.
-/
namespace MediaSync.RuntimeSecretsFile
open FaultPrograms JsonValues PythonText

structure RuntimeSecrets where
  secretKey : String
  credentialEncryptionKey : String
  adminPassword : String
  adminSessionRevision : ℕ := 0
  deriving DecidableEq, Repr

inductive SecretsError where
  | runtimeSecrets (text : String)
  /-- The runtime secrets error that shows the version it found. -/
  | unsupportedVersion (version : Option Json)
  | invalidCurrentPassword (text : String)
  | adminCredential (text : String)
  | adminPasswordPersistence (text : String)
  | type
  | os
  deriving DecidableEq, Repr

/-- What a path leads to. A link is not followed: it is refused first. -/
inductive Node where
  | link
  | directory
  | other
  /-- A regular file, with its JSON value if it has one. -/
  | file (content : Option Json)
  deriving DecidableEq, Repr

structure Files where
  data : Option Node
  config : Option Node
  secrets : Option Node
  /-- The temporary file of a write. -/
  temporary : Option (Option Json) := none
  /-- Some file of the database exists. -/
  database : Bool := false
  deriving DecidableEq, Repr

structure Host where
  dataPath : String
  configPath : String
  secretsPath : String
  /-- `str.lower` -/
  lower : String → String
  /-- The number that this text stands for rounds to one. -/
  floatIsOne : String → Bool

abbrev Access (α : Type) := Prog Files SecretsError α

/-- `secrets.compare_digest` takes texts of ASCII characters only. -/
def compareDigest (a b : String) : Except SecretsError Bool :=
  if (a.toList ++ b.toList).all fun c => c.toNat < 128 then .ok (a = b) else .error .type

/-- An operation that only changes what nothing reads here. -/
def operation : Access Unit := Prog.change .os id

section Secrets
variable (host : Host)

/-! ## Reading -/

def minimumKeyLength : ℕ := 16
def minimumAdminPasswordLength : ℕ := 5

def validateKey (name value : String) : Except SecretsError Unit :=
  if value.length < minimumKeyLength then
    .error (.runtimeSecrets (name ++ " must contain at least 16 characters"))
  else .ok ()

def validateAdminPassword (value : String) : Except SecretsError Unit :=
  if value.length < minimumAdminPasswordLength then
    .error (.runtimeSecrets "ADMIN_PASSWORD must contain at least 5 characters")
  else .ok ()

def invalidField (name : String) : SecretsError :=
  .runtimeSecrets ("Runtime secrets field is missing or invalid: " ++ name)

def requiredString (payload : List (String × Json)) (name : String) : Except SecretsError String :=
  match Json.field? payload name with
  | some (.str value) => if value = "" then .error (invalidField name) else .ok value
  | _ => .error (invalidField name)

def optionalNonnegativeInteger (payload : List (String × Json)) (name : String) (default : ℕ) :
    Except SecretsError ℕ :=
  match Json.field? payload name with
  | none => .ok default
  | some (.int value) => if value < 0 then .error (invalidField name) else .ok value.toNat
  | some _ => .error (invalidField name)

/-- A value that equals the version. -/
def isVersion : Option Json → Bool
  | some (.int i) => i = 1
  | some (.bool b) => b
  | some (.float text) => host.floatIsOne text
  | _ => false

def decodeFields (payload : List (String × Json)) : Except SecretsError RuntimeSecrets := do
  let secretKey ← requiredString payload "secret_key"
  let credentialEncryptionKey ← requiredString payload "credential_encryption_key"
  let adminPassword ← requiredString payload "admin_password"
  let adminSessionRevision ← optionalNonnegativeInteger payload "admin_session_revision" 0
  validateKey "SECRET_KEY" secretKey
  validateKey "CREDENTIAL_ENCRYPTION_KEY" credentialEncryptionKey
  validateAdminPassword adminPassword
  pure { secretKey, credentialEncryptionKey, adminPassword, adminSessionRevision }

/-- The secrets of a decoded payload. -/
def decode : Json → Except SecretsError RuntimeSecrets
  | .obj payload =>
    if isVersion host (Json.field? payload "version") then decodeFields payload
    else .error (.unsupportedVersion (Json.field? payload "version"))
  | _ => .error (.runtimeSecrets "Runtime secrets payload must be a JSON object")

/-- `except OSError`, where a runtime secrets error is raised instead -/
def orRaise {α : Type} (p : Access α) (text : String) : Access α :=
  tryCatch p fun e => match e with
    | .os => throw (.runtimeSecrets text)
    | e => throw e

def readText : Access Json :=
  orRaise (Prog.look .os fun files => match files.secrets with
    | some (.file (some payload)) => .ok payload
    | some (.file none) => .error (.runtimeSecrets
        ("Unable to read runtime secrets file: " ++ host.secretsPath))
    | _ => .error .os)
    ("Unable to read runtime secrets file: " ++ host.secretsPath)

def isFile : Option Node → Bool
  | some (.file _) => true
  | _ => false

/-- `_read_runtime_secrets` -/
def readRuntimeSecrets : Access RuntimeSecrets := do
  let regular ← Prog.look .os fun files => .ok (isFile files.secrets)
  if !regular then throw (.runtimeSecrets
    ("Runtime secrets path is not a regular file: " ++ host.secretsPath))
  let payload ← readText host
  let values ← Prog.ofExcept (decode host payload)
  orRaise operation ("Unable to secure runtime secrets file: " ++ host.secretsPath)
  pure values

/-! ## Writing -/

def encode (values : RuntimeSecrets) : Json :=
  .obj [("version", .int 1), ("secret_key", .str values.secretKey),
    ("credential_encryption_key", .str values.credentialEncryptionKey),
    ("admin_password", .str values.adminPassword),
    ("admin_session_revision", .int values.adminSessionRevision)]

def mkstemp : Access Unit := Prog.change .os fun files => { files with temporary := some none }

def writeText (payload : Json) : Access Unit :=
  Prog.change .os fun files => { files with temporary := some (some payload) }

def unlinkTemporary : Access Unit := Prog.change .os fun files => { files with temporary := none }

/-- `os.replace` of the secrets by the temporary file -/
def replaceSecrets : Access Unit :=
  Prog.effect .os fun files => match files.temporary with
    | some content => (.ok (), { files with secrets := some (.file content), temporary := none })
    | none => (.error .os, files)

/-- The body of a `with`, or of a `try`, and what is done in the end. -/
def withFinally (body closing : Access Unit) : Access Unit := do
  tryCatch body fun e => do
    closing
    throw e
  closing

/-- Writing the temporary file: opened, `fchmod`, `write`, `flush`, `fsync`, closed. -/
def writeTemporary (payload : Json) : Access Unit := do
  operation
  withFinally (do
    operation
    writeText payload
    operation
    operation) operation

/-- `_fsync_directory` -/
def fsyncDirectory : Access Unit := do
  operation
  withFinally operation operation

/-- Whatever raises, the temporary file is removed if that can be done. -/
def orUnlink (p : Access Unit) : Access Unit :=
  tryCatch p fun e => do
    let _ ← (Prog.attempt unlinkTemporary : Access (Except SecretsError Unit))
    throw e

/-- `_write_runtime_secrets` -/
def writeRuntimeSecrets (values : RuntimeSecrets) : Access Unit :=
  orRaise (do
    mkstemp
    orUnlink (do
      writeTemporary (encode values)
      replaceSecrets)
    operation
    fsyncDirectory)
    ("Unable to persist runtime secrets file: " ++ host.secretsPath)

/-! ## Changing the password -/

def refuseLink : Access Unit := do
  let secrets ← Prog.look .os fun files => .ok files.secrets
  if secrets = some .link then throw (.runtimeSecrets
    ("Runtime secrets file must not be a symbolic link: " ++ host.secretsPath))

/-- `update_runtime_admin_password` -/
def updateRuntimeAdminPassword (currentPassword newPassword : String) (expectedRevision : ℕ) :
    Access RuntimeSecrets := do
  refuseLink host
  let current ← readRuntimeSecrets host
  let unchanged ← if current.adminSessionRevision ≠ expectedRevision then pure false
    else Prog.ofExcept (compareDigest current.adminPassword currentPassword)
  if !unchanged then throw (.runtimeSecrets "Administrator credential changed concurrently")
  Prog.ofExcept (validateAdminPassword newPassword)
  let updated := { current with
    adminPassword := newPassword
    adminSessionRevision := current.adminSessionRevision + 1 }
  writeRuntimeSecrets host updated
  pure updated

/-- What the service has in its memory. -/
structure AdminCredentialStore where
  password : String
  revision : ℕ
  passwordChangeSupported : Bool := true
  deriving DecidableEq, Repr

def minimumOnlinePasswordLength : ℕ := 8
def maximumOnlinePasswordLength : ℕ := 128
def bootstrapAdminPassword : String := "admin"

def refused : SecretsError := .invalidCurrentPassword "当前密码或新密码不符合要求"

/-- The checks that `change_password` makes on its arguments. -/
def checkPasswords (store : AdminCredentialStore) (currentPassword newPassword : String) :
    Except SecretsError Unit := do
  if newPassword.length < minimumOnlinePasswordLength ∨
      maximumOnlinePasswordLength < newPassword.length ∨ strip newPassword.toList = [] then
    throw refused
  if ← compareDigest newPassword bootstrapAdminPassword then throw refused
  if !(← compareDigest currentPassword store.password) then throw refused
  if ← compareDigest newPassword store.password then throw refused
  if !store.passwordChangeSupported then throw (.adminCredential "当前部署模式不支持在线修改密码")

/-- `change_password`; what it assigns in the end is its answer. -/
def changePassword (store : AdminCredentialStore) (currentPassword newPassword : String) :
    Access AdminCredentialStore := do
  Prog.ofExcept (checkPasswords store currentPassword newPassword)
  let updated ← tryCatch
    (updateRuntimeAdminPassword host store.password newPassword store.revision) fun e =>
      match e with
    | .runtimeSecrets _ | .unsupportedVersion _ =>
      throw (.adminPasswordPersistence "管理员密码无法安全持久化")
    | e => throw e
  pure { store with
    password := updated.adminPassword
    revision := updated.adminSessionRevision }

/-! ## Starting the service -/

structure Environment where
  secretKey : Option String := none
  credentialEncryptionKey : Option String := none
  adminPassword : Option String := none
  imageDefaultAdminOnly : String := ""
  deriving DecidableEq, Repr

/-- Random texts for what the environment does not give. -/
structure Tokens where
  secretKey : String
  credentialEncryptionKey : String
  adminPassword : String

def environmentValue (value : Option String) : Option String := value.filter (· ≠ "")

/-- `_ensure_config_directory` -/
def ensureConfigDirectory : Access Unit := do
  let data ← Prog.look .os fun files => .ok files.data
  if data = some .link then throw (.runtimeSecrets
    ("Data directory must not be a symbolic link: " ++ host.dataPath))
  if data ≠ none ∧ data ≠ some .directory then throw (.runtimeSecrets
    ("Data path is not a directory: " ++ host.dataPath))
  orRaise (Prog.change .os fun files => { files with data := some .directory })
    ("Unable to create data directory: " ++ host.dataPath)
  let config ← Prog.look .os fun files => .ok files.config
  if config = some .link then throw (.runtimeSecrets
    ("Runtime configuration directory must not be a symbolic link: " ++ host.configPath))
  if config ≠ none ∧ config ≠ some .directory then throw (.runtimeSecrets
    ("Runtime configuration path is not a directory: " ++ host.configPath))
  orRaise (do
    Prog.change .os fun files => { files with config := some .directory }
    operation) ("Unable to prepare runtime configuration directory: " ++ host.configPath)

/-- One step of `_validate_immutable_environment` -/
def validateImmutable (requested : Option String) (persisted name : String) :
    Except SecretsError Unit :=
  match environmentValue requested with
  | none => .ok ()
  | some requested => do
    validateKey name requested
    if !(← compareDigest requested persisted) then throw (.runtimeSecrets (name ++
      " does not match the persisted runtime secret. Implicit key rotation is not supported."))

def validateImmutableEnvironment (current : RuntimeSecrets) (environment : Environment) :
    Except SecretsError Unit := do
  validateImmutable environment.secretKey current.secretKey "SECRET_KEY"
  validateImmutable environment.credentialEncryptionKey current.credentialEncryptionKey
    "CREDENTIAL_ENCRYPTION_KEY"

def requestedAdminPasswordForExistingData (environment : Environment) : Option String :=
  let requested := environmentValue environment.adminPassword
  let defaultOnly := host.lower (String.ofList (strip environment.imageDefaultAdminOnly.toList)) ∈
    ["1", "true", "yes", "on"]
  if defaultOnly ∧ requested = some "admin" then none else requested

/-- The secrets of an existing file, with the password that the environment asks for. -/
def prepareExisting (environment : Environment) : Access RuntimeSecrets := do
  let current ← readRuntimeSecrets host
  Prog.ofExcept (validateImmutableEnvironment current environment)
  match requestedAdminPasswordForExistingData host environment with
  | none => pure current
  | some requested => do
    if ← Prog.ofExcept (compareDigest requested current.adminPassword) then pure current
    else do
      Prog.ofExcept (validateAdminPassword requested)
      let updated := { current with
        adminPassword := requested
        adminSessionRevision := current.adminSessionRevision + 1 }
      writeRuntimeSecrets host updated
      pure updated

def missingKeys (environment : Environment) : List String :=
  [("SECRET_KEY", environment.secretKey),
    ("CREDENTIAL_ENCRYPTION_KEY", environment.credentialEncryptionKey)].filterMap fun key =>
      if environmentValue key.2 = none then some key.1 else none

/-- The first secrets of an installation. -/
def createSecrets (environment : Environment) (tokens : Tokens) : Access RuntimeSecrets := do
  let database ← Prog.look .os fun files => .ok files.database
  if database ∧ missingKeys environment ≠ [] then throw (.runtimeSecrets
    ("Existing MediaSync database has no persisted runtime secrets. Provide the original " ++
      ", ".intercalate (missingKeys environment) ++ " before starting."))
  let created : RuntimeSecrets :=
    { secretKey := (environmentValue environment.secretKey).getD tokens.secretKey
      credentialEncryptionKey := (environmentValue environment.credentialEncryptionKey).getD
        tokens.credentialEncryptionKey
      adminPassword := (environmentValue environment.adminPassword).getD tokens.adminPassword }
  Prog.ofExcept (validateKey "SECRET_KEY" created.secretKey)
  Prog.ofExcept (validateKey "CREDENTIAL_ENCRYPTION_KEY" created.credentialEncryptionKey)
  Prog.ofExcept (validateAdminPassword created.adminPassword)
  writeRuntimeSecrets host created
  pure created

/-- `prepare_runtime_secrets` -/
def prepareRuntimeSecrets (environment : Environment) (tokens : Tokens) :
    Access RuntimeSecrets := do
  ensureConfigDirectory host
  refuseLink host
  let secrets ← Prog.look .os fun files => .ok files.secrets
  if secrets.isSome then prepareExisting host environment else createSecrets host environment tokens

/-- The memory of a service that the launcher has started with these secrets in
its environment, where no value may contain a NUL. -/
def started (values : RuntimeSecrets) : Option AdminCredentialStore :=
  if [values.secretKey, values.credentialEncryptionKey, values.adminPassword].any fun value =>
      Char.ofNat 0 ∈ value.toList then none
  else some { password := values.adminPassword, revision := values.adminSessionRevision }

end Secrets

/-! ## The service -/

structure Service where
  files : Files
  /-- Nothing while the service is down. -/
  memory : Option AdminCredentialStore := none
  deriving DecidableEq, Repr

inductive Happening where
  | change (currentPassword newPassword : String) (faults : Schedule Empty)
  /-- The service stops, if it runs, and the launcher starts it again. -/
  | restart (environment : Environment) (tokens : Tokens) (faults : Schedule Empty)

/-- The service assigns in the end only, and its memory goes with it. -/
def memoryAfter (store : AdminCredentialStore) :
    Outcome SecretsError AdminCredentialStore → Option AdminCredentialStore
  | .value store' => some store'
  | .raised _ => some store
  | .crashed => none

def memoryStarted : Outcome SecretsError RuntimeSecrets → Option AdminCredentialStore
  | .value values => started values
  | .raised _ => none
  | .crashed => none

def Service.step (host : Host) (service : Service) : Happening → Service
  | .change currentPassword newPassword faults =>
    match service.memory with
    | none => service
    | some store =>
      let r := (changePassword host store currentPassword newPassword).run faults service.files
      ⟨r.2.1, memoryAfter store r.1⟩
  | .restart environment tokens faults =>
    let r := (prepareRuntimeSecrets host environment tokens).run faults service.files
    ⟨r.2.1, memoryStarted r.1⟩

def Service.run (host : Host) (service : Service) (happenings : List Happening) : Service :=
  happenings.foldl (Service.step host) service

end MediaSync.RuntimeSecretsFile
