import V2raySub.Base.FileTree
import V2raySub.Base.Json
import V2raySub.Base.PyText

/-!
What the backup service works on (`services/backup_service.py`): the libraries it calls, the
database engine, the panel's files, and its constants.

* `Lib`: the digests, the JSON and ZIP libraries and the cipher, on an arbitrary type of byte
  strings; `Lib.Lawful` is what the service relies on.
* `Engine`: the SQLite connection, on an arbitrary type of stores; `Engine.Lawful` likewise.
* `Panel`: the files under `BASE_DIR` and the store.  `BASE_DIR/database.db` is the main file of
  the store, and is read from there.
-/

namespace V2raySub

open FileTree

/-! ### Libraries -/

/-- The library functions on byte strings.  `encrypt` is `_encrypt_bytes` after its check, with the
password and the random salt and nonce; an `Except.error` carries the text of the exception. -/
structure Lib (β : Type*) where
  size : β → ℕ
  sha256 : β → String
  hmacHex : String → β → String
  loads : β → Except String Json
  dumps : Json → β
  canonical : Json → β
  encodeText : String → β
  isZipfile : β → Bool
  readZip : β → Except String (List (Entry β))
  writeZip : List (Entry β) → β
  hasHeader : β → Bool
  encrypt : String → String → β → β
  decrypt : String → β → Except String β

/-- An archive reads back as it was written, and what was encrypted is no ZIP file. -/
structure Lib.Lawful {β : Type*} (lib : Lib β) : Prop where
  readZip_writeZip : ∀ es, lib.readZip (lib.writeZip es) = .ok es
  readZip_encrypt : ∀ pw salt b, ∃ e, lib.readZip (lib.encrypt pw salt b) = .error e

/-- A row of a table, by its columns: `dict(row)`. -/
abbrev Row := Dict

/-- A row of `backup_logs`, as the service inserts it. -/
structure BackupLog where
  operation : String
  user : String
  status : String
  duration : String
  backupSize : ℕ
  errorMessage : Option String
  deliveryStatus : String
  checksum : Option String

/-- The database engine.  `checkpoint` is `PRAGMA wal_checkpoint(TRUNCATE)`, going through or
not; `mainFile` is what `database.db` holds, the write-ahead log apart. -/
structure Engine (β δ : Type*) where
  tables : δ → List String
  columns : δ → String → List String
  select : δ → String → List Row
  truncate : δ → String → Except String δ
  insert : δ → String → List String → List (List Json) → Except String δ
  log : δ → BackupLog → Except String δ
  checkpoint : Bool → δ → δ
  mainFile : δ → β

/-- A log row touches no other table, a checkpoint moves data between the files without a change
to any row, and after one that went through the main file holds every row. -/
structure Engine.Lawful {β δ : Type*} (eng : Engine β δ) : Prop where
  log_select : ∀ {d d' r}, eng.log d r = .ok d' → ∀ t, t ≠ "backup_logs" →
    eng.select d' t = eng.select d t
  checkpoint_select : ∀ done d t, eng.select (eng.checkpoint done d) t = eng.select d t
  mainFile_select : ∀ {d d'},
    eng.mainFile (eng.checkpoint true d) = eng.mainFile (eng.checkpoint true d') →
      ∀ t, eng.select d t = eng.select d' t

/-- The files under `BASE_DIR`, the database file apart, and the store. -/
structure Panel (β δ : Type*) where
  tree : Folder β
  store : δ

/-- What the process was started with: `Config.SECRET_KEY`, `CRYPTO_AVAILABLE` and the variable
`BACKUP_ENCRYPTION_PASSWORD`. -/
structure Process where
  secretKey : String
  cryptoAvailable : Bool
  backupEncryptionPassword : Option String

/-- A password that is given and not empty. -/
def givenPassword (password : Option String) : Option String := password.filter (· ≠ "")

/-- `_decrypt_bytes`. -/
def decryptBytes {β : Type*} (lib : Lib β) (proc : Process) (data : β) (password : String) :
    Except String β :=
  if !proc.cryptoAvailable then .error "Cryptography library not available on system."
  else if !lib.hasHeader data then .error "Data is not encrypted or has an invalid header."
  else lib.decrypt password data

/-- `_manifest_signature`. -/
def manifestSignature {β : Type*} (lib : Lib β) (proc : Process) (manifest : Dict) : String :=
  lib.hmacHex proc.secretKey (lib.canonical (.obj (manifest.without "signature")))

/-! ### Constants -/

/-- `SENSITIVE_SETTING_KEYS`. -/
def sensitiveSettingKeys : List String := ["backup_telegram_bot_token", "api_token"]

/-- The key of a settings row is among `SENSITIVE_SETTING_KEYS`. -/
def isSensitive (row : Row) : Bool :=
  sensitiveSettingKeys.any fun k => ((row.get? "key").map fun v => v.isStr k).getD false

/-- `RESTORE_ALLOWED_EXACT`. -/
def restoreAllowedExact : List RelPath := [[".env"]]

/-- `RESTORE_ALLOWED_PREFIXES`, by their first component. -/
def restoreAllowedPrefixes : List String := ["templates", "static", "storage"]

/-- `RESTORE_SILENTLY_SKIPPED`. -/
def restoreSilentlySkipped : List RelPath :=
  [["database.db"], ["database.db-wal"], ["database.db-shm"]]

/-- `RESTORE_CODE_PREFIXES`, by their first component. -/
def restoreCodePrefixes : List String := ["templates", "static"]

/-- `rel.startswith(prefixes)`, for prefixes of the form `name/`. -/
def startsWithOneOf (prefixes : List String) (rel : RelPath) : Bool :=
  match rel with
  | c :: _ :: _ => prefixes.contains c
  | _ => false

/-- The path `constants.DATABASE`, from `BASE_DIR`. -/
def databasePath : RelPath := ["database.db"]

/-- A path of `RUNTIME_DATA_MANIFEST`; `slash` if it is written with a slash at the end, so that
only a directory is found there. -/
structure RuntimePath where
  path : RelPath
  slash : Bool

/-- A category of `RUNTIME_DATA_MANIFEST`. -/
structure Category where
  name : String
  paths : List RuntimePath
  exclude : List RelPath
  sensitive : Bool

/-- `RUNTIME_DATA_MANIFEST`. -/
def runtimeDataManifest : List Category :=
  [{ name := "database", paths := [⟨databasePath, false⟩], exclude := [], sensitive := false },
   { name := "custom_templates", paths := [⟨["templates"], true⟩], exclude := [],
     sensitive := false },
   { name := "custom_static_assets", paths := [⟨["static"], true⟩], exclude := [],
     sensitive := false },
   { name := "storage", paths := [⟨["storage"], true⟩], exclude := [["storage", "backups"]],
     sensitive := false },
   { name := "configuration", paths := [⟨[".env"], false⟩], exclude := [], sensitive := true }]

/-- The directory of the archives, from `BASE_DIR` (`get_backup_dir`). -/
def backupDir : RelPath := ["storage", "backups"]

end V2raySub
