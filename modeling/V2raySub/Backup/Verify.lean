import V2raySub.Backup.Schema

/-!
`verify_backup`: an archive is unpacked into a fresh directory, its manifest is read, and the
files that the manifest lists are compared with their checksums.

* `Rejection`: the answers with `success` false, with their messages.
* `verifyBackup`: the function, stage by stage; `Verified` is what an accepted archive has gone
  through (`verified_of_ok`).
* `Names`, `Lists`: the manifest names a file under `files/`, and with the hash of these bytes;
  `Verified.lists_of_names` says that what an accepted archive names, it lists as it is.
-/

namespace V2raySub

open FileTree

/-! ### Answers -/

/-- The compatibility level of an accepted archive. -/
inductive Compat where
  | compatible
  | compatibleWithWarning
  | incompatible
  deriving DecidableEq

/-- `status`, as the answer spells it. -/
def Compat.text : Compat → String
  | .compatible => "Compatible"
  | .compatibleWithWarning => "Compatible With Warning"
  | .incompatible => "Incompatible"

/-- The answers with `success` false; all of them have the status `Incompatible`.  Where the
message ends in the text of an exception, that is the argument. -/
inductive Rejection where
  | invalidOrWrongPassword
  | decryptionFailed (e : String)
  | passwordMissing
  | notZip
  | passwordRequired
  | wrongPasswordOrDamaged (e : String)
  | manifestMissing
  | fieldMissing (field : String)
  | listedFileMissing (relPath : String)
  | checksumMismatch (relPath : String)
  | databaseMissing
  | exception (e : String)
  deriving DecidableEq

/-- `message`. -/
def Rejection.message : Rejection → String
  | .invalidOrWrongPassword => "فایل پشتیبان معتبر نیست یا رمز عبور اشتباه است"
  | .decryptionFailed e => "خطا در رمزگشایی بکاپ: " ++ e
  | .passwordMissing => "این فایل رمزگذاری شده است. لطفاً رمز عبور را وارد کنید."
  | .notZip => "فایل آپلود شده یک آرشیو معتبر ZIP نیست"
  | .passwordRequired => "رمز عبور برای رمزگشایی فایل الزامی است"
  | .wrongPasswordOrDamaged e => "رمز عبور اشتباه است یا فایل خراب شده است: " ++ e
  | .manifestMissing => "فایل مانیفست (manifest.json) در آرشیو یافت نشد"
  | .fieldMissing field => "فیلد " ++ field ++ " در مانیفست وجود ندارد"
  | .listedFileMissing relPath =>
    "فایل " ++ relPath ++ " ذکر شده در مانیفست در آرشیو یافت نشد"
  | .checksumMismatch relPath =>
    "عدم مطابقت جمع کنترلی (Checksum) برای فایل: " ++ relPath
  | .databaseMissing => "فایل داده‌های دیتابیس (database.json) در آرشیو یافت نشد"
  | .exception e => "خطا در اعتبارسنجی بکاپ: " ++ e

/-- The figures of an answer. -/
structure Stats where
  createdAt : Option Json
  backupType : Option Json
  backupVersion : Option Json
  appVersion : Json
  usersCount : Json
  configsCount : Json
  sourcesCount : Json
  databaseRecordCounts : Json

/-- The answer with `success` true. -/
structure Verdict where
  status : Compat
  message : String
  stats : Stats
  encrypted : Bool
  authentic : Bool

/-! ### Reading the archive -/

variable {β : Type*}

/-- What is found at a path: `os.path.exists`, and what `open` then does. -/
inductive Lookup (β : Type*) where
  | missing
  | dir
  | file (b : β)

/-- The path in a directory. -/
def lookup (t : Folder β) (p : RelPath) : Lookup β :=
  match t.file p with
  | some b => .file b
  | none => if t.isDir p then .dir else .missing

/-- `open` and `json.load`.  Where the operating system raises, the name of the exception stands
for its text. -/
def readJson (lib : Lib β) (t : Folder β) (p : RelPath) : Except String Json :=
  match lookup t p with
  | .file b => lib.loads b
  | .dir => .error "IsADirectoryError"
  | .missing => .error "FileNotFoundError"

/-- The archive check: a ZIP file, or one after decryption. -/
def checkArchive (lib : Lib β) (proc : Process) (data : β) (password : Option String) :
    Except Rejection Unit :=
  if lib.isZipfile data then .ok ()
  else match proc.cryptoAvailable, givenPassword password with
    | true, some pw =>
      match decryptBytes lib proc data pw with
      | .error e => .error (.decryptionFailed e)
      | .ok z => if lib.isZipfile z then .ok () else .error .invalidOrWrongPassword
    | _, _ => .error (if lib.hasHeader data then .passwordMissing else .notZip)

/-- The ZIP file to extract: the archive itself, or decrypted if it has the header. -/
def decryptArchive (lib : Lib β) (proc : Process) (data : β) (password : Option String) :
    Except Rejection β :=
  if lib.hasHeader data then
    match givenPassword password with
    | none => .error .passwordRequired
    | some pw => (decryptBytes lib proc data pw).mapError .wrongPasswordOrDamaged
  else .ok data

/-- `ZipFile(zip).extractall` into a fresh directory. -/
def extractArchive (lib : Lib β) (zip : β) : Except String (Folder β) :=
  match lib.readZip zip with
  | .error e => .error e
  | .ok es =>
    match extract es with
    | none => .error "OSError"
    | some t => .ok t

/-- The fields that a manifest must have. -/
def requiredFields : List String :=
  ["backup_version", "application_version", "created_at", "backup_type", "checksums"]

/-- The manifest, with its required fields and the items of its checksums. -/
def readManifest (lib : Lib β) (t : Folder β) : Except Rejection (Dict × Dict) :=
  match lookup t ["manifest.json"] with
  | .missing => .error .manifestMissing
  | _ =>
    match readJson lib t ["manifest.json"] with
    | .error e => .error (.exception e)
    | .ok manifest =>
      match requiredFields.find? fun f => manifest.contains? f != some true with
      | some f =>
        .error (if (manifest.contains? f).isNone then .exception "TypeError" else .fieldMissing f)
      | none =>
        match manifest with
        | .obj fields =>
          match Dict.get? fields "checksums" with
          | some (.obj checksums) => .ok (fields, checksums)
          | _ => .error (.exception "AttributeError")
        | _ => .error (.exception "TypeError")

/-- The path below the directory that a key of the checksums is, if all its parts are names; the
others lead elsewhere, or through `.` and `..`. -/
def keyPath (relPath : String) : Option RelPath :=
  let p := PyText.splitOn '/' relPath
  if p.all isName then some p else none

/-- What is found at a key of the checksums; `outside` answers for the keys that are no path below
the directory. -/
def lookupKey (outside : String → Lookup β) (t : Folder β) (relPath : String) : Lookup β :=
  match keyPath relPath with
  | some p => lookup t p
  | none => outside relPath

/-- One round of the checksums loop. -/
def checkListed (lib : Lib β) (outside : String → Lookup β) (t : Folder β)
    (item : String × Json) : Except Rejection Unit :=
  match lookupKey outside t item.1 with
  | .missing => .error (.listedFileMissing item.1)
  | .dir => .error (.exception "IsADirectoryError")
  | .file b =>
    if item.2.isStr (lib.sha256 b) then .ok () else .error (.checksumMismatch item.1)

/-- The checksums loop. -/
def checkChecksums (lib : Lib β) (outside : String → Lookup β) (t : Folder β) :
    Dict → Except Rejection Unit
  | [] => .ok ()
  | item :: items =>
    match checkListed lib outside t item with
    | .error r => .error r
    | .ok () => checkChecksums lib outside t items

/-- `authentic_sig`. -/
def authenticSig (lib : Lib β) (proc : Process) (manifest : Dict) : Bool :=
  match manifest.get? "signature" with
  | some sig => sig.truthy && sig.pyStr? == some (manifestSignature lib proc manifest)
  | none => false

/-- The compatibility level and its message, by the major version. -/
def compatibility (appVersion : Json) : Compat × String :=
  match appVersion with
  | .str v =>
    match PyText.intOfStr? ((PyText.splitOn '.' v).headD "") with
    | some major =>
      if major < 3 then
        (.compatibleWithWarning, "نسخه بکاپ قدیمی‌تر است (" ++ v
          ++ " -> 3.0.0). ارتقاء خودکار پایگاه داده انجام خواهد شد.")
      else if 3 < major then
        (.incompatible, "نسخه بکاپ جدیدتر از نسخه پنل است (" ++ v
          ++ " -> 3.0.0). امکان بازیابی وجود ندارد.")
      else (.compatible, "فایل بکاپ کاملاً معتبر و سازگار است")
    | none => (.compatibleWithWarning, "عدم انطباق نسخه؛ بازیابی با هشدار انجام می‌شود")
  | _ => (.compatibleWithWarning, "عدم انطباق نسخه؛ بازیابی با هشدار انجام می‌شود")

/-- The figures; `none` where the record counts are no dictionary. -/
def readStats (manifest : Dict) (appVersion : Json) : Option Stats :=
  match (manifest.get? "database_record_counts").getD (.obj []) with
  | .obj counts =>
    some {
      createdAt := manifest.get? "created_at"
      backupType := manifest.get? "backup_type"
      backupVersion := manifest.get? "backup_version"
      appVersion := appVersion
      usersCount := (Dict.get? counts "users").getD (.num 0)
      configsCount := (Dict.get? counts "configs").getD (.num 0)
      sourcesCount := (Dict.get? counts "auto_sources").getD (.num 0)
      databaseRecordCounts := .obj counts }
  | _ => none

/-- The answer for an archive whose checksums hold. -/
def judge (lib : Lib β) (proc : Process) (t : Folder β) (manifest : Dict) (encrypted : Bool) :
    Except Rejection Verdict :=
  match lookup t ["database.json"] with
  | .missing => .error .databaseMissing
  | _ =>
    match readJson lib t ["database.json"] with
    | .error e => .error (.exception e)
    | .ok _ =>
      let appVersion := (manifest.get? "application_version").getD (.str "1.0.0")
      match readStats manifest appVersion with
      | none => .error (.exception "AttributeError")
      | some stats =>
        .ok {
          status := (compatibility appVersion).1
          message := (compatibility appVersion).2
          stats := stats
          encrypted := encrypted
          authentic := authenticSig lib proc manifest || encrypted }

/-- `verify_backup`. -/
def verifyBackup (lib : Lib β) (proc : Process) (outside : String → Lookup β) (data : β)
    (password : Option String) : Except Rejection Verdict :=
  match checkArchive lib proc data password with
  | .error r => .error r
  | .ok () =>
    match decryptArchive lib proc data password with
    | .error r => .error r
    | .ok zip =>
      match extractArchive lib zip with
      | .error e => .error (.exception e)
      | .ok t =>
        match readManifest lib t with
        | .error r => .error r
        | .ok (manifest, checksums) =>
          match checkChecksums lib outside t checksums with
          | .error r => .error r
          | .ok () => judge lib proc t manifest (lib.hasHeader data)

/-! ### What was verified -/

/-- The manifest names the file at this path below `files/`. -/
def Names (checksums : Dict) (p : RelPath) : Prop :=
  ∃ item ∈ checksums, keyPath item.1 = some ("files" :: p)

/-- The manifest lists the file at this path below `files/` with the hash of these bytes. -/
def Lists (lib : Lib β) (checksums : Dict) (p : RelPath) (b : β) : Prop :=
  ∃ item ∈ checksums, keyPath item.1 = some ("files" :: p) ∧ item.2 = .str (lib.sha256 b)

instance (checksums : Dict) (p : RelPath) : Decidable (Names checksums p) :=
  inferInstanceAs (Decidable (∃ item ∈ checksums, _))

/-- What an accepted archive has gone through. -/
structure Verified (lib : Lib β) (proc : Process) (outside : String → Lookup β) (data : β)
    (password : Option String) (v : Verdict) (t : Folder β) (manifest checksums : Dict) : Prop where
  extracted : ∃ zip, decryptArchive lib proc data password = .ok zip ∧
    extractArchive lib zip = .ok t
  read : readManifest lib t = .ok (manifest, checksums)
  checked : ∀ item ∈ checksums, checkListed lib outside t item = .ok ()
  judged : judge lib proc t manifest (lib.hasHeader data) = .ok v

lemma checkChecksums_eq_ok {lib : Lib β} {outside : String → Lookup β} {t : Folder β}
    {checksums : Dict} (h : checkChecksums lib outside t checksums = .ok ()) :
    ∀ item ∈ checksums, checkListed lib outside t item = .ok () := by
  induction checksums with
  | nil => simp
  | cons item items ih =>
      rw [checkChecksums] at h
      split at h
      · cases h
      · next hitem => exact List.forall_mem_cons.mpr ⟨hitem, ih h⟩

lemma verified_of_ok {lib : Lib β} {proc : Process} {outside : String → Lookup β} {data : β}
    {password : Option String} {v : Verdict}
    (h : verifyBackup lib proc outside data password = .ok v) :
    ∃ t manifest checksums, Verified lib proc outside data password v t manifest checksums := by
  rw [verifyBackup] at h
  split at h
  · cases h
  split at h
  · cases h
  next zip hzip =>
    split at h
    · cases h
    next t ht =>
      split at h
      · cases h
      next manifest checksums hm =>
        split at h
        · cases h
        next hc =>
          exact ⟨t, manifest, checksums, ⟨zip, hzip, ht⟩, hm, checkChecksums_eq_ok hc, h⟩

lemma Verified.authentic_eq {lib : Lib β} {proc : Process} {outside : String → Lookup β}
    {data : β} {password : Option String} {v : Verdict} {t : Folder β} {manifest checksums : Dict}
    (h : Verified lib proc outside data password v t manifest checksums) :
    v.authentic = (authenticSig lib proc manifest || lib.hasHeader data) := by
  have hj := h.judged
  rw [judge] at hj
  split at hj
  · cases hj
  split at hj
  · cases hj
  dsimp only at hj
  split at hj
  · cases hj
  cases hj
  rfl

/-- A file that the manifest of an accepted archive names is in the archive, and is listed with
the hash of its bytes there. -/
lemma Verified.lists_of_names {lib : Lib β} {proc : Process} {outside : String → Lookup β}
    {data : β} {password : Option String} {v : Verdict} {t : Folder β} {manifest checksums : Dict}
    (h : Verified lib proc outside data password v t manifest checksums) {p : RelPath}
    (hp : Names checksums p) : ∃ b, t.file ("files" :: p) = some b ∧ Lists lib checksums p b := by
  obtain ⟨item, hitem, hkey⟩ := hp
  have hc := h.checked item hitem
  rw [checkListed, lookupKey, hkey] at hc
  dsimp only [lookup] at hc
  cases hfile : t.file ("files" :: p) with
  | none =>
      rw [hfile] at hc
      cases hdir : t.isDir ("files" :: p) <;> simp [hdir] at hc
  | some b =>
      simp only [hfile] at hc
      split_ifs at hc with hsha
      exact ⟨b, rfl, item, hitem, hkey, Json.isStr_iff.mp hsha⟩

end V2raySub
