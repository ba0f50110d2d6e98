import V2raySub.Backup.Restore

/-!
The code that a restore writes, against the checksums of a signed manifest.

* `IsCode`: the files that the server renders or reads its configuration from.
* `filesReached`: the files of the archive that a restore gets to copy.
* `sampleBlobLib`, `sampleEngine`, `samplePanel`: a panel with one template, its libraries and its
  engine; `sampleBackup` is a backup of it.
* `restored_code_listed_iff`: what a restore writes as code is listed in the signed manifest, with
  the hash of its bytes, **exactly if the manifest names every code file of the archive** that the
  restore gets to: the verification follows the manifest, the restore what the archive holds.
-/

namespace V2raySub

open FileTree

variable {β δ : Type*}

/-- The file is `.env`, or below `templates/` or `static/`. -/
def IsCode (p : RelPath) : Prop :=
  p = [".env"] ∨ startsWithOneOf restoreCodePrefixes p = true

instance (p : RelPath) : Decidable (IsCode p) := inferInstanceAs (Decidable (_ ∨ _))

/-- The files of the archive that a restore gets to copy, if no fault strikes it: those before the
first that has no place, once the tables are restored. -/
def filesReached (lib : Lib β) (eng : Engine β δ) (call : RestoreCall β) (authentic : Bool)
    (t : Folder β) (panel : Panel β δ) : List (RelPath × β) :=
  match restoreDatabase lib eng t panel.store with
  | .error _ => []
  | .ok _ =>
    (restorePlan call.order authentic call.restoreEnv t).takeWhile fun f => panel.tree.Clear f.1

/-- What a restore has written when it ends, as a list of files. -/
lemma written_restoreFrom {lib : Lib β} {eng : Engine β δ} (heng : eng.Lawful)
    {s : Surroundings β} {call : RestoreCall β} {authentic : Bool} {zip : β} {t : Folder β}
    {emerg : Created β δ} (ht : extractArchive lib zip = .ok t) :
    (restoreFrom lib eng s call authentic zip emerg).written
      = filesLanded lib eng call none authentic t emerg.panel := by
  rw [restoreFrom]
  split_ifs with hstep
  · rw [filesLanded_of_raised]
    exact .inl (by rw [RestoreCall.tryStep]; omega)
  rw [ht]
  dsimp only
  rcases hrun : (machine call.fault.torn).run call.fault.error call.tryStep
      (restoreSteps lib eng s call emerg.filename authentic t)
      ⟨emerg.panel.tree, emerg.panel.store, none, []⟩ with ⟨live, r⟩
  have hlive := ran_of_run heng hrun
  cases r with
  | none => exact hlive.written
  | some e =>
      rw [← hlive.written]
      dsimp only [recover]
      split <;> rfl

/-- Under any fault, a restore writes files that it reaches, where they belong. -/
lemma mem_filesLanded_none {lib : Lib β} {eng : Engine β δ} {call : RestoreCall β}
    {authentic : Bool} {t : Folder β} {panel : Panel β δ} {x : RelPath × β}
    (hx : x ∈ filesLanded lib eng call none authentic t panel) :
    ∃ f ∈ filesReached lib eng call authentic t panel, x = (panel.tree.target f.1, f.2) := by
  cases hd : restoreDatabase lib eng t panel.store with
  | error e => simp [filesLanded, hd] at hx
  | ok d =>
      simp only [filesLanded, filesReached, hd] at hx ⊢
      split_ifs at hx
      · exact Folder.mem_landings_none hx
      · simp at hx

/-- Without a fault, a restore writes every file that it reaches. -/
lemma mem_filesLanded_of_reached {lib : Lib β} {eng : Engine β δ} {call : RestoreCall β}
    {authentic : Bool} {t : Folder β} {panel : Panel β δ} {f : RelPath × β}
    (hf : f ∈ filesReached lib eng call authentic t panel)
    (hstep : 4 + (restorePlan call.order authentic call.restoreEnv t).length ≤ call.tryStep) :
    (panel.tree.target f.1, f.2) ∈ filesLanded lib eng call none authentic t panel := by
  cases hd : restoreDatabase lib eng t panel.store with
  | error e => simp [filesReached, hd] at hf
  | ok d =>
      simp only [filesReached, filesLanded, hd] at hf ⊢
      rw [if_pos (by omega), Folder.landings_of_length_le (by omega)]
      exact List.mem_map_of_mem hf

lemma mem_files_of_reached {lib : Lib β} {eng : Engine β δ} {call : RestoreCall β}
    {authentic : Bool} {t : Folder β} {panel : Panel β δ} {f : RelPath × β}
    (hf : f ∈ filesReached lib eng call authentic t panel) :
    t.file ("files" :: f.1) = some f.2 := by
  rw [filesReached] at hf
  split at hf
  · simp at hf
  · have hplan := (List.takeWhile_sublist _).mem hf
    exact (Folder.mem_walk.mp (List.mem_of_mem_filter hplan)).2

/-! ### A sample panel -/

/-- Byte strings of the sample: a text, the text of a JSON document, an archive, a database file,
and an encrypted file. -/
inductive Blob where
  | text (s : String)
  | json (j : Json)
  | zip (entries : List (Entry Blob))
  | sqlite (settings : List (String × String)) (logs : List BackupLog)
  | sealed (password salt : String) (b : Blob)

/-- The text, if the bytes are one. -/
def Blob.text? : Blob → Option String
  | .text s => some s
  | _ => none

/-- The SHA-256 digests of the files of the sample; those of its archives are only logged. -/
def sampleSha256 : Blob → String
  | .text "<h1>Login</h1>" => "e73354ba37a764ac40c55fbd993c53edb2de94cab062939923a647192ff1bb6f"
  | .text "<h1>Sign in</h1>" => "2440ed498a839b6f95ed8f13e8836ebeaf7c49b4c42d7443e32169cf1d2f74d8"
  | .text "<h1>Planted</h1>" => "a3836612acc74248e1a50944f1598b6f14f5f2768f043e5f7c2e71b5a564d4ef"
  | .text _ => "b4f8f15788f6619913a10986401cd8166407f8e3e7764d4d57ac8322468abea3"
  | .json (.obj [(_, .arr [_, .obj [_, (_, .str "")]])]) =>
    "436da047c573a8754bc02c87fa811947ea58c31530af9a9f6d7f8c4a3be1e477"
  | .json _ => "3dab9de0bd3075639830e63cb3985f8d2a9f17938b94b56ff0691a8bf57e20af"
  | .sqlite [_, (_, "t0ken")] _ =>
    "058ddc858c1c586dff5c527043d3b3bd4789541f34223f100c6b9813fc57ef59"
  | .sqlite [_, (_, "")] _ =>
    "fd3ed39651afa4ba82a6ab2eadab3c41cdbba83ffe86357bd372e8c5f6fcdff7"
  | .sqlite _ _ => "9e1c9b3eb4b0cd3d526332be68fb213c69b6015cda07d647edb3933984686902"
  | _ => ""

/-- The signatures of the sample's manifests: of two emergency backups, and of the backups of two
database files. -/
def sampleHmac : Blob → String
  | .json (.obj manifest) =>
    match Dict.get? manifest "is_emergency", Dict.get? manifest "checksums" with
    | some (.num 1), some (.obj [_, (_, .str
        "fd3ed39651afa4ba82a6ab2eadab3c41cdbba83ffe86357bd372e8c5f6fcdff7"), _, _]) =>
      "600fe490eb706e3c1332f88daa9e6e68150c93c3924a0b32c02784b666ff8b29"
    | some (.num 1), _ => "4879b2bfd83fa56c7c03cd44cc320218d8e482dbd272e8f8d817add0a37cacf9"
    | _, some (.obj [_, (_, .str
        "058ddc858c1c586dff5c527043d3b3bd4789541f34223f100c6b9813fc57ef59"), _, _]) =>
      "54c5bec71c6937e41a4dc0e53acf368bd40a9592a732a8217ba3090dd062e111"
    | _, _ => "7b458097316fc563678e53dd61721cc7ba941c9c81738a8c1f86ecbe51ac29e5"
  | _ => ""

/-- The libraries on the byte strings of the sample. -/
def sampleBlobLib : Lib Blob where
  size
    | .text s => s.utf8ByteSize
    | _ => 16384
  sha256 := sampleSha256
  hmacHex _ := sampleHmac
  loads
    | .json j => .ok j
    | _ => .error "JSONDecodeError"
  dumps := .json
  canonical := .json
  encodeText := .text
  isZipfile
    | .zip _ => true
    | _ => false
  readZip
    | .zip es => .ok es
    | _ => .error "File is not a zip file"
  writeZip := .zip
  hasHeader
    | .sealed _ _ _ => true
    | _ => false
  encrypt := .sealed
  decrypt
    | pw, .sealed pw' _ b => if pw = pw' then .ok b else .error "InvalidTag"
    | _, _ => .error "InvalidTag"

lemma sampleBlobLib_lawful : sampleBlobLib.Lawful where
  readZip_writeZip _ := rfl
  readZip_encrypt _ _ _ := ⟨_, rfl⟩

/-- A store with the settings and the log of backups, and what its main file holds of them. -/
structure SampleStore where
  settings : List (String × String)
  logs : List BackupLog
  main : List (String × String) × List BackupLog

/-- `INSERT OR REPLACE INTO settings`, of a row with a key and a value. -/
def SampleStore.insertSetting (d : SampleStore) (row : Row) : Except String SampleStore :=
  match row.get? "key", row.get? "value" with
  | some (.str k), some (.str v) =>
    .ok { d with settings := d.settings.filter (fun r => r.1 ≠ k) ++ [(k, v)] }
  | _, _ => .error "NOT NULL constraint failed"

/-- The engine on the stores of the sample. -/
def sampleEngine : Engine Blob SampleStore where
  tables _ := ["settings", "backup_logs"]
  columns _ t := if t = "settings" then ["key", "value"] else ["operation", "user", "status"]
  select d t :=
    if t = "settings" then d.settings.map fun r => [("key", .str r.1), ("value", .str r.2)]
    else if t = "backup_logs" then
      d.logs.map fun r =>
        [("operation", .str r.operation), ("user", .str r.user), ("status", .str r.status)]
    else []
  truncate d t :=
    .ok (if t = "settings" then { d with settings := [] }
      else if t = "backup_logs" then { d with logs := [] } else d)
  insert d t columns rows :=
    if t = "settings" then
      rows.foldlM (fun d row => d.insertSetting (columns.zip row)) d
    else .error "no such column"
  log d row := .ok { d with logs := d.logs ++ [row] }
  checkpoint done d := if done then { d with main := (d.settings, d.logs) } else d
  mainFile d := .sqlite d.main.1 d.main.2

lemma sampleEngine_lawful : sampleEngine.Lawful where
  log_select := by
    intro d d' r h t ht
    cases h
    by_cases hs : t = "settings"
    · simp [sampleEngine, hs]
    · simp [sampleEngine, hs, ht]
  checkpoint_select := by
    intro done d t
    cases done <;> rfl
  mainFile_select := by
    intro d d' h t
    obtain ⟨hs, hl⟩ := Blob.sqlite.inj h
    simp only [sampleEngine, show d.settings = d'.settings from hs, show d.logs = d'.logs from hl]

/-- The process of the sample. -/
def sampleProcess : Process :=
  { secretKey := "sample-secret-key", cryptoAvailable := true, backupEncryptionPassword := none }

/-- Directory listings in the order of the nodes. -/
def sampleListing : Listing Blob := ⟨id, fun _ => .refl _⟩

/-- The surroundings of the calls of the sample. -/
def sampleSurroundings : Surroundings Blob :=
  { timestamp := "2026-01-05_10-00-00-000000", createdAt := "2026-01-05 10:00:00",
    createdAtUtc := "2026-01-05 10:00:00", duration := "0.05", platform := "Linux-6.8.0-x86_64",
    hostname := "panel", pythonVersion := "3.12.3", sqliteVersion := "3.45.1", os := "Linux",
    machine := "x86_64", timezone := "UTC", order := sampleListing, checkpointDone := true,
    salt := "" }

/-- A directory with one file. -/
def oneFile (p : RelPath) (b : Blob) (h : Named p) : Folder Blob where
  nodes := [(p, some b)]
  keyed := by simp [Rows.Keyed]
  named := by simpa using h
  leaf := by simp

/-- A panel with one template. -/
def samplePanel (template : String) : Panel Blob SampleStore where
  tree := oneFile ["templates", "login.html"] (.text template) (by decide)
  store := { settings := [("panel_title", "My panel"), ("api_token", "t0ken")], logs := [],
             main := ([], []) }

/-- A call of `create_backup` by hand. -/
def sampleBackupCall : BackupCall :=
  { user := "admin", backupType := "standard", password := none, triggerDelivery := true,
    isEmergency := false, restoreSessionId := none }

/-- The value of a computation that went through. -/
def okOf {ε α : Type*} : (x : Except ε α) → x.isOk = true → α
  | .ok a, _ => a
  | .error _, h => nomatch h

lemma eq_okOf {ε α : Type*} (x : Except ε α) (h : x.isOk = true) : x = .ok (okOf x h) := by
  cases x with
  | ok a => rfl
  | error e => cases h

/-- The backup of the sample panel. -/
def sampleBackup : Created Blob SampleStore :=
  okOf (createBackup sampleBlobLib sampleEngine sampleProcess sampleSurroundings sampleBackupCall
    (samplePanel "<h1>Login</h1>")) (by decide)

/-- No key of the sample's checksums leads out of the archive. -/
def noOutside (_ : String) : Lookup Blob := .missing

/-- A restore of an archive, which no fault strikes. -/
def sampleRestoreCall (data : Blob) : RestoreCall Blob :=
  { data := data, password := none, restoreEnv := false, user := "admin", sessionId := "5b0f4c1e",
    order := sampleListing, fault := ⟨100, "", none⟩ }

/-! ### Authenticity -/

/-- **Authenticity of restored code.**  For an archive that is accepted because its signature
verifies, every code file that a restore writes, whatever strikes it, is listed in the manifest
with the hash of its bytes, exactly if the manifest names every code file that a restore gets to,
and no directory of the panel has the place of one. -/
theorem restored_code_listed_iff {lib : Lib β} {eng : Engine β δ} (heng : eng.Lawful)
    {proc : Process} {s : Surroundings β} {outside : String → Lookup β} {call : RestoreCall β}
    {panel : Panel β δ} {v : Verdict} {zip : β} {t : Folder β} {manifest checksums : Dict}
    (hver : verifyBackup lib proc outside call.data call.password = .ok v)
    (hcompat : v.status ≠ .incompatible)
    (hzip : decryptArchive lib proc call.data call.password = .ok zip)
    (ht : extractArchive lib zip = .ok t)
    (hmanifest : readManifest lib t = .ok (manifest, checksums))
    (hsig : authenticSig lib proc manifest = true) :
    (∀ fault, ∀ f ∈ (restoreBackup lib eng proc s outside { call with fault := fault }
        panel).written, IsCode f.1 → Lists lib checksums f.1 f.2)
      ↔ ∀ emerg, createBackup lib eng proc s (emergencyCall call) panel = .ok emerg →
        ∀ f ∈ filesReached lib eng call true t emerg.panel, IsCode (emerg.panel.tree.target f.1) →
          emerg.panel.tree.isDir f.1 = false ∧ Names checksums f.1 := by
  obtain ⟨t', manifest', checksums', hv⟩ := verified_of_ok hver
  obtain ⟨zip', hzip', ht'⟩ := hv.extracted
  obtain rfl : zip = zip' := Except.ok.inj (hzip.symm.trans hzip')
  obtain rfl : t = t' := Except.ok.inj (ht.symm.trans ht')
  obtain ⟨rfl, rfl⟩ := Prod.mk.inj (Except.ok.inj (hmanifest.symm.trans hv.read))
  have hauth : v.authentic = true := by rw [hv.authentic_eq, hsig, Bool.true_or]
  -- what a restore writes, once the emergency backup is taken
  have hwritten : ∀ fault emerg, createBackup lib eng proc s (emergencyCall call) panel
      = .ok emerg → (restoreBackup lib eng proc s outside { call with fault := fault }
        panel).written
          = filesLanded lib eng { call with fault := fault } none true t emerg.panel := by
    intro fault emerg hemerg
    have hemerg' : createBackup lib eng proc s
        (emergencyCall { call with fault := fault }) panel = .ok emerg := hemerg
    rw [restoreBackup]
    simp only [hver, if_neg hcompat, hzip, hemerg', hauth]
    exact written_restoreFrom heng ht
  constructor
  · intro h emerg hemerg f hf hcode
    have hmem : (emerg.panel.tree.target f.1, f.2) ∈ filesLanded lib eng
        { call with
          fault := ⟨6 + (restorePlan call.order true call.restoreEnv t).length, "", none⟩ }
        none true t emerg.panel :=
      mem_filesLanded_of_reached hf (by simp only [RestoreCall.tryStep]; omega)
    rw [← hwritten _ _ hemerg] at hmem
    obtain ⟨item, hitem, hkey, -⟩ := h _ _ hmem hcode
    -- the manifest names the place, so that the archive has a file there: this one
    obtain ⟨b, hb, -⟩ := hv.lists_of_names ⟨item, hitem, hkey⟩
    obtain ⟨r, hr⟩ := emerg.panel.tree.target_eq_append f.1
    have hleaf := t.leaf _ (Folder.file_eq_some_iff.mp (mem_files_of_reached hf)) _
      (Folder.file_eq_some_iff.mp hb) rfl
      (List.cons_prefix_cons.mpr ⟨rfl, hr ▸ List.prefix_append f.1 r⟩)
    have htarget : f.1 = emerg.panel.tree.target f.1 := (List.cons.inj hleaf).2
    refine ⟨?_, item, hitem, htarget ▸ hkey⟩
    by_contra hdir
    rw [Folder.target, if_pos (by simpa using hdir)] at htarget
    exact absurd (congrArg List.length htarget) (by simp)
  · intro h fault x hx hcode
    cases hemerg : createBackup lib eng proc s (emergencyCall call) panel with
    | error e =>
        have hemerg' : createBackup lib eng proc s
            (emergencyCall { call with fault := fault }) panel = .error e := hemerg
        rw [restoreBackup] at hx
        simp only [hver, if_neg hcompat, hzip, hemerg', List.not_mem_nil] at hx
    | ok emerg =>
        rw [hwritten fault emerg hemerg] at hx
        obtain ⟨f, hf, rfl⟩ := mem_filesLanded_none hx
        obtain ⟨hdir, hnames⟩ := h emerg hemerg f hf hcode
        obtain ⟨b, hb, hlists⟩ := hv.lists_of_names hnames
        have hfb : f.2 = b := Option.some.inj ((mem_files_of_reached hf).symm.trans hb)
        have htarget : emerg.panel.tree.target f.1 = f.1 := by
          rw [Folder.target, if_neg (by simp [hdir])]
        rw [htarget]
        dsimp only
        rw [hfb]
        exact hlists

/-- The contents of the sample's archive. -/
def sampleTree : Folder Blob := okOf (extractArchive sampleBlobLib sampleBackup.data) (by decide)

/-- Its manifest, and the items of the checksums. -/
def sampleManifest : Dict × Dict := okOf (readManifest sampleBlobLib sampleTree) (by decide)

theorem restored_code_listed_iff_sample :
    (∀ fault, ∀ f ∈ (restoreBackup sampleBlobLib sampleEngine sampleProcess sampleSurroundings
        noOutside { sampleRestoreCall sampleBackup.data with fault := fault }
        (samplePanel "<h1>Sign in</h1>")).written,
        IsCode f.1 → Lists sampleBlobLib sampleManifest.2 f.1 f.2)
      ↔ ∀ emerg, createBackup sampleBlobLib sampleEngine sampleProcess sampleSurroundings
          (emergencyCall (sampleRestoreCall sampleBackup.data)) (samplePanel "<h1>Sign in</h1>")
            = .ok emerg →
        ∀ f ∈ filesReached sampleBlobLib sampleEngine (sampleRestoreCall sampleBackup.data) true
            sampleTree emerg.panel, IsCode (emerg.panel.tree.target f.1) →
          emerg.panel.tree.isDir f.1 = false ∧ Names sampleManifest.2 f.1 :=
  restored_code_listed_iff sampleEngine_lawful (eq_okOf _ (by decide)) (by decide)
    (eq_okOf _ (by decide)) (eq_okOf _ (by decide)) (eq_okOf _ (by decide)) (by decide)

/-- The sample's archive with one more template, which its signed manifest does not name. -/
def tamperedArchive : Blob :=
  .zip (sampleBackup.entries
    ++ [⟨["files", "templates", "index.html"], .text "<h1>Planted</h1>"⟩])

/-- The archive is accepted by its signature, and the planted template is restored. -/
theorem unlisted_template_restored :
    ∃ v zip t manifest checksums,
      verifyBackup sampleBlobLib sampleProcess noOutside tamperedArchive none = .ok v
        ∧ v.status = .compatible ∧ v.authentic = true
        ∧ decryptArchive sampleBlobLib sampleProcess tamperedArchive none = .ok zip
        ∧ extractArchive sampleBlobLib zip = .ok t
        ∧ readManifest sampleBlobLib t = .ok (manifest, checksums)
        ∧ authenticSig sampleBlobLib sampleProcess manifest = true
        ∧ ∃ f ∈ (restoreBackup sampleBlobLib sampleEngine sampleProcess sampleSurroundings
            noOutside (sampleRestoreCall tamperedArchive)
            (samplePanel "<h1>Sign in</h1>")).written,
          IsCode f.1 ∧ ¬ Lists sampleBlobLib checksums f.1 f.2 := by
  refine ⟨_, _, _, _, _, eq_okOf _ (by decide), by decide, by decide, eq_okOf _ (by decide),
    eq_okOf _ (by decide), eq_okOf _ (by decide), by decide, ?_⟩
  have hmem : ["templates", "index.html"] ∈ (restoreBackup sampleBlobLib sampleEngine
      sampleProcess sampleSurroundings noOutside (sampleRestoreCall tamperedArchive)
      (samplePanel "<h1>Sign in</h1>")).written.map Prod.fst := by decide
  obtain ⟨f, hf, hp⟩ := List.mem_map.mp hmem
  refine ⟨f, hf, ?_, ?_⟩
  · rw [hp]
    decide
  · rw [hp]
    rintro ⟨item, hitem, hkey, -⟩
    exact absurd ⟨item, hitem, hkey⟩ (by decide : ¬ Names _ ["templates", "index.html"])

end V2raySub
