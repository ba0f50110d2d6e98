import V2raySub.Backup.Schema

/-!
`create_backup`: the tables as `database.json`, the files of the runtime manifest, a log and a
signed manifest, packed into an archive that is encrypted for a full backup with a password.

* `exportTable`: the rows of a table, the secrets blanked unless the backup is a full one.
* `exportFiles`: the files, by the categories of the runtime manifest; `mem_exportFiles` says
  which they are.
* `archiveEntries`, `createBackup`: the archive, and what the call leaves behind.
* `extract_entries`: the archive unpacks to the entries it was made of.
-/

namespace V2raySub

open FileTree

variable {β δ : Type*}

/-- The arguments of a call. -/
structure BackupCall where
  user : String
  backupType : String
  password : Option String
  triggerDelivery : Bool
  isEmergency : Bool
  restoreSessionId : Option String

/-- What a call reads from its surroundings: the clock, the machine, the order of directory
listings, whether the checkpoint goes through, and the random salt and nonce. -/
structure Surroundings (β : Type*) where
  timestamp : String
  createdAt : String
  createdAtUtc : String
  duration : String
  platform : String
  hostname : String
  pythonVersion : String
  sqliteVersion : String
  os : String
  machine : String
  timezone : String
  order : Listing β
  checkpointDone : Bool
  salt : String

/-- The backup is one of the type `full_dr`. -/
def BackupCall.isFull (call : BackupCall) : Bool := call.backupType = "full_dr"

/-! ### The tables -/

/-- A row of `settings` as a backup that is no full one carries it. -/
def redactRow (row : Row) : Row := if isSensitive row then row.set "value" (.str "") else row

/-- The tables that are exported. -/
def exportedTables (eng : Engine β δ) (store : δ) : List String :=
  (eng.tables store).filter (· ≠ "backup_logs")

/-- `db_data[t]`. -/
def exportTable (eng : Engine β δ) (call : BackupCall) (store : δ) (t : String) : List Row :=
  if t = "settings" ∧ !call.isFull then (eng.select store t).map redactRow
  else eng.select store t

/-- `database.json`. -/
def databaseJson (lib : Lib β) (eng : Engine β δ) (call : BackupCall) (store : δ) : β :=
  lib.dumps (.obj ((exportedTables eng store).map fun t =>
    (t, .arr ((exportTable eng call store t).map .obj))))

/-! ### The files -/

/-- `root_abs.startswith(exc_full)`: a prefix as text, so that the last component may go on. -/
def textPrefix : RelPath → RelPath → Bool
  | [], _ => true
  | _ :: _, [] => false
  | [e], c :: _ => e.toList.isPrefixOf c.toList
  | e :: es, c :: cs => e = c && textPrefix es cs

/-- The file is in a directory that the category leaves out. -/
def isExcluded (exclude : List RelPath) (p : RelPath) : Bool :=
  exclude.any fun exc => textPrefix exc p.dropLast

/-- `os.path.isfile` below `BASE_DIR`, with the main file of the store as the database. -/
def panelFile (eng : Engine β δ) (panel : Panel β δ) (p : RelPath) : Option β :=
  if p = databasePath then some (eng.mainFile panel.store) else panel.tree.file p

/-- The files of one path of the runtime manifest. -/
def exportPath (eng : Engine β δ) (o : Listing β) (panel : Panel β δ) (exclude : List RelPath)
    (rp : RuntimePath) : List (RelPath × β) :=
  match rp.slash, panelFile eng panel rp.path with
  | false, some b => [(rp.path, b)]
  | _, _ =>
    ((panel.tree.walk o rp.path).map fun f => (rp.path ++ f.1, f.2)).filter fun f =>
      !isExcluded exclude f.1

/-- The files that are copied into the archive. -/
def exportFiles (eng : Engine β δ) (o : Listing β) (call : BackupCall) (panel : Panel β δ) :
    List (RelPath × β) :=
  (runtimeDataManifest.filter fun c => !(c.sensitive && !call.isFull)).flatMap fun c =>
    c.paths.flatMap (exportPath eng o panel c.exclude)

/-! ### The archive -/

/-- `logs/system.log`. -/
def systemLog (s : Surroundings β) (call : BackupCall) : String :=
  "Backup created at: " ++ s.createdAtUtc ++ " UTC\n" ++ "Created by: " ++ call.user ++ "\n"
    ++ "Platform: " ++ s.platform ++ "\n" ++ "Hostname: " ++ s.hostname ++ "\n"

/-- The key of a file in the checksums. -/
def checksumKey (p : RelPath) : String :=
  "/".intercalate ("files" :: p.flatMap (PyText.splitOn '\\'))

/-- `checksums`. -/
def checksumsOf (lib : Lib β) (database : β) (files : List (RelPath × β)) (log : β) : Dict :=
  Dict.set (files.foldl (fun d f => Dict.set d (checksumKey f.1) (.str (lib.sha256 f.2)))
    [("database.json", .str (lib.sha256 database))]) "logs/system.log" (.str (lib.sha256 log))

/-- `manifest`, before it is signed. -/
def manifestOf (s : Surroundings β) (call : BackupCall) (checksums : Dict) (fileCount : ℕ)
    (recordCounts : Dict) : Dict :=
  [("backup_version", .str "1.0"),
   ("application_version", .str "3.0.0"),
   ("created_at", .str s.createdAt),
   ("backup_type", .str call.backupType),
   ("is_emergency", .num (if call.isEmergency then 1 else 0)),
   ("restore_session_id", (call.restoreSessionId.map Json.str).getD .null),
   ("minimum_supported_version", .str "1.0.0"),
   ("current_version", .str "3.0.0"),
   ("python_version", .str s.pythonVersion),
   ("sqlite_version", .str s.sqliteVersion),
   ("database_engine", .str "sqlite"),
   ("os", .str s.os),
   ("platform", .str s.machine),
   ("hostname", .str s.hostname),
   ("timezone", .str s.timezone),
   ("compression_method", .str "deflated"),
   ("backup_creator", .str call.user),
   ("git_commit", .str ""),
   ("application_build", .str "release"),
   ("checksums", .obj checksums),
   ("file_count", .num fileCount),
   ("database_record_counts", .obj recordCounts)]

/-- The manifest with its signature. -/
def signManifest (lib : Lib β) (proc : Process) (manifest : Dict) : Dict :=
  manifest.set "signature" (.str (manifestSignature lib proc manifest))

/-- `manifest.json`.  The tables are read before the checkpoint, from `store`; `panel` is the
panel after it. -/
def manifestJson (lib : Lib β) (eng : Engine β δ) (proc : Process) (s : Surroundings β)
    (call : BackupCall) (panel : Panel β δ) (store : δ) : β :=
  let files := exportFiles eng s.order call panel
  lib.dumps (.obj (signManifest lib proc (manifestOf s call
    (checksumsOf lib (databaseJson lib eng call store) files (lib.encodeText (systemLog s call)))
    files.length
    ((exportedTables eng store).map fun t => (t, .num (exportTable eng call store t).length)))))

/-- The entries of the archive. -/
def archiveEntries (lib : Lib β) (eng : Engine β δ) (proc : Process) (s : Surroundings β)
    (call : BackupCall) (panel : Panel β δ) (store : δ) : List (Entry β) :=
  [⟨["manifest.json"], manifestJson lib eng proc s call panel store⟩,
   ⟨["database.json"], databaseJson lib eng call store⟩]
    ++ (s.order.arrange (exportFiles eng s.order call panel)).map (fun f => ⟨"files" :: f.1, f.2⟩)
    ++ [⟨["logs", "system.log"], lib.encodeText (systemLog s call)⟩]

/-- `final_password`. -/
def finalPassword (proc : Process) (call : BackupCall) : Option String :=
  if call.isFull then
    if call.user = "SYSTEM" then proc.backupEncryptionPassword else call.password
  else none

/-- The password that the archive is encrypted with. -/
def encryptionPassword (proc : Process) (call : BackupCall) : Option String :=
  if proc.cryptoAvailable then givenPassword (finalPassword proc call) else none

/-- The bytes of the archive. -/
def archiveData (lib : Lib β) (proc : Process) (s : Surroundings β) (call : BackupCall)
    (entries : List (Entry β)) : β :=
  match encryptionPassword proc call with
  | some pw => lib.encrypt pw s.salt (lib.writeZip entries)
  | none => lib.writeZip entries

/-- `filename`. -/
def archiveName (s : Surroundings β) (call : BackupCall) : String :=
  if call.isEmergency then "emergency_backup_before_restore_" ++ s.timestamp ++ ".zip"
  else "backup_" ++ call.backupType ++ "_" ++ s.timestamp ++ ".zip"

/-- `get_setting(key)`. -/
def storedSetting (eng : Engine β δ) (store : δ) (key : String) : Option Json :=
  ((eng.select store "settings").find? fun row =>
    ((row.get? "key").map fun v => v.isStr key).getD false).bind fun row => row.get? "value"

/-- `delivery_status`: whether the archive is handed to `deliver_backup`. -/
def deliveryStatus (eng : Engine β δ) (call : BackupCall) (store : δ) : String :=
  let telegramEnabled :=
    ((storedSetting eng store "backup_telegram_enabled").map fun v => v.isStr "1").getD false
  if telegramEnabled && call.triggerDelivery && !call.isEmergency then "PENDING"
  else "NOT_APPLICABLE"

/-- What a call leaves: the archive, the answer, and the panel with the archive and its row in
`backup_logs`.  Retention, which follows unless the backup is an emergency one, is not in it. -/
structure Created (β δ : Type*) where
  entries : List (Entry β)
  data : β
  filename : String
  deliveryStatus : String
  panel : Panel β δ

/-- `create_backup`, up to retention and delivery. -/
def createBackup (lib : Lib β) (eng : Engine β δ) (proc : Process) (s : Surroundings β)
    (call : BackupCall) (panel : Panel β δ) : Except String (Created β δ) :=
  let store := eng.checkpoint s.checkpointDone panel.store
  let entries := archiveEntries lib eng proc s call { panel with store := store } panel.store
  let data := archiveData lib proc s call entries
  let filename := archiveName s call
  let delivery := deliveryStatus eng call store
  match panel.tree.write (backupDir ++ [filename]) data with
  | none => .error "OSError"
  | some tree =>
    match eng.log store {
        operation := "backup", user := call.user, status := "SUCCESS", duration := s.duration,
        backupSize := lib.size data, errorMessage := none, deliveryStatus := delivery,
        checksum := some (lib.sha256 data) } with
    | .error e => .error e
    | .ok store =>
      .ok { entries := entries, data := data, filename := filename, deliveryStatus := delivery,
            panel := ⟨tree, store⟩ }

/-- What a call that goes through has done. -/
structure Creates (lib : Lib β) (eng : Engine β δ) (proc : Process) (s : Surroundings β)
    (call : BackupCall) (panel : Panel β δ) (c : Created β δ) : Prop where
  filename : c.filename = archiveName s call
  entries : c.entries = archiveEntries lib eng proc s call
    { panel with store := eng.checkpoint s.checkpointDone panel.store } panel.store
  data : c.data = archiveData lib proc s call c.entries
  tree : panel.tree.write (backupDir ++ [c.filename]) c.data = some c.panel.tree
  store : ∃ row, eng.log (eng.checkpoint s.checkpointDone panel.store) row = .ok c.panel.store

lemma creates_of_ok {lib : Lib β} {eng : Engine β δ} {proc : Process} {s : Surroundings β}
    {call : BackupCall} {panel : Panel β δ} {c : Created β δ}
    (h : createBackup lib eng proc s call panel = .ok c) :
    Creates lib eng proc s call panel c := by
  rw [createBackup] at h
  split at h
  · cases h
  next tree htree =>
    split at h
    · cases h
    next store hstore =>
      cases h
      exact ⟨rfl, rfl, rfl, htree, _, hstore⟩

/-- A backup changes no table but `backup_logs`. -/
lemma Creates.select_eq {lib : Lib β} {eng : Engine β δ} (heng : eng.Lawful) {proc : Process}
    {s : Surroundings β} {call : BackupCall} {panel : Panel β δ} {c : Created β δ}
    (h : Creates lib eng proc s call panel c) {t : String} (ht : t ≠ "backup_logs") :
    eng.select c.panel.store t = eng.select panel.store t := by
  obtain ⟨row, hrow⟩ := h.store
  exact (heng.log_select hrow t ht).trans (heng.checkpoint_select _ _ _)

/-! ### What is exported -/

/-- The file is exported: it is the database, or below one of the runtime directories and not in
one that is left out, or `.env`, or a file below it, in a full backup. -/
def Exported (eng : Engine β δ) (call : BackupCall) (panel : Panel β δ) (p : RelPath) (b : β) :
    Prop :=
  (p = databasePath ∧ b = eng.mainFile panel.store)
    ∨ panel.tree.file p = some b ∧
      ((∃ c q, q ≠ [] ∧ p = c :: q ∧ (c = "templates" ∨ c = "static" ∨ c = "storage"
          ∧ isExcluded [["storage", "backups"]] p = false))
        ∨ [".env"] <+: p ∧ call.isFull = true)

lemma mem_exportPath_dir {eng : Engine β δ} {o : Listing β} {panel : Panel β δ}
    {exclude : List RelPath} {c : String} {p : RelPath} {b : β} :
    (p, b) ∈ exportPath eng o panel exclude ⟨[c], true⟩
      ↔ panel.tree.file p = some b ∧ (∃ q, q ≠ [] ∧ p = c :: q)
        ∧ isExcluded exclude p = false := by
  simp only [exportPath, List.mem_filter, List.mem_map, Prod.mk.injEq, Bool.not_eq_true']
  constructor
  · rintro ⟨⟨⟨q, b'⟩, hf, rfl, rfl⟩, hexc⟩
    obtain ⟨hq, hfile⟩ := Folder.mem_walk.mp hf
    exact ⟨hfile, ⟨q, hq, rfl⟩, hexc⟩
  · rintro ⟨hfile, ⟨q, hq, rfl⟩, hexc⟩
    exact ⟨⟨(q, b), Folder.mem_walk.mpr ⟨hq, hfile⟩, rfl, rfl⟩, hexc⟩

lemma mem_exportPath_database {eng : Engine β δ} {o : Listing β} {panel : Panel β δ}
    {p : RelPath} {b : β} :
    (p, b) ∈ exportPath eng o panel [] ⟨databasePath, false⟩
      ↔ p = databasePath ∧ b = eng.mainFile panel.store := by
  simp [exportPath, panelFile]

lemma mem_exportPath_env {eng : Engine β δ} {o : Listing β} {panel : Panel β δ}
    {p : RelPath} {b : β} :
    (p, b) ∈ exportPath eng o panel [] ⟨[".env"], false⟩
      ↔ panel.tree.file p = some b ∧ [".env"] <+: p := by
  have hne : ([".env"] : RelPath) ≠ databasePath := by decide
  rw [exportPath, panelFile, if_neg hne]
  cases hfile : panel.tree.file [".env"] with
  | none =>
      simp only [List.mem_filter, List.mem_map, Prod.mk.injEq, isExcluded, List.any_nil,
        Bool.not_false, and_true]
      constructor
      · rintro ⟨⟨q, b'⟩, hf, rfl, rfl⟩
        exact ⟨(Folder.mem_walk.mp hf).2, List.prefix_append _ _⟩
      · rintro ⟨hp, q, rfl⟩
        refine ⟨(q, b), Folder.mem_walk.mpr ⟨?_, hp⟩, rfl, rfl⟩
        rintro rfl
        simp [hfile] at hp
  | some c =>
      simp only [List.mem_singleton, Prod.mk.injEq]
      constructor
      · rintro ⟨rfl, rfl⟩
        exact ⟨hfile, List.prefix_rfl⟩
      · rintro ⟨hp, hpre⟩
        -- nothing is below a file
        have hleaf := panel.tree.leaf _ (Folder.file_eq_some_iff.mp hfile) _
          (Folder.file_eq_some_iff.mp hp) rfl hpre
        obtain rfl : [".env"] = p := hleaf
        rw [hfile] at hp
        exact ⟨rfl, (Option.some.inj hp).symm⟩

/-- The files in the archive. -/
lemma mem_exportFiles {eng : Engine β δ} {o : Listing β} {call : BackupCall}
    {panel : Panel β δ} {p : RelPath} {b : β} :
    (p, b) ∈ exportFiles eng o call panel ↔ Exported eng call panel p b := by
  have hnil : isExcluded [] p = false := rfl
  cases hfull : call.isFull <;>
    simp only [exportFiles, runtimeDataManifest, hfull, Exported, List.filter_cons,
      List.filter_nil, List.flatMap_cons, List.flatMap_nil, List.mem_append, List.append_nil,
      mem_exportPath_dir, mem_exportPath_database, mem_exportPath_env, Bool.not_true,
      Bool.not_false, Bool.and_true, Bool.and_false, Bool.false_eq_true, if_true, if_false,
      and_true, and_false, or_false, hnil]
  · constructor
    · rintro (h | ⟨h, q, hq, rfl⟩ | ⟨h, q, hq, rfl⟩ | ⟨h, ⟨q, hq, rfl⟩, hexc⟩)
      · exact .inl h
      · exact .inr ⟨h, _, q, hq, rfl, .inl rfl⟩
      · exact .inr ⟨h, _, q, hq, rfl, .inr (.inl rfl)⟩
      · exact .inr ⟨h, _, q, hq, rfl, .inr (.inr ⟨rfl, hexc⟩)⟩
    · rintro (h | ⟨h, c, q, hq, rfl, (rfl | rfl | ⟨rfl, hexc⟩)⟩)
      · exact .inl h
      · exact .inr (.inl ⟨h, q, hq, rfl⟩)
      · exact .inr (.inr (.inl ⟨h, q, hq, rfl⟩))
      · exact .inr (.inr (.inr ⟨h, ⟨q, hq, rfl⟩, hexc⟩))
  · constructor
    · rintro (h | ⟨h, q, hq, rfl⟩ | ⟨h, q, hq, rfl⟩ | ⟨h, ⟨q, hq, rfl⟩, hexc⟩ | ⟨h, henv⟩)
      · exact .inl h
      · exact .inr ⟨h, .inl ⟨_, q, hq, rfl, .inl rfl⟩⟩
      · exact .inr ⟨h, .inl ⟨_, q, hq, rfl, .inr (.inl rfl)⟩⟩
      · exact .inr ⟨h, .inl ⟨_, q, hq, rfl, .inr (.inr ⟨rfl, hexc⟩)⟩⟩
      · exact .inr ⟨h, .inr henv⟩
    · rintro (h | ⟨h, ⟨c, q, hq, rfl, (rfl | rfl | ⟨rfl, hexc⟩)⟩ | henv⟩)
      · exact .inl h
      · exact .inr (.inl ⟨h, q, hq, rfl⟩)
      · exact .inr (.inr (.inl ⟨h, q, hq, rfl⟩))
      · exact .inr (.inr (.inr (.inl ⟨h, ⟨q, hq, rfl⟩, hexc⟩)))
      · exact .inr (.inr (.inr (.inr ⟨h, henv⟩)))

/-- An exported file has a name, which is not the database's unless it is the database. -/
lemma Exported.named {eng : Engine β δ} {call : BackupCall} {panel : Panel β δ}
    {p : RelPath} {b : β} (h : Exported eng call panel p b) : Named p := by
  rcases h with ⟨rfl, -⟩ | ⟨h, -⟩
  · decide
  · exact panel.tree.named _ (Folder.file_eq_some_iff.mp h)

lemma Exported.head {eng : Engine β δ} {call : BackupCall} {panel : Panel β δ} {p : RelPath} {b : β}
    (h : Exported eng call panel p b) :
    (p = databasePath ∧ b = eng.mainFile panel.store)
      ∨ panel.tree.file p = some b ∧ ¬ databasePath <+: p ∧ ¬ p <+: databasePath := by
  rcases h with h | ⟨hfile, ⟨c, q, hq, rfl, hc⟩ | ⟨⟨q, rfl⟩, -⟩⟩
  · exact .inl h
  · have hne : "database.db" ≠ c := by
      rcases hc with rfl | rfl | ⟨rfl, -⟩ <;> decide
    refine .inr ⟨hfile, ?_, ?_⟩ <;> rw [databasePath, List.cons_prefix_cons]
    · exact fun h => hne h.1
    · exact fun h => hne h.1.symm
  · refine .inr ⟨hfile, ?_, ?_⟩ <;>
      simp only [databasePath, List.cons_append, List.nil_append, List.cons_prefix_cons]
    · exact fun h => absurd h.1 (by decide)
    · exact fun h => absurd h.1 (by decide)

/-- Exported files do not lead through one another. -/
lemma Exported.leaf {eng : Engine β δ} {call : BackupCall} {panel : Panel β δ} {p q : RelPath}
    {b c : β} (hp : Exported eng call panel p b) (hq : Exported eng call panel q c)
    (h : p <+: q) : p = q ∧ b = c := by
  rcases hp.head with ⟨rfl, rfl⟩ | ⟨hp, -, hpd⟩ <;>
    rcases hq.head with ⟨rfl, rfl⟩ | ⟨hq, hqd, -⟩
  · exact ⟨rfl, rfl⟩
  · exact absurd h hqd
  · exact absurd h hpd
  · have heq := panel.tree.leaf _ (Folder.file_eq_some_iff.mp hp) _ (Folder.file_eq_some_iff.mp hq)
      rfl h
    obtain rfl : p = q := heq
    exact ⟨rfl, Option.some.inj (hp.symm.trans hq)⟩

/-! ### The archive unpacks to its entries -/

lemma mem_archiveEntries {lib : Lib β} {eng : Engine β δ} {proc : Process} {s : Surroundings β}
    {call : BackupCall} {panel : Panel β δ} {store : δ} {e : Entry β} :
    e ∈ archiveEntries lib eng proc s call panel store
      ↔ e = ⟨["manifest.json"], manifestJson lib eng proc s call panel store⟩
        ∨ e = ⟨["database.json"], databaseJson lib eng call store⟩
        ∨ (∃ p b, Exported eng call panel p b ∧ e = ⟨"files" :: p, b⟩)
        ∨ e = ⟨["logs", "system.log"], lib.encodeText (systemLog s call)⟩ := by
  simp only [archiveEntries, List.mem_append, List.mem_cons, List.not_mem_nil, or_false,
    List.cons_append, List.nil_append, List.mem_map, (s.order.perm _).mem_iff, Prod.exists,
    mem_exportFiles, eq_comm]

/-- The archive unpacks to the entries it was made of. -/
theorem extract_entries (lib : Lib β) (eng : Engine β δ) (proc : Process)
    (s : Surroundings β) (call : BackupCall) (panel : Panel β δ) (store : δ) :
    ∃ t, extract (archiveEntries lib eng proc s call panel store) = some t ∧
      ∀ p b, t.file p = some b ↔ ⟨p, b⟩ ∈ archiveEntries lib eng proc s call panel store := by
  have hnamed : ∀ e ∈ archiveEntries lib eng proc s call panel store, Named e.name := by
    intro e he
    rcases mem_archiveEntries.mp he with rfl | rfl | ⟨p, b, hp, rfl⟩ | rfl
    · exact (by decide : Named ["manifest.json"])
    · exact (by decide : Named ["database.json"])
    · refine ⟨List.cons_ne_nil _ _, fun c hc => ?_⟩
      rcases List.mem_cons.mp hc with rfl | hc
      · decide
      · exact hp.named.2 c hc
    · exact (by decide : Named ["logs", "system.log"])
  have hcomp : ∀ e ∈ archiveEntries lib eng proc s call panel store,
      ∀ f ∈ archiveEntries lib eng proc s call panel store, e.name <+: f.name → e = f := by
    intro e he f hf hpre
    -- the first component tells the four kinds of entries apart
    rcases mem_archiveEntries.mp he with rfl | rfl | ⟨p, b, hp, rfl⟩ | rfl <;>
      rcases mem_archiveEntries.mp hf with rfl | rfl | ⟨q, c, hq, rfl⟩ | rfl <;>
      first
      | rfl
      | exact absurd (List.cons_prefix_cons.mp hpre).1 (by decide)
      | skip
    obtain ⟨rfl, rfl⟩ := hp.leaf hq (List.cons_prefix_cons.mp hpre).2
    rfl
  exact extract_of_compatible hnamed hcomp

/-- The files below `files/` are the exported ones. -/
theorem extract_archiveEntries (lib : Lib β) (eng : Engine β δ) (proc : Process)
    (s : Surroundings β) (call : BackupCall) (panel : Panel β δ) (store : δ) :
    ∃ t, extract (archiveEntries lib eng proc s call panel store) = some t ∧
      ∀ p b, t.file ("files" :: p) = some b ↔ Exported eng call panel p b := by
  obtain ⟨t, ht, hfile⟩ := extract_entries lib eng proc s call panel store
  refine ⟨t, ht, fun p b => ?_⟩
  rw [hfile, mem_archiveEntries]
  constructor
  · rintro (h | h | ⟨q, c, hq, heq⟩ | h)
    · exact absurd (congrArg Entry.name h) (by simp)
    · exact absurd (congrArg Entry.name h) (by simp)
    · cases heq
      exact hq
    · exact absurd (congrArg Entry.name h) (by simp)
  · intro h
    exact .inr (.inr (.inl ⟨p, b, h, rfl⟩))

end V2raySub
