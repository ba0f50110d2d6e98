import V2raySub.Backup.Redaction
import V2raySub.Backup.Tables

/-!
A backup, and a restore of it into a later state of the database.

* `Lib.RoundTrips`: what was written comes back, as JSON and through the cipher.
* `reaches_of_success`: a restore that raises nothing has restored `database.json` and committed
  it; `restoreDatabase_tables` says what the tables hold then.
* `restored_tables`: after the restore **every table holds the rows of the backup**, but for the
  log of backups and for the sensitive settings: those the archive has no value for keep a value
  of the database, and those that a standard backup has blanked are blank otherwise.
-/

namespace V2raySub

open FileTree

variable {β δ : Type*}

/-- What was written comes back.  An archive carries the header exactly if it is encrypted, and
what decrypts is what was encrypted. -/
structure Lib.RoundTrips (lib : Lib β) : Prop where
  loads_dumps : ∀ {j : Json}, j.Distinct → lib.loads (lib.dumps j) = .ok j
  hasHeader_writeZip : ∀ es, lib.hasHeader (lib.writeZip es) = false
  hasHeader_encrypt : ∀ pw salt b, lib.hasHeader (lib.encrypt pw salt b) = true
  decrypt_encrypt : ∀ {pw pw' salt b b'},
    lib.decrypt pw' (lib.encrypt pw salt b) = .ok b' → b' = b

/-! ### What a backup carries -/

/-- The settings as an archive carries them. -/
def archivedSettings (full : Bool) (rows : List Row) : List Row :=
  if full then rows else rows.map redactRow

/-- The settings after a restore: those of the archive, and in the place of its empty values the
sensitive ones that the database had a value for. -/
def restoredSettings (archived own : List Row) : List Row :=
  archived.filter (fun r => (keptSettings archived own).all fun k => !settingsTable.clash k r)
    ++ keptSettings archived own

lemma redactRow_settings (k v : Json) : ∃ w,
    redactRow [("key", k), ("value", v)] = [("key", k), ("value", w)] := by
  rw [redactRow]
  split_ifs
  · exact ⟨.str "", by simp [Dict.set]⟩
  · exact ⟨v, rfl⟩

lemma clash_redactRow {r r' : Row} (hr : settingsTable.IsRow r) (hr' : settingsTable.IsRow r') :
    settingsTable.clash (redactRow r) (redactRow r') = settingsTable.clash r r' := by
  obtain ⟨k, v, rfl, -⟩ := exists_of_isRow hr
  obtain ⟨k', v', rfl, -⟩ := exists_of_isRow hr'
  obtain ⟨w, hw⟩ := redactRow_settings k v
  obtain ⟨w', hw'⟩ := redactRow_settings k' v'
  rw [hw, hw', clash_settings, clash_settings]

section Content

variable {eng : Engine β δ} {schema : DbSchema} {Fits : δ → Prop}
  {Held : TableDef → Row → Prop} (hrel : eng.Relational schema Fits Held) {call : BackupCall}
  {d : δ} (hd : Fits d)

lemma exportTable_settings (eng : Engine β δ) (call : BackupCall) (d : δ) :
    exportTable eng call d "settings" = archivedSettings call.isFull (eng.select d "settings") := by
  rw [exportTable, archivedSettings]
  cases call.isFull <;> rfl

lemma exportTable_of_ne (eng : Engine β δ) (call : BackupCall) (d : δ) {t : String}
    (ht : t ≠ "settings") : exportTable eng call d t = eng.select d t := by
  rw [exportTable, if_neg fun h => ht h.1]

include hrel hd

/-- What is exported of a table are rows of it. -/
lemma exportTable_rows {td : TableDef} (htd : td ∈ schema.tables)
    (hset : td.name = "settings" → td = settingsTable) :
    ∀ r ∈ exportTable eng call d td.name, td.IsRow r ∧ Held td r := by
  have hrow := fun r hr => And.intro (hrel.isRow hd td htd r hr) (hrel.held hd td htd r hr)
  by_cases ht : td.name = "settings"
  · obtain rfl := hset ht
    intro r hr
    rw [show settingsTable.name = "settings" from rfl, exportTable_settings, archivedSettings] at hr
    split_ifs at hr
    · exact hrow r hr
    · obtain ⟨r₀, hr₀, rfl⟩ := List.mem_map.mp hr
      obtain ⟨hisRow, hheld⟩ := hrow r₀ hr₀
      rw [redactRow]
      split_ifs
      · refine ⟨?_, hrel.text "" hheld⟩
        obtain ⟨k, v, rfl, hk⟩ := exists_of_isRow hisRow
        have hset' : Dict.set [("key", k), ("value", v)] "value" (.str "")
            = [("key", k), ("value", .str "")] := by simp [Dict.set]
        rw [hset']
        refine ⟨rfl, fun f hf => ?_⟩
        rcases List.mem_cons.mp hf with rfl | hf
        · exact hk
        · rw [List.mem_singleton.mp hf]
          trivial
      · exact ⟨hisRow, hheld⟩
  · rw [exportTable_of_ne eng call d ht]
    exact hrow

/-- They do not clash. -/
lemma exportTable_unique {td : TableDef} (htd : td ∈ schema.tables)
    (hset : td.name = "settings" → td = settingsTable) :
    (exportTable eng call d td.name).Pairwise fun r r' => td.clash r' r = false := by
  have huniq := hrel.unique hd td htd
  by_cases ht : td.name = "settings"
  · obtain rfl := hset ht
    rw [show settingsTable.name = "settings" from rfl, exportTable_settings, archivedSettings]
    split_ifs
    · exact huniq
    · rw [List.pairwise_map]
      refine List.Pairwise.imp_of_mem (fun {r r'} hr hr' h => ?_) huniq
      rw [clash_redactRow (hrel.isRow hd _ htd r' hr') (hrel.isRow hd _ htd r hr)]
      exact h
  · rw [exportTable_of_ne eng call d ht]
    exact huniq

end Content

/-! ### A restore that goes through -/

/-- A run that raises nothing gets past the commit. -/
lemma pastCommit_of_run {lib : Lib β} {eng : Engine β δ} {s : Surroundings β}
    {call : RestoreCall β} {authentic : Bool} {t : Folder β} {panel : Panel β δ} {name : String}
    {live : Live β δ}
    (h : (machine call.fault.torn).run call.fault.error call.tryStep
      (restoreSteps lib eng s call name authentic t) ⟨panel.tree, panel.store, none, []⟩
        = (live, none)) :
    ∃ d, PastCommit lib eng call authentic t panel d := by
  cases ends_of_run h with
  | closing hd hstep hcopied hclose =>
      obtain ⟨hlen, hclear⟩ := hcopied.through.mp rfl
      refine ⟨_, hd, hclear, ?_⟩
      by_contra hlate
      have hzero : call.tryStep - 4
          - (restorePlan call.order authentic call.restoreEnv t).length = 0 := by
        omega
      rw [hzero, run_closing_struck] at hclose
      cases hclose

/-- What a restore that raises nothing has gone through, and what the tables then hold. -/
structure Reaches (lib : Lib β) (eng : Engine β δ) (proc : Process) (s : Surroundings β)
    (call : RestoreCall β) (panel : Panel β δ) (final d : δ) : Prop where
  emergency : ∃ emerg zip t, createBackup lib eng proc s (emergencyCall call) panel = .ok emerg
    ∧ decryptArchive lib proc call.data call.password = .ok zip
    ∧ extractArchive lib zip = .ok t ∧ restoreDatabase lib eng t emerg.panel.store = .ok d
  final : ∀ t, t ≠ "backup_logs" → eng.select final t = eng.select d t

lemma raised_recover (lib : Lib β) (eng : Engine β δ) (s : Surroundings β) (call : RestoreCall β)
    (name : String) (live : Live β δ) (e : String) :
    (recover lib eng s call name live e).raised ≠ none := by
  rw [recover]
  split <;> exact Option.some_ne_none _

/-- The part of it after the emergency backup. -/
lemma restoreFrom_success {lib : Lib β} {eng : Engine β δ} (heng : eng.Lawful)
    {s : Surroundings β} {call : RestoreCall β} {authentic : Bool} {zip : β}
    {emerg : Created β δ}
    (h : (restoreFrom lib eng s call authentic zip emerg).raised = none) :
    ∃ t d, extractArchive lib zip = .ok t
      ∧ restoreDatabase lib eng t emerg.panel.store = .ok d
      ∧ ∀ t', t' ≠ "backup_logs" → eng.select
          (restoreFrom lib eng s call authentic zip emerg).panel.store t' = eng.select d t' := by
  by_cases hstep : call.fault.step < 2
  · simp [restoreFrom, hstep] at h
  · cases ht : extractArchive lib zip with
    | error e =>
        simp only [restoreFrom, if_neg hstep, ht] at h
        exact (raised_recover _ _ _ _ _ _ _ h).elim
    | ok t =>
        rcases hrun : (machine call.fault.torn).run call.fault.error call.tryStep
            (restoreSteps lib eng s call emerg.filename authentic t)
            ⟨emerg.panel.tree, emerg.panel.store, none, []⟩ with ⟨live, r⟩
        cases r with
        | some e =>
            simp only [restoreFrom, if_neg hstep, ht, hrun] at h
            exact (raised_recover _ _ _ _ _ _ _ h).elim
        | none =>
            obtain ⟨d, hd⟩ := pastCommit_of_run hrun
            refine ⟨t, d, rfl, hd.1, ?_⟩
            simp only [restoreFrom, if_neg hstep, ht, hrun]
            exact (ran_of_run heng hrun).committed d hd

theorem reaches_of_success {lib : Lib β} {eng : Engine β δ} (heng : eng.Lawful)
    {proc : Process} {s : Surroundings β} {outside : String → Lookup β} {call : RestoreCall β}
    {panel : Panel β δ}
    (h : (restoreBackup lib eng proc s outside call panel).raised = none) :
    ∃ d, Reaches lib eng proc s call panel
      (restoreBackup lib eng proc s outside call panel).panel.store d := by
  cases hver : verifyBackup lib proc outside call.data call.password with
  | error r => simp [restoreBackup, hver] at h
  | ok v =>
      by_cases hinc : v.status = .incompatible
      · simp [restoreBackup, hver, hinc] at h
      · cases hzip : decryptArchive lib proc call.data call.password with
        | error r => simp [restoreBackup, hver, hinc, hzip] at h
        | ok zip =>
            cases hemerg : createBackup lib eng proc s (emergencyCall call) panel with
            | error e => simp [restoreBackup, hver, hinc, hzip, hemerg] at h
            | ok emerg =>
                have hback : restoreBackup lib eng proc s outside call panel
                    = restoreFrom lib eng s call v.authentic zip emerg := by
                  simp only [restoreBackup, hver, if_neg hinc, hzip, hemerg]
                rw [hback] at h ⊢
                obtain ⟨t, d, ht, hd, hfinal⟩ := restoreFrom_success heng h
                exact ⟨d, ⟨emerg, zip, t, hemerg, hzip, ht, hd⟩, hfinal⟩

/-! ### The round trip -/

/-- The archive of a backup decrypts, where it does, to the ZIP file that was made. -/
lemma decryptArchive_backup {lib : Lib β} (hround : lib.RoundTrips) {eng : Engine β δ}
    {proc proc' : Process} {s : Surroundings β} {call : BackupCall} {panel : Panel β δ}
    {c : Created β δ} (hc : Creates lib eng proc s call panel c) {password : Option String}
    {zip : β} (h : decryptArchive lib proc' c.data password = .ok zip) :
    zip = lib.writeZip c.entries := by
  rw [hc.data, archiveData] at h
  cases hpw : encryptionPassword proc call with
  | none =>
      rw [hpw, decryptArchive] at h
      simp only [hround.hasHeader_writeZip, Bool.false_eq_true, if_false] at h
      exact (Except.ok.inj h).symm
  | some pw =>
      rw [hpw, decryptArchive] at h
      simp only [hround.hasHeader_encrypt, if_true] at h
      split at h
      · cases h
      next pw' _ =>
        rw [decryptBytes, hround.hasHeader_encrypt] at h
        by_cases hcrypto : proc'.cryptoAvailable = true
        · simp only [hcrypto, Bool.not_true, Bool.false_eq_true, if_false] at h
          cases hdec : lib.decrypt pw' (lib.encrypt pw s.salt (lib.writeZip c.entries)) with
          | error e =>
              rw [hdec] at h
              cases h
          | ok b =>
              rw [hdec] at h
              cases h
              exact hround.decrypt_encrypt hdec
        · simp [hcrypto, Except.mapError] at h

section RoundTrip

variable {lib : Lib β} (hlib : lib.Lawful) (hround : lib.RoundTrips) {eng : Engine β δ}
  {schema : DbSchema} {Fits : δ → Prop} {Held : TableDef → Row → Prop}
  (hrel : eng.Relational schema Fits Held)

/-- The tables that are exported, as tables of the schema. -/
def DbSchema.exported (schema : DbSchema) : List TableDef :=
  schema.tables.filter fun td => td.name ≠ "backup_logs"

lemma settingsTable_of_name (hset : settingsTable ∈ schema.tables) {td : TableDef}
    (htd : td ∈ schema.tables) (h : td.name = "settings") : td = settingsTable :=
  List.inj_on_of_nodup_map schema.nodup htd hset h

include hrel

lemma exportedTables_eq {d : δ} (hd : Fits d) :
    exportedTables eng d = schema.exported.map TableDef.name := by
  rw [exportedTables, hrel.tables hd, List.filter_map]
  rfl

/-- The exported tables are a document that JSON brings back. -/
lemma distinct_export (hset : settingsTable ∈ schema.tables) (call : BackupCall) {d : δ}
    (hd : Fits d) :
    (Json.obj (schema.exported.map fun td =>
      (td.name, .arr ((exportTable eng call d td.name).map .obj)))).Distinct := by
  refine .obj ?_ fun f hf => ?_
  · rw [List.map_map]
    exact (List.filter_sublist.map TableDef.name).nodup schema.nodup
  · obtain ⟨td, htd, rfl⟩ := List.mem_map.mp hf
    have hmem := List.mem_of_mem_filter htd
    refine .arr fun j hj => ?_
    obtain ⟨r, hr, rfl⟩ := List.mem_map.mp hj
    obtain ⟨hrow, -⟩ := exportTable_rows hrel hd hmem (settingsTable_of_name hset hmem) r hr
    refine .obj (hrow.columns ▸ td.nodup) fun g hg => ?_
    have hval := hrow.values g hg
    revert hval
    cases g.2 with
    | null => exact fun _ => .null
    | num n => exact fun _ => .num n
    | float x => exact fun _ => .float x
    | str x => exact fun _ => .str x
    | bool b => exact fun h => h.elim
    | arr items => exact fun h => h.elim
    | obj fields => exact fun h => h.elim

/-- The tables after the two loops of a restore. -/
lemma restoreRows_tables (hset : settingsTable ∈ schema.tables) {call : BackupCall}
    {d d₀ d' : δ} (hd : Fits d) (hd₀ : Fits d₀)
    (h : restoreRows eng (.obj (schema.exported.map fun td =>
      (td.name, .arr ((exportTable eng call d td.name).map .obj)))) d₀ = .ok d') :
    (∀ td ∈ schema.tables, td.name ≠ "backup_logs" → td.name ≠ "settings" →
        (eng.select d' td.name).Perm (eng.select d td.name))
      ∧ (eng.select d' "settings").Perm (restoredSettings
          (archivedSettings call.isFull (eng.select d "settings"))
          (eng.select d₀ "settings")) := by
  have hsub : ∀ td ∈ schema.exported, td ∈ schema.tables := fun td => List.mem_of_mem_filter
  have hown : ∀ r ∈ eng.select d₀ "settings", settingsTable.IsRow r := hrel.isRow hd₀ _ hset
  have hownUniq := hrel.unique hd₀ _ hset
  have hkept : (preservedSecrets eng d₀).map secretRow = ownSecrets (eng.select d₀ "settings") :=
    map_preservedSecrets hown hownUniq
  rw [restoreRows, hrel.tables hd₀] at h
  cases hloop : (schema.exported.map fun td =>
      (td.name, Json.arr ((exportTable eng call d td.name).map .obj))).foldlM
      (restoreTable eng (schema.tables.map TableDef.name)) d₀ with
  | error e =>
      rw [hloop] at h
      cases h
  | ok d₁ =>
      rw [hloop] at h
      obtain ⟨hfits, hin, -⟩ := foldlM_restoreTable hrel
        (fun td htd => exportTable_rows hrel hd htd (settingsTable_of_name hset htd))
        (fun td htd => exportTable_unique hrel hd htd (settingsTable_of_name hset htd)) hsub
        ((List.filter_sublist.map TableDef.name).nodup schema.nodup) hd₀ hloop
      obtain ⟨hsettings, hothers⟩ := foldlM_restoreSecret hrel hset (fun s hs => by
          have hmem : secretRow s ∈ eng.select d₀ "settings" :=
            List.mem_of_mem_filter (hkept ▸ List.mem_map_of_mem hs)
          exact ⟨hown _ hmem, hrel.held hd₀ _ hset _ hmem⟩)
        (hkept ▸ hownUniq.filter _) hfits h
      constructor
      · intro td htd hlogs hne
        rw [hothers _ hne]
        have hperm := hin td (List.mem_filter.mpr ⟨htd, by simpa using hlogs⟩)
        rwa [exportTable_of_ne eng call d hne] at hperm
      · have harchived : (eng.select d₁ "settings").Perm
            (archivedSettings call.isFull (eng.select d "settings")) := by
          rw [← exportTable_settings]
          exact hin settingsTable (List.mem_filter.mpr ⟨hset, by decide⟩)
        have hcovered : ∀ r, covered (eng.select d₁ "settings") r
            = covered (archivedSettings call.isFull (eng.select d "settings")) r :=
          fun r => harchived.any_eq
        simp only [hkept, hcovered] at hsettings
        rw [restoredSettings, ← Rows.replaceAll_of_pairwise]
        · exact hsettings.trans (Rows.perm_replaceAll harchived _)
        · exact (hownUniq.filter _).filter _

include hlib hround

/-- **Backup, then restore.**  A restore that raises nothing, of the archive that a backup made,
leaves in every table but `backup_logs` and `settings` the rows that it had at the backup; the
settings are those of the archive, where a sensitive one without a value there keeps the value
of the later database. -/
theorem restored_tables (heng : eng.Lawful) (hset : settingsTable ∈ schema.tables)
    {proc proc' : Process} {s s' : Surroundings β} {outside : String → Lookup β}
    {call : BackupCall} {rcall : RestoreCall β} {panel panel' : Panel β δ} {c : Created β δ}
    (hd : Fits panel.store) (hd' : Fits panel'.store)
    (hc : createBackup lib eng proc s call panel = .ok c) (hdata : rcall.data = c.data)
    (hok : (restoreBackup lib eng proc' s' outside rcall panel').raised = none) :
    (∀ td ∈ schema.tables, td.name ≠ "backup_logs" → td.name ≠ "settings" →
        (eng.select (restoreBackup lib eng proc' s' outside rcall panel').panel.store td.name).Perm
          (eng.select panel.store td.name))
      ∧ (eng.select (restoreBackup lib eng proc' s' outside rcall panel').panel.store
          "settings").Perm (restoredSettings
            (archivedSettings call.isFull (eng.select panel.store "settings"))
            (eng.select panel'.store "settings")) := by
  have hcreates := creates_of_ok hc
  obtain ⟨d, hreach⟩ := reaches_of_success heng hok
  obtain ⟨emerg, zip, t, hemerg, hzip, ht, hrest⟩ := hreach.emergency
  -- the archive unpacks to the tables of the backup
  obtain rfl : zip = lib.writeZip c.entries :=
    decryptArchive_backup hround hcreates (hdata ▸ hzip)
  obtain ⟨t', ht', hfile⟩ := extract_entries lib eng proc s call
    { panel with store := eng.checkpoint s.checkpointDone panel.store } panel.store
  rw [extractArchive, hlib.readZip_writeZip, hcreates.entries] at ht
  simp only [ht', Except.ok.injEq] at ht
  subst ht
  have hjson : readJson lib t' ["database.json"] = .ok (.obj (schema.exported.map fun td =>
      (td.name, .arr ((exportTable eng call panel.store td.name).map .obj)))) := by
    have hdb := (hfile ["database.json"] (databaseJson lib eng call panel.store)).mpr
      (mem_archiveEntries.mpr (.inr (.inl rfl)))
    rw [readJson, lookup, hdb, databaseJson, exportedTables_eq hrel hd, List.map_map]
    exact hround.loads_dumps (distinct_export hrel hset call hd)
  rw [restoreDatabase, hjson] at hrest
  -- the emergency backup leaves the tables as they were
  have hemergCreates := creates_of_ok hemerg
  obtain ⟨row, hrow⟩ := hemergCreates.store
  obtain ⟨htables, hsettings⟩ := restoreRows_tables hrel hset hd
    (hrel.log (hrel.checkpoint _ hd') hrow) hrest
  rw [hemergCreates.select_eq heng (by decide)] at hsettings
  constructor
  · intro td htd hlogs hne
    rw [hreach.final _ hlogs]
    exact htables td htd hlogs hne
  · rw [hreach.final _ (by decide)]
    exact hsettings

end RoundTrip

/-! ### The sample panel -/

lemma sampleBlobLib_roundTrips : sampleBlobLib.RoundTrips where
  loads_dumps _ := rfl
  hasHeader_writeZip _ := rfl
  hasHeader_encrypt _ _ _ := rfl
  decrypt_encrypt := by
    intro pw pw' salt b b' h
    by_cases hpw : pw' = pw
    · simp only [sampleBlobLib, if_pos hpw, Except.ok.injEq] at h
      exact h.symm
    · simp [sampleBlobLib, hpw] at h

/-- The tables of the sample. -/
def sampleSchema : DbSchema where
  tables := [settingsTable,
    { name := "backup_logs", columns := ["operation", "user", "status"], uniqueKeys := [],
      nodup := by decide }]
  nodup := by decide

/-- The keys of the settings are unique. -/
def SampleStore.Fits (d : SampleStore) : Prop := (d.settings.map Prod.fst).Nodup

/-- The columns of the settings are not null, and hold texts. -/
def sampleHeld (td : TableDef) (r : Row) : Prop :=
  td.name = "settings" → ∃ k v, r = [("key", .str k), ("value", .str v)]

/-- A row of the settings. -/
def settingRow (s : String × String) : Row := [("key", .str s.1), ("value", .str s.2)]

lemma sampleEngine_select (d : SampleStore) :
    sampleEngine.select d "settings" = d.settings.map settingRow := rfl

lemma clash_settingRow (s s' : String × String) :
    settingsTable.clash (settingRow s) (settingRow s') = decide (s.1 = s'.1) := by
  rw [settingRow, settingRow, clash_settings]
  rfl

/-- `INSERT OR REPLACE` on the settings of the sample. -/
lemma sampleEngine_insert {d d' : SampleStore} {new : List Row}
    (hnew : ∀ r ∈ new, ∃ k v, r = [("key", .str k), ("value", .str v)])
    (h : sampleEngine.insert d "settings" ["key", "value"] (new.map fun r => r.map Prod.snd)
      = .ok d') (hd : d.Fits) :
    d'.Fits ∧ d'.logs = d.logs ∧ d'.settings.map settingRow
      = Rows.replaceAll settingsTable.clash (d.settings.map settingRow) new := by
  simp only [sampleEngine, if_true] at h
  induction new generalizing d with
  | nil =>
      cases h
      exact ⟨hd, rfl, rfl⟩
  | cons r new ih =>
      obtain ⟨⟨k, v, rfl⟩, hrest⟩ := List.forall_mem_cons.mp hnew
      set d₁ : SampleStore :=
        { d with settings := d.settings.filter (fun r => r.1 ≠ k) ++ [(k, v)] } with hd₁
      have hfits : d₁.Fits := by
        rw [SampleStore.Fits, hd₁, List.map_append, List.nodup_append]
        refine ⟨(List.filter_sublist.map Prod.fst).nodup hd, List.nodup_singleton k, ?_⟩
        intro a ha b hb
        obtain ⟨s, hs, rfl⟩ := List.mem_map.mp ha
        rw [List.map_singleton, List.mem_singleton] at hb
        rw [hb]
        simpa using (List.mem_filter.mp hs).2
      obtain ⟨hfits', hlogs, hrows⟩ := ih (d := d₁) hrest hfits h
      refine ⟨hfits', hlogs, ?_⟩
      rw [hrows, hd₁, List.map_append]
      show Rows.replaceAll settingsTable.clash _ new
        = Rows.replaceAll settingsTable.clash (Rows.replaceInto settingsTable.clash _ _) new
      rw [Rows.replaceInto, List.filter_map]
      have hclash : ∀ s : String × String,
          settingsTable.clash [("key", .str k), ("value", .str v)] (settingRow s)
            = decide (k = s.1) := clash_settingRow (k, v)
      simp only [Function.comp_def, hclash, ne_eq, eq_comm (a := k), decide_not]
      rfl

lemma sampleEngine_relational :
    sampleEngine.Relational sampleSchema SampleStore.Fits sampleHeld where
  tables _ := rfl
  columns := by
    intro d _ td htd
    rcases List.mem_cons.mp htd with rfl | htd
    · rfl
    · rw [List.mem_singleton.mp htd]
      rfl
  isRow := by
    intro d _ td htd r hr
    rcases List.mem_cons.mp htd with rfl | htd
    · obtain ⟨s, -, rfl⟩ := List.mem_map.mp hr
      exact ⟨rfl, by simp [IsColumnValue]⟩
    · obtain rfl := List.mem_singleton.mp htd
      obtain ⟨l, -, rfl⟩ := List.mem_map.mp hr
      exact ⟨rfl, by simp [IsColumnValue]⟩
  held := by
    intro d _ td htd r hr hname
    rw [hname] at hr
    obtain ⟨s, -, rfl⟩ := List.mem_map.mp hr
    exact ⟨s.1, s.2, rfl⟩
  unique := by
    intro d hd td htd
    rcases List.mem_cons.mp htd with rfl | htd
    · show (d.settings.map settingRow).Pairwise _
      rw [List.pairwise_map]
      refine (List.pairwise_map.mp hd).imp fun {s s'} hne => ?_
      rw [clash_settingRow]
      exact decide_eq_false hne.symm
    · obtain rfl := List.mem_singleton.mp htd
      exact List.pairwise_of_forall fun _ _ => rfl
  truncate := by
    intro d d' td hd htd h
    rcases List.mem_cons.mp htd with rfl | htd
    · cases h
      refine ⟨List.nodup_nil, .refl _, fun t' ht' => ?_⟩
      have hne : t' ≠ "settings" := ht'
      simp [sampleEngine, settingsTable, hne]
    · obtain rfl := List.mem_singleton.mp htd
      cases h
      refine ⟨hd, .refl _, fun t' ht' => ?_⟩
      have hne : t' ≠ "backup_logs" := ht'
      simp [sampleEngine, hne]
  insert := by
    intro d d' td new hd htd hnew h
    rcases List.mem_cons.mp htd with rfl | htd
    · obtain ⟨hfits, hlogs, hrows⟩ :=
        sampleEngine_insert (fun r hr => (hnew r hr).2 rfl) h hd
      refine ⟨hfits, List.Perm.of_eq hrows, fun t' ht' => ?_⟩
      have hne : t' ≠ "settings" := ht'
      simp [sampleEngine, hne, hlogs]
    · obtain rfl := List.mem_singleton.mp htd
      cases h
  log := by
    intro d d' r hd h
    cases h
    exact hd
  checkpoint := by
    intro d done hd
    cases done <;> exact hd
  text := by
    intro r s hr hname
    obtain ⟨k, v, rfl⟩ := hr hname
    exact ⟨k, s, by simp [Dict.set]⟩

theorem restored_tables_sample :
    (∀ td ∈ sampleSchema.tables, td.name ≠ "backup_logs" → td.name ≠ "settings" →
        (sampleEngine.select (restoreBackup sampleBlobLib sampleEngine sampleProcess
          sampleSurroundings noOutside (sampleRestoreCall sampleBackup.data)
          (withToken "an0ther")).panel.store td.name).Perm
            (sampleEngine.select (withToken "t0ken").store td.name))
      ∧ (sampleEngine.select (restoreBackup sampleBlobLib sampleEngine sampleProcess
          sampleSurroundings noOutside (sampleRestoreCall sampleBackup.data)
          (withToken "an0ther")).panel.store "settings").Perm
            (restoredSettings
              (archivedSettings false (sampleEngine.select (withToken "t0ken").store "settings"))
              (sampleEngine.select (withToken "an0ther").store "settings")) :=
  have hcreated : createBackup sampleBlobLib sampleEngine sampleProcess sampleSurroundings
      sampleBackupCall (withToken "t0ken") = .ok sampleBackup := eq_okOf _ _
  restored_tables sampleBlobLib_lawful sampleBlobLib_roundTrips sampleEngine_relational
    sampleEngine_lawful List.mem_cons_self (by show List.Nodup _; decide)
    (by show List.Nodup _; decide) hcreated rfl (by decide)

/-- A standard backup has blanked the token, and the later database has none to keep: the restore
leaves the panel without the one it had. -/
theorem redacted_token_lost :
    createBackup sampleBlobLib sampleEngine sampleProcess sampleSurroundings sampleBackupCall
        (withToken "t0ken") = .ok sampleBackup
      ∧ (restoreBackup sampleBlobLib sampleEngine sampleProcess sampleSurroundings noOutside
          (sampleRestoreCall sampleBackup.data) (withToken "")).raised = none
      ∧ [("key", .str "api_token"), ("value", .str "t0ken")]
          ∈ sampleEngine.select (withToken "t0ken").store "settings"
      ∧ [("key", .str "api_token"), ("value", .str "t0ken")]
          ∉ sampleEngine.select (restoreBackup sampleBlobLib sampleEngine sampleProcess
            sampleSurroundings noOutside (sampleRestoreCall sampleBackup.data)
            (withToken "")).panel.store "settings"
      ∧ ∀ r ∈ sampleEngine.select (withToken "").store "settings",
          isSensitive r = true → hasValue r = false := by
  have hsettings : (restoreBackup sampleBlobLib sampleEngine sampleProcess sampleSurroundings
      noOutside (sampleRestoreCall sampleBackup.data) (withToken "")).panel.store.settings
        = [("panel_title", "My panel"), ("api_token", "")] := by decide
  refine ⟨eq_okOf _ _, by decide, ?_, ?_, ?_⟩
  · rw [sampleEngine_select]
    simp [withToken, settingRow]
  · rw [sampleEngine_select, hsettings]
    simp [settingRow]
  · rw [sampleEngine_select]
    simp [withToken, settingRow, isSensitive_settings, hasValue_settings, sensitiveSettingKeys,
      Json.isStr, Json.truthy]

end V2raySub
