import V2raySub.Backup.Authentic

/-!
What a backup in cleartext says of the secrets: two runs of `create_backup`, on panels that differ
in the values of the sensitive settings and in the contents of `.env` only.

* `DifferInSecrets`: the two panels.
* `databaseJson_eq`: the export of the tables is the same for both, unless the backup is a full
  one; `exported_iff` compares the files, where the main file of the store is one of them.
* `cleartext_backup_iff`: the two archives carry the same tables and files **exactly if the
  secrets are the same**, or a checkpoint that did not go through kept them out of the main file.
-/

namespace V2raySub

open FileTree

variable {β δ : Type*}

/-- The row is the same, or the same sensitive setting with another value. -/
def SameButValue (r r' : Row) : Prop := r = r' ∨ isSensitive r = true ∧ ∃ v, r' = r.set "value" v

/-- The panels differ in nothing but the values of the sensitive settings and the contents of
`.env`: the stores are the same if their rows are. -/
structure DifferInSecrets (eng : Engine β δ) (panel panel' : Panel β δ) : Prop where
  tables : eng.tables panel.store = eng.tables panel'.store
  rows : ∀ t, t ≠ "settings" → eng.select panel.store t = eng.select panel'.store t
  settings : List.Forall₂ SameButValue (eng.select panel.store "settings")
    (eng.select panel'.store "settings")
  store : (∀ t, eng.select panel.store t = eng.select panel'.store t) →
    panel.store = panel'.store
  files : ∀ p, p ≠ [".env"] → panel.tree.file p = panel'.tree.file p
  env : (panel.tree.file [".env"]).isSome = (panel'.tree.file [".env"]).isSome

/-- What of an archive is compared: `database.json` and everything under `files/`. -/
def IsContent (e : Entry β) : Prop := e.name = ["database.json"] ∨ ∃ p, e.name = "files" :: p

/-- The archives carry the same tables and files. -/
def SameContents (es es' : List (Entry β)) : Prop := ∀ e, IsContent e → (e ∈ es ↔ e ∈ es')

/-- The secrets that a backup exports agree: the sensitive settings, with `.env` for a full
backup; for another one it is also enough that a checkpoint which does not go through leaves the
main files the same. -/
def SecretsAgree (eng : Engine β δ) (s : Surroundings β) (call : BackupCall)
    (panel panel' : Panel β δ) : Prop :=
  if call.isFull then
    eng.select panel.store "settings" = eng.select panel'.store "settings"
      ∧ panel.tree.file [".env"] = panel'.tree.file [".env"]
  else
    eng.select panel.store "settings" = eng.select panel'.store "settings"
      ∨ s.checkpointDone = false
        ∧ eng.mainFile (eng.checkpoint false panel.store)
          = eng.mainFile (eng.checkpoint false panel'.store)

/-! ### The tables -/

lemma isSensitive_set (r : Row) (v : Json) : isSensitive (r.set "value" v) = isSensitive r := by
  rw [isSensitive, isSensitive, Dict.get?_set_of_ne r (by decide : "key" ≠ "value")]

/-- Redaction forgets the difference. -/
lemma redactRow_eq {r r' : Row} (h : SameButValue r r') : redactRow r = redactRow r' := by
  rcases h with rfl | ⟨hs, v, rfl⟩
  · rfl
  · rw [redactRow, redactRow, isSensitive_set, if_pos hs, if_pos hs, Dict.set_set]

lemma map_redactRow_eq {l l' : List Row} (h : List.Forall₂ SameButValue l l') :
    l.map redactRow = l'.map redactRow := by
  induction h with
  | nil => rfl
  | cons hr _ ih => rw [List.map_cons, List.map_cons, redactRow_eq hr, ih]

/-- A backup that is no full one exports the same tables. -/
lemma databaseJson_eq {lib : Lib β} {eng : Engine β δ} {call : BackupCall}
    {panel panel' : Panel β δ} (h : DifferInSecrets eng panel panel')
    (hfull : call.isFull = false) :
    databaseJson lib eng call panel.store = databaseJson lib eng call panel'.store := by
  have htable : ∀ t, exportTable eng call panel.store t = exportTable eng call panel'.store t := by
    intro t
    rw [exportTable, exportTable]
    by_cases ht : t = "settings"
    · subst ht
      rw [if_pos (by simp [hfull]), if_pos (by simp [hfull]), map_redactRow_eq h.settings]
    · rw [if_neg (by simp [ht]), if_neg (by simp [ht]), h.rows t ht]
  simp only [databaseJson, exportedTables, h.tables, htable]

/-- A full backup exports the settings as they are. -/
lemma settings_eq_of_databaseJson {lib : Lib β} (hjson : Function.Injective lib.dumps)
    {eng : Engine β δ} {call : BackupCall} {d d' : δ} (hfull : call.isFull = true)
    (htables : eng.tables d = eng.tables d') (hsettings : "settings" ∈ eng.tables d)
    (h : databaseJson lib eng call d = databaseJson lib eng call d') :
    eng.select d "settings" = eng.select d' "settings" := by
  have hobj := Json.obj.inj (hjson h)
  rw [exportedTables, exportedTables, ← htables] at hobj
  have hmem : "settings" ∈ (eng.tables d).filter (· ≠ "backup_logs") :=
    List.mem_filter.mpr ⟨hsettings, by decide⟩
  have hrows := (Prod.mk.inj (List.map_inj_left.mp hobj "settings" hmem)).2
  have hinj : Function.Injective (List.map Json.obj) :=
    List.map_injective_iff.mpr fun _ _ h => Json.obj.inj h
  have hexport := hinj (Json.arr.inj hrows)
  rwa [exportTable, exportTable, if_neg (by simp [hfull]), if_neg (by simp [hfull])] at hexport

/-! ### The files -/

lemma exported_database {eng : Engine β δ} {call : BackupCall} {panel : Panel β δ} {b : β} :
    Exported eng call panel databasePath b ↔ b = eng.mainFile panel.store := by
  constructor
  · intro h
    rcases h.head with ⟨-, hb⟩ | ⟨-, hpre, -⟩
    · exact hb
    · exact absurd List.prefix_rfl hpre
  · exact fun h => .inl ⟨rfl, h⟩

lemma exported_env {eng : Engine β δ} {call : BackupCall} {panel : Panel β δ} {b : β} :
    Exported eng call panel [".env"] b
      ↔ panel.tree.file [".env"] = some b ∧ call.isFull = true := by
  constructor
  · rintro (⟨h, -⟩ | ⟨h, ⟨c, q, hq, heq, -⟩ | ⟨-, hfull⟩⟩)
    · exact absurd h (by decide)
    · exact absurd (List.cons.inj heq).2.symm hq
    · exact ⟨h, hfull⟩
  · exact fun h => .inr ⟨h.1, .inr ⟨List.prefix_rfl, h.2⟩⟩

/-- The exported files are the same exactly if the main files are, and `.env` in a full backup. -/
lemma exported_iff (eng : Engine β δ) (call : BackupCall) (panel panel' : Panel β δ)
    (hfiles : ∀ p, p ≠ [".env"] → panel.tree.file p = panel'.tree.file p) :
    (∀ p b, Exported eng call panel p b ↔ Exported eng call panel' p b)
      ↔ eng.mainFile panel.store = eng.mainFile panel'.store
        ∧ (call.isFull = true → panel.tree.file [".env"] = panel'.tree.file [".env"]) := by
  constructor
  · intro h
    refine ⟨exported_database.mp ((h _ _).mp (exported_database.mpr rfl)), fun hfull => ?_⟩
    refine Option.ext fun b => ?_
    simpa [exported_env, hfull] using h [".env"] b
  · rintro ⟨hmain, henv⟩ p b
    by_cases hp : p = [".env"]
    · subst hp
      rw [exported_env, exported_env]
      refine and_congr_left fun hfull => ?_
      rw [henv hfull]
    · rw [Exported, Exported, hmain, hfiles p hp]

/-! ### The archives -/

lemma sameContents_iff {lib : Lib β} {eng : Engine β δ} {proc : Process} {s : Surroundings β}
    {call : BackupCall} {panel panel' : Panel β δ} {store store' : δ} :
    SameContents (archiveEntries lib eng proc s call panel store)
        (archiveEntries lib eng proc s call panel' store')
      ↔ databaseJson lib eng call store = databaseJson lib eng call store'
        ∧ ∀ p b, Exported eng call panel p b ↔ Exported eng call panel' p b := by
  have hdb : ∀ (panel : Panel β δ) (store : δ) (b : β),
      ⟨["database.json"], b⟩ ∈ archiveEntries lib eng proc s call panel store
        ↔ b = databaseJson lib eng call store := by
    intro panel store b
    rw [mem_archiveEntries]
    simp
  have hfile : ∀ (panel : Panel β δ) (store : δ) (p : RelPath) (b : β),
      ⟨"files" :: p, b⟩ ∈ archiveEntries lib eng proc s call panel store
        ↔ Exported eng call panel p b := by
    intro panel store p b
    rw [mem_archiveEntries]
    simp
  constructor
  · intro h
    refine ⟨(hdb panel' store' _).mp ((h _ (.inl rfl)).mp ((hdb panel store _).mpr rfl)),
      fun p b => ?_⟩
    rw [← hfile panel store, ← hfile panel' store']
    exact h _ (.inr ⟨p, rfl⟩)
  · rintro ⟨hjson, hexp⟩ ⟨name, b⟩ (hname | ⟨p, hname⟩)
    · obtain rfl : name = ["database.json"] := hname
      rw [hdb, hdb, hjson]
    · obtain rfl : name = "files" :: p := hname
      rw [hfile, hfile]
      exact hexp p b

/-- **Secrets in a cleartext backup.**  Of two panels that differ in their secrets only, a backup
that is left unencrypted carries the same tables and files exactly if the secrets it exports
agree. -/
theorem cleartext_backup_iff {lib : Lib β} (hlib : lib.Lawful)
    (hjson : Function.Injective lib.dumps) {eng : Engine β δ} (heng : eng.Lawful)
    {proc : Process} {s : Surroundings β} {call : BackupCall} {panel panel' : Panel β δ}
    (hdiffer : DifferInSecrets eng panel panel') (hsettings : "settings" ∈ eng.tables panel.store)
    (hplain : encryptionPassword proc call = none) {c c' : Created β δ}
    (hc : createBackup lib eng proc s call panel = .ok c)
    (hc' : createBackup lib eng proc s call panel' = .ok c') :
    (∃ es es', lib.readZip c.data = .ok es ∧ lib.readZip c'.data = .ok es' ∧ SameContents es es')
      ↔ SecretsAgree eng s call panel panel' := by
  have hread : ∀ {panel : Panel β δ} {c : Created β δ},
      createBackup lib eng proc s call panel = .ok c →
      lib.readZip c.data = .ok (archiveEntries lib eng proc s call
        { panel with store := eng.checkpoint s.checkpointDone panel.store } panel.store) := by
    intro panel c h
    have hcreates := creates_of_ok h
    rw [hcreates.data, archiveData, hplain, ← hcreates.entries]
    exact hlib.readZip_writeZip c.entries
  have harchives : (∃ es es', lib.readZip c.data = .ok es ∧ lib.readZip c'.data = .ok es'
      ∧ SameContents es es') ↔ databaseJson lib eng call panel.store
            = databaseJson lib eng call panel'.store
          ∧ eng.mainFile (eng.checkpoint s.checkpointDone panel.store)
            = eng.mainFile (eng.checkpoint s.checkpointDone panel'.store)
          ∧ (call.isFull = true → panel.tree.file [".env"] = panel'.tree.file [".env"]) := by
    rw [hread hc, hread hc']
    simp only [Except.ok.injEq, exists_and_left, exists_eq_left', sameContents_iff]
    refine and_congr_right fun _ => ?_
    exact exported_iff eng call { panel with store := _ } { panel' with store := _ } hdiffer.files
  -- panels with the same settings have the same store
  have hstore : eng.select panel.store "settings" = eng.select panel'.store "settings" →
      panel.store = panel'.store := fun h => hdiffer.store fun t => by
    by_cases ht : t = "settings"
    · rw [ht, h]
    · exact hdiffer.rows t ht
  rw [harchives, SecretsAgree]
  cases hfull : call.isFull with
  | true =>
      simp only [if_true, forall_const]
      constructor
      · rintro ⟨hdb, -, henv⟩
        exact ⟨settings_eq_of_databaseJson hjson hfull hdiffer.tables hsettings hdb, henv⟩
      · rintro ⟨hset, henv⟩
        rw [hstore hset]
        exact ⟨rfl, rfl, henv⟩
  | false =>
      simp only [Bool.false_eq_true, if_false, false_implies, and_true]
      constructor
      · rintro ⟨-, hmain⟩
        cases hdone : s.checkpointDone with
        | true =>
            rw [hdone] at hmain
            exact .inl (heng.mainFile_select hmain "settings")
        | false =>
            rw [hdone] at hmain
            exact .inr ⟨rfl, hmain⟩
      · rintro (hset | ⟨hdone, hmain⟩)
        · rw [hstore hset]
          exact ⟨rfl, rfl⟩
        · rw [hdone]
          exact ⟨databaseJson_eq hdiffer hfull, hmain⟩

/-- The sample panel with another token of the machine interface. -/
def withToken (token : String) : Panel Blob SampleStore where
  tree := (samplePanel "<h1>Login</h1>").tree
  store := { settings := [("panel_title", "My panel"), ("api_token", token)], logs := [],
             main := ([], []) }

lemma withToken_differ (token token' : String) :
    DifferInSecrets sampleEngine (withToken token) (withToken token') where
  tables := rfl
  rows t ht := by simp [sampleEngine, withToken, ht]
  settings := by
    refine .cons (.inl rfl) (.cons (.inr ⟨?_, .str token', rfl⟩) .nil)
    show isSensitive [("key", .str "api_token"), ("value", .str token)] = true
    simp [isSensitive, sensitiveSettingKeys, Dict.get?, Json.isStr]
  store h := by
    have hrows := h "settings"
    simp only [sampleEngine, withToken, if_true, List.map_cons, List.map_nil] at hrows
    simp only [List.cons.injEq, Prod.mk.injEq, Json.str.injEq, and_true, true_and] at hrows
    simp only [withToken, hrows]
  files _ _ := rfl
  env := rfl

theorem cleartext_backup_iff_sample :
    (∃ es es', sampleBlobLib.readZip (okOf (createBackup sampleBlobLib sampleEngine sampleProcess
          sampleSurroundings sampleBackupCall (withToken "t0ken")) (by decide)).data = .ok es
        ∧ sampleBlobLib.readZip (okOf (createBackup sampleBlobLib sampleEngine sampleProcess
          sampleSurroundings sampleBackupCall (withToken "an0ther")) (by decide)).data = .ok es'
        ∧ SameContents es es')
      ↔ SecretsAgree sampleEngine sampleSurroundings sampleBackupCall (withToken "t0ken")
          (withToken "an0ther") :=
  cleartext_backup_iff sampleBlobLib_lawful (fun _ _ h => Blob.json.inj h) sampleEngine_lawful
    (withToken_differ _ _) (by decide) (by decide) (eq_okOf _ _) (eq_okOf _ _)

/-- The settings in an entry that is a database file. -/
def Blob.settings? : Blob → Option (List (String × String))
  | .sqlite settings _ => some settings
  | _ => none

/-- A standard backup carries the token of the machine interface in `database.db`. -/
theorem standard_backup_carries_token :
    ∃ c c', createBackup sampleBlobLib sampleEngine sampleProcess sampleSurroundings
          sampleBackupCall (withToken "t0ken") = .ok c
        ∧ createBackup sampleBlobLib sampleEngine sampleProcess sampleSurroundings
          sampleBackupCall (withToken "an0ther") = .ok c'
        ∧ sampleBackupCall.backupType = "standard"
        ∧ encryptionPassword sampleProcess sampleBackupCall = none
        ∧ DifferInSecrets sampleEngine (withToken "t0ken") (withToken "an0ther")
        ∧ ¬ SameContents c.entries c'.entries := by
  refine ⟨_, _, eq_okOf _ (by decide), eq_okOf _ (by decide), rfl, by decide,
    withToken_differ _ _, fun h => ?_⟩
  have hmem : (["files", "database.db"],
      some [("panel_title", "My panel"), ("api_token", "t0ken")])
        ∈ (okOf (createBackup sampleBlobLib sampleEngine sampleProcess sampleSurroundings
            sampleBackupCall (withToken "t0ken")) (by decide)).entries.map
          (fun e => (e.name, e.data.settings?)) := by decide
  obtain ⟨e, he, hfe⟩ := List.mem_map.mp hmem
  have he' := (h e (.inr ⟨["database.db"], (Prod.mk.inj hfe).1⟩)).mp he
  have hmem' := List.mem_map_of_mem (f := fun e => (e.name, e.data.settings?)) he'
  rw [hfe] at hmem'
  exact absurd hmem' (by decide)

end V2raySub
