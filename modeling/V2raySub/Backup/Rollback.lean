import V2raySub.Backup.Authentic

/-!
What a failed restore leaves of the panel.

* `Protected`, `Unchanged`: the files and the tables that a failed restore has to leave alone.
* `Recoverable`: the failure comes before the commit, and the files written by then were there
  before and are in a readable emergency archive.
* `files_iff`: the way back restores the protected files exactly if each one that was written can
  be brought back.
* `failed_restore_iff`: a failed restore leaves the panel as it was **exactly if it is
  recoverable**.
-/

namespace V2raySub

open FileTree

variable {β δ : Type*}

/-- The file is `.env`, or below `templates/`, `static/` or `storage/` and outside
`storage/backups/`. -/
def Protected (p : RelPath) : Prop :=
  p = [".env"] ∨ (∃ c q, q ≠ [] ∧ p = c :: q ∧ (c = "templates" ∨ c = "static" ∨ c = "storage"))
    ∧ ¬ backupDir <+: p

/-- The emergency archive is no protected file. -/
lemma Protected.ne_emergency {p : RelPath} (hp : Protected p) (name : String) :
    p ≠ backupDir ++ [name] := by
  rintro rfl
  rcases hp with heq | ⟨-, hp⟩
  · exact absurd heq (by simp [backupDir])
  · exact hp (List.prefix_append _ _)

/-- The tables other than `backup_logs` and the protected files are as they were. -/
structure Unchanged (eng : Engine β δ) (panel panel' : Panel β δ) : Prop where
  tables : ∀ t, t ≠ "backup_logs" → eng.select panel'.store t = eng.select panel.store t
  files : ∀ p, Protected p → panel'.tree.file p = panel.tree.file p

/-! ### The way back -/

/-- A protected file is copied back, `.env` if the restore was to write it. -/
lemma rollsBack_of_protected {p : RelPath} (hp : Protected p) {restoreEnv : Bool}
    (henv : p = [".env"] → restoreEnv = true) : rollsBack restoreEnv p = true := by
  rcases hp with rfl | ⟨⟨c, q, -, rfl, hc⟩, -⟩
  · rw [henv rfl]
    decide
  · have hrel : ∃ r, relNorm (c :: q) = c :: r := by
      rcases hc with rfl | rfl | rfl <;> exact ⟨relNorm q, rfl⟩
    obtain ⟨r, hr⟩ := hrel
    have hne : ∀ x ∈ [".env", "database.db", "database.db-wal", "database.db-shm"], c ≠ x := by
      rcases hc with rfl | rfl | rfl <;> decide
    simp only [List.forall_mem_cons, List.not_mem_nil, false_implies, implies_true,
      and_true] at hne
    simp [rollsBack, hr, restoreSilentlySkipped, hne]

/-- The only file that a restore writes as `.env` is the archive's `.env`, if it is to be
restored. -/
lemma restoreEnv_of_target {o : Listing β} {authentic restoreEnv : Bool} {t tree : Folder β}
    {f : RelPath × β} (hf : f ∈ restorePlan o authentic restoreEnv t)
    (h : tree.target f.1 = [".env"]) : restoreEnv = true := by
  obtain ⟨hwalk, hfate⟩ := List.mem_filter.mp hf
  obtain ⟨r, hr⟩ := tree.target_eq_append f.1
  rw [h] at hr
  have hf1 : f.1 = [".env"] := by
    cases hp : f.1 with
    | nil => exact absurd hp ((Folder.mem_walk (p := f.1) (b := f.2)).mp hwalk).1
    | cons c q =>
        rw [hp, List.cons_append, List.cons.injEq] at hr
        rw [hr.1, (List.append_eq_nil_iff.mp hr.2.symm).1]
  simp only [decide_eq_true_eq, hf1] at hfate
  cases restoreEnv with
  | true => rfl
  | false => cases authentic <;> exact absurd hfate (by decide)

/-- An encrypted emergency archive is no ZIP file: nothing is copied back. -/
lemma rollbackFiles_of_encrypted {lib : Lib β} (hlib : lib.Lawful) {proc : Process}
    {s : Surroundings β} {call : BackupCall} {entries : List (Entry β)} {o : Listing β}
    {tree : Folder β} {name : String} {restoreEnv : Bool} {pw : String}
    (hpw : encryptionPassword proc call = some pw)
    (hdata : tree.file (backupDir ++ [name]) = some (archiveData lib proc s call entries)) :
    rollbackFiles lib o tree name restoreEnv = tree := by
  obtain ⟨e, he⟩ := hlib.readZip_encrypt pw s.salt (lib.writeZip entries)
  simp [rollbackFiles, hdata, archiveData, hpw, extractArchive, he]

/-- From a readable emergency archive, the exported files get back what they held, and the others
stay as they are. -/
lemma rollbackFiles_of_plain {lib : Lib β} (hlib : lib.Lawful) {eng : Engine β δ}
    {proc : Process} {s : Surroundings β} {call : BackupCall} {panel : Panel β δ} {store : δ}
    {o : Listing β} {tree : Folder β} {name : String} {restoreEnv : Bool}
    (hpw : encryptionPassword proc call = none)
    (hdata : tree.file (backupDir ++ [name])
      = some (archiveData lib proc s call (archiveEntries lib eng proc s call panel store)))
    (hthere : ∀ p b, Exported eng call panel p b → rollsBack restoreEnv p = true →
      (tree.file p).isSome) :
    (∀ p b, Exported eng call panel p b → rollsBack restoreEnv p = true →
      (rollbackFiles lib o tree name restoreEnv).file p = some b)
    ∧ ∀ p, (∀ b, Exported eng call panel p b → rollsBack restoreEnv p = false) →
      (rollbackFiles lib o tree name restoreEnv).file p = tree.file p := by
  obtain ⟨t, ht, hfile⟩ := extract_archiveEntries lib eng proc s call panel store
  have hback : rollbackFiles lib o tree name restoreEnv
      = tree.copyAll ((t.walk o ["files"]).filter fun f => rollsBack restoreEnv f.1) := by
    rw [rollbackFiles, hdata]
    simp [archiveData, hpw, extractArchive, hlib.readZip_writeZip, ht]
  have hmem : ∀ p b, (p, b) ∈ (t.walk o ["files"]).filter (fun f => rollsBack restoreEnv f.1)
      ↔ Exported eng call panel p b ∧ rollsBack restoreEnv p = true := by
    intro p b
    rw [List.mem_filter, Folder.mem_walk]
    constructor
    · rintro ⟨⟨-, hp⟩, hr⟩
      exact ⟨(hfile p b).mp hp, hr⟩
    · rintro ⟨hp, hr⟩
      exact ⟨⟨hp.named.1, (hfile p b).mpr hp⟩, hr⟩
  obtain ⟨hin, hout⟩ := Folder.copyAll_of_files (t := tree)
    (l := (t.walk o ["files"]).filter fun f => rollsBack restoreEnv f.1)
    (fun f hf => hthere f.1 f.2 ((hmem f.1 f.2).mp hf).1 ((hmem f.1 f.2).mp hf).2)
    (fun f hf g hg h => Folder.walk_leaf (List.mem_of_mem_filter hf) (List.mem_of_mem_filter hg)
      (h ▸ List.prefix_rfl))
  rw [hback]
  refine ⟨fun p b hp hr => hin (p, b) ((hmem p b).mpr ⟨hp, hr⟩), fun p hp => hout p ?_⟩
  rintro ⟨q, b⟩ hf rfl
  obtain ⟨hq, hr⟩ := (hmem q b).mp hf
  exact absurd hr (by simp [hp b hq])

/-! ### A failed restore -/

/-- The panel can be brought back: the failure comes before the commit, or the tables committed
are those that were there; and every protected file that it finds written holds what it held
before, or was there before, outside the directories `storage/backups…`, while the emergency
archive is not encrypted. -/
structure Recoverable (lib : Lib β) (eng : Engine β δ) (proc : Process) (call : RestoreCall β)
    (authentic : Bool) (t : Folder β) (panel panel₁ : Panel β δ) : Prop where
  tables : ∀ d, PastCommit lib eng call authentic t panel₁ d → ∀ t, t ≠ "backup_logs" →
    eng.select d t = eng.select panel.store t
  files : ∀ f ∈ filesLanded lib eng call call.fault.torn authentic t panel₁, Protected f.1 →
    panel.tree.file f.1 = some f.2
      ∨ (panel.tree.file f.1).isSome ∧ isExcluded [["storage", "backups"]] f.1 = false
        ∧ encryptionPassword proc (emergencyCall call) = none

/-- A protected file that was there is in the emergency archive, unless it is in a directory that
is left out. -/
lemma exported_of_protected {eng : Engine β δ} {call : RestoreCall β} {panel : Panel β δ}
    {p : RelPath} {b : β} (hp : Protected p) (hfile : panel.tree.file p = some b)
    (hexc : isExcluded [["storage", "backups"]] p = false) :
    Exported eng (emergencyCall call) panel p b := by
  refine .inr ⟨hfile, ?_⟩
  rcases hp with rfl | ⟨⟨c, q, hq, rfl, hc⟩, -⟩
  · exact .inr ⟨List.prefix_rfl, rfl⟩
  · refine .inl ⟨c, q, hq, rfl, ?_⟩
    rcases hc with rfl | rfl | rfl
    · exact .inl rfl
    · exact .inr (.inl rfl)
    · exact .inr (.inr ⟨rfl, hexc⟩)

lemma exported_of_rollsBack {eng : Engine β δ} {call : BackupCall} {panel : Panel β δ}
    {p : RelPath} {b : β} {restoreEnv : Bool} (h : Exported eng call panel p b)
    (hr : rollsBack restoreEnv p = true) :
    panel.tree.file p = some b ∧ ∀ name, p ≠ backupDir ++ [name] := by
  rcases h with ⟨rfl, -⟩ | ⟨hfile, hwhere⟩
  · cases restoreEnv <;> exact absurd hr (by decide)
  · refine ⟨hfile, ?_⟩
    rintro name rfl
    rcases hwhere with ⟨c, q, -, heq, hc⟩ | ⟨hpre, -⟩
    · obtain ⟨rfl, -⟩ := List.cons.inj (show "storage" :: "backups" :: [name] = c :: q from heq)
      rcases hc with hc | hc | ⟨-, hexc⟩
      · exact absurd hc (by decide)
      · exact absurd hc (by decide)
      · exact absurd hexc (by simp [isExcluded, backupDir, textPrefix])
    · exact absurd (List.cons_prefix_cons.mp hpre).1 (by decide)

lemma isExcluded_of_exported {eng : Engine β δ} {call : BackupCall} {panel : Panel β δ}
    {p : RelPath} {b : β} (hp : Protected p) (h : Exported eng call panel p b) :
    isExcluded [["storage", "backups"]] p = false := by
  rcases hp with rfl | ⟨⟨c, q, hq, rfl, hc⟩, -⟩
  · rfl
  · rcases hc with rfl | rfl | rfl
    · simp [isExcluded, textPrefix, List.dropLast_cons_of_ne_nil hq]
    · simp [isExcluded, textPrefix, List.dropLast_cons_of_ne_nil hq]
    · rcases h with ⟨heq, -⟩ | ⟨-, ⟨c', q', -, heq, hc'⟩ | ⟨hpre, -⟩⟩
      · exact absurd (List.cons.inj heq).1 (by decide)
      · obtain ⟨rfl, -⟩ := List.cons.inj heq
        rcases hc' with hc' | hc' | ⟨-, hexc⟩
        · exact absurd hc' (by decide)
        · exact absurd hc' (by decide)
        · exact hexc
      · exact absurd (List.cons_prefix_cons.mp hpre).1 (by decide)

/-- What the `except` branch leaves. -/
lemma recover_panel (lib : Lib β) {eng : Engine β δ} (heng : eng.Lawful) (s : Surroundings β)
    (call : RestoreCall β) (name : String) (live : Live β δ) (e : String) :
    (recover lib eng s call name live e).panel.tree
        = rollbackFiles lib call.order live.tree name call.restoreEnv
      ∧ ∀ t, t ≠ "backup_logs" →
        eng.select (recover lib eng s call name live e).panel.store t
          = eng.select live.store t := by
  rw [recover]
  split
  · exact ⟨rfl, fun _ _ => rfl⟩
  next store hstore => exact ⟨rfl, fun t ht => heng.log_select hstore t ht⟩

/-- Where no copy landed, a run leaves the file of before. -/
lemma Ran.file_cases {lib : Lib β} {eng : Engine β δ} {call : RestoreCall β} {authentic : Bool}
    {t : Folder β} {panel : Panel β δ} {live : Live β δ}
    (h : Ran lib eng call authentic t panel live) (p : RelPath) :
    (∃ f ∈ filesLanded lib eng call call.fault.torn authentic t panel,
        f.1 = p ∧ live.tree.file p = some f.2)
      ∨ live.tree.file p = panel.tree.file p := by
  by_cases hleft : ∃ f ∈ filesLanded lib eng call call.fault.torn authentic t panel, f.1 = p
  · obtain ⟨f, hf, rfl⟩ := hleft
    exact .inl ⟨f, hf, rfl, h.landed f hf⟩
  · push Not at hleft
    exact .inr (h.others p hleft)

section

variable {lib : Lib β} {eng : Engine β δ} {proc : Process} {s : Surroundings β}
  {call : RestoreCall β} {authentic : Bool} {t : Folder β} {panel : Panel β δ} {emerg : Created β δ}
  {live : Live β δ}

/-- The emergency backup is a file of its own, and the other files stay. -/
lemma Creates.file_of_ne (hemerg : Creates lib eng proc s (emergencyCall call) panel emerg)
    {p : RelPath} (hp : p ≠ backupDir ++ [emerg.filename]) :
    emerg.panel.tree.file p = panel.tree.file p := by
  rw [Folder.file_of_write hemerg.tree, if_neg hp]

/-- A run that copies nothing onto the emergency backup leaves it there. -/
lemma Creates.file_emergency (hemerg : Creates lib eng proc s (emergencyCall call) panel emerg)
    (hfresh : ∀ f ∈ restorePlan call.order authentic call.restoreEnv t,
      emerg.panel.tree.target f.1 ≠ backupDir ++ [emerg.filename])
    (hlive : Ran lib eng call authentic t emerg.panel live) :
    live.tree.file (backupDir ++ [emerg.filename]) = some emerg.data := by
  rw [hlive.others _ fun f hf => ?_, Folder.file_of_write hemerg.tree, if_pos rfl]
  obtain ⟨g, hg, hfg⟩ := mem_filesLanded hf
  exact hfg ▸ hfresh g hg

/-- An encrypted emergency backup is no way back: what the copies left stays. -/
lemma files_encrypted_iff (hlib : lib.Lawful) {pw : String}
    (hpw : encryptionPassword proc (emergencyCall call) = some pw)
    (hemerg : Creates lib eng proc s (emergencyCall call) panel emerg)
    (hdata : live.tree.file (backupDir ++ [emerg.filename]) = some emerg.data)
    (hlive : Ran lib eng call authentic t emerg.panel live) :
    (∀ p, Protected p → (rollbackFiles lib call.order live.tree emerg.filename
        call.restoreEnv).file p = panel.tree.file p)
      ↔ ∀ f ∈ filesLanded lib eng call call.fault.torn authentic t emerg.panel, Protected f.1 →
        panel.tree.file f.1 = some f.2 := by
  rw [rollbackFiles_of_encrypted hlib hpw (hemerg.data ▸ hdata)]
  constructor
  · intro h f hf hp
    exact (h f.1 hp).symm.trans (hlive.landed f hf)
  · intro h p hp
    rcases hlive.file_cases p with ⟨f, hf, rfl, hfile⟩ | hsame
    · exact hfile.trans (h f hf hp).symm
    · exact hsame.trans (hemerg.file_of_ne (hp.ne_emergency _))

/-- A plain one puts back the files it holds, which the run has left where they were. -/
lemma files_plain_iff (hlib : lib.Lawful)
    (hpw : encryptionPassword proc (emergencyCall call) = none)
    (hemerg : Creates lib eng proc s (emergencyCall call) panel emerg)
    (hdata : live.tree.file (backupDir ++ [emerg.filename]) = some emerg.data)
    (hlive : Ran lib eng call authentic t emerg.panel live) :
    (∀ p, Protected p → (rollbackFiles lib call.order live.tree emerg.filename
        call.restoreEnv).file p = panel.tree.file p)
      ↔ ∀ f ∈ filesLanded lib eng call call.fault.torn authentic t emerg.panel, Protected f.1 →
        panel.tree.file f.1 = some f.2
          ∨ (panel.tree.file f.1).isSome ∧ isExcluded [["storage", "backups"]] f.1 = false := by
  have hthere : ∀ p b, Exported eng (emergencyCall call)
        { panel with store := eng.checkpoint s.checkpointDone panel.store } p b →
      rollsBack call.restoreEnv p = true → (live.tree.file p).isSome := by
    intro p b hp hr
    rcases hlive.file_cases p with ⟨f, hf, -, hfile⟩ | hsame
    · rw [hfile]
      rfl
    · obtain ⟨hpanel, hne⟩ := exported_of_rollsBack hp hr
      rw [hsame, hemerg.file_of_ne (hne _), hpanel]
      rfl
  obtain ⟨hback, hstay⟩ := rollbackFiles_of_plain hlib (o := call.order) hpw
    (by rw [← hemerg.entries, ← hemerg.data]; exact hdata) hthere
  have henv : ∀ f ∈ filesLanded lib eng call call.fault.torn authentic t emerg.panel,
      f.1 = [".env"] → call.restoreEnv = true := by
    intro f hf h
    obtain ⟨g, hg, hfg⟩ := mem_filesLanded hf
    exact restoreEnv_of_target hg (hfg ▸ h)
  constructor
  · intro h f hf hp
    have hr := rollsBack_of_protected hp (henv f hf)
    by_cases hexp : ∃ b, Exported eng (emergencyCall call)
        { panel with store := eng.checkpoint s.checkpointDone panel.store } f.1 b
    · obtain ⟨b, hb⟩ := hexp
      refine .inr ⟨?_, isExcluded_of_exported hp hb⟩
      rw [(exported_of_rollsBack hb hr).1]
      rfl
    · push Not at hexp
      have hfinal := hstay f.1 fun b hb => absurd hb (hexp b)
      exact .inl ((h f.1 hp).symm.trans (hfinal.trans (hlive.landed f hf)))
  · intro h p hp
    by_cases hexp : ∃ b, Exported eng (emergencyCall call)
        { panel with store := eng.checkpoint s.checkpointDone panel.store } p b
        ∧ rollsBack call.restoreEnv p = true
    · obtain ⟨b, hb, hr⟩ := hexp
      exact (hback p b hb hr).trans (exported_of_rollsBack hb hr).1.symm
    · push Not at hexp
      rw [hstay p fun b hb => Bool.eq_false_iff.mpr (hexp b hb)]
      rcases hlive.file_cases p with ⟨f, hf, rfl, hfile⟩ | hsame
      · rcases h f hf hp with heq | ⟨hsome, hexc⟩
        · exact hfile.trans heq.symm
        · obtain ⟨b, hb⟩ := Option.isSome_iff_exists.mp hsome
          exact absurd (rollsBack_of_protected hp (henv f hf))
            (hexp b (exported_of_protected hp hb hexc))
      · exact hsame.trans (hemerg.file_of_ne (hp.ne_emergency _))

/-- The files of the panel are as they were after the way back exactly if each one that was
written can be brought back. -/
lemma files_iff (hlib : lib.Lawful)
    (hemerg : Creates lib eng proc s (emergencyCall call) panel emerg)
    (hfresh : ∀ f ∈ restorePlan call.order authentic call.restoreEnv t,
      emerg.panel.tree.target f.1 ≠ backupDir ++ [emerg.filename])
    (hlive : Ran lib eng call authentic t emerg.panel live) :
    (∀ p, Protected p → (rollbackFiles lib call.order live.tree emerg.filename
        call.restoreEnv).file p = panel.tree.file p)
      ↔ ∀ f ∈ filesLanded lib eng call call.fault.torn authentic t emerg.panel, Protected f.1 →
        panel.tree.file f.1 = some f.2
          ∨ (panel.tree.file f.1).isSome ∧ isExcluded [["storage", "backups"]] f.1 = false
            ∧ encryptionPassword proc (emergencyCall call) = none := by
  have hdata := hemerg.file_emergency hfresh hlive
  cases hpw : encryptionPassword proc (emergencyCall call) with
  | some pw =>
      rw [files_encrypted_iff hlib hpw hemerg hdata hlive]
      simp only [reduceCtorEq, and_false, or_false]
  | none =>
      rw [files_plain_iff hlib hpw hemerg hdata hlive]
      simp only [and_true]

end

/-- A failure before the `try` block finds nothing changed. -/
lemma unchanged_iff_early {lib : Lib β} {eng : Engine β δ} (heng : eng.Lawful) {proc : Process}
    {s : Surroundings β} {call : RestoreCall β} {authentic : Bool} {t : Folder β}
    {panel : Panel β δ} {emerg : Created β δ}
    (hemerg : Creates lib eng proc s (emergencyCall call) panel emerg)
    (hstep : call.fault.step < 2) :
    Unchanged eng panel emerg.panel
      ↔ Recoverable lib eng proc call authentic t panel emerg.panel := by
  have hearly : call.tryStep < 4 := by rw [RestoreCall.tryStep]; omega
  constructor
  · intro _
    refine ⟨fun d hd => absurd hd.2.2 (by omega), fun f hf => ?_⟩
    rw [filesLanded_of_raised (.inl hearly)] at hf
    cases hf
  · intro _
    exact ⟨fun t' ht' => hemerg.select_eq heng ht',
      fun p hp => hemerg.file_of_ne (hp.ne_emergency _)⟩

/-- **A failed restore.**  When `restore_backup` raises after its emergency backup has been taken,
the tables and the files are as they were exactly if the panel can be brought back.  The name of
the emergency archive carries the microsecond of the call, so that no file of the archive lands
on it. -/
theorem failed_restore_iff {lib : Lib β} (hlib : lib.Lawful) {eng : Engine β δ}
    (heng : eng.Lawful) {proc : Process} {s : Surroundings β} {outside : String → Lookup β}
    {call : RestoreCall β} {panel : Panel β δ} {v : Verdict} {zip : β} {t : Folder β}
    {emerg : Created β δ}
    (hver : verifyBackup lib proc outside call.data call.password = .ok v)
    (hcompat : v.status ≠ .incompatible)
    (hzip : decryptArchive lib proc call.data call.password = .ok zip)
    (ht : extractArchive lib zip = .ok t)
    (hemerg : createBackup lib eng proc s (emergencyCall call) panel = .ok emerg)
    (hfresh : ∀ f ∈ restorePlan call.order v.authentic call.restoreEnv t,
      emerg.panel.tree.target f.1 ≠ backupDir ++ [emerg.filename])
    (hraised : (restoreBackup lib eng proc s outside call panel).raised ≠ none) :
    Unchanged eng panel (restoreBackup lib eng proc s outside call panel).panel
      ↔ Recoverable lib eng proc call v.authentic t panel emerg.panel := by
  have hcreates := creates_of_ok hemerg
  rw [restoreBackup, hver] at hraised ⊢
  simp only [if_neg hcompat, hzip, hemerg] at hraised ⊢
  rw [restoreFrom] at hraised ⊢
  split_ifs at hraised ⊢ with hstep
  · exact unchanged_iff_early heng hcreates hstep
  rw [ht] at hraised ⊢
  dsimp only at hraised ⊢
  rcases hrun : (machine call.fault.torn).run call.fault.error call.tryStep
      (restoreSteps lib eng s call emerg.filename v.authentic t)
      ⟨emerg.panel.tree, emerg.panel.store, none, []⟩ with ⟨live, r⟩
  rw [hrun] at hraised
  cases r with
  | none => exact absurd rfl hraised
  | some e =>
      have hlive := ran_of_run heng hrun
      obtain ⟨htree, hstore⟩ := recover_panel lib heng s call emerg.filename live e
      dsimp only
      constructor
      · rintro ⟨htables, hfiles⟩
        refine ⟨fun d hd t' ht' => ?_, ?_⟩
        · rw [← hlive.committed d hd t' ht', ← hstore t' ht']
          exact htables t' ht'
        · rw [htree] at hfiles
          exact (files_iff hlib hcreates hfresh hlive).mp hfiles
      · rintro ⟨htables, hfiles⟩
        refine ⟨fun t' ht' => ?_, ?_⟩
        · rw [hstore t' ht']
          by_cases hpast : ∃ d, PastCommit lib eng call v.authentic t emerg.panel d
          · obtain ⟨d, hd⟩ := hpast
            rw [hlive.committed d hd t' ht', htables d hd t' ht']
          · push Not at hpast
            rw [hlive.uncommitted hpast, hcreates.select_eq heng ht']
        · rw [htree]
          exact (files_iff hlib hcreates hfresh hlive).mpr hfiles

/-- A restore of the sample's backup whose commit fails, with a password or without. -/
def struckCall (password : Option String) : RestoreCall Blob :=
  { sampleRestoreCall sampleBackup.data with
    password := password
    fault := ⟨7, "disk I/O error", none⟩ }

/-- The answer of the verification of the sample's archive. -/
def sampleVerdict : Verdict :=
  okOf (verifyBackup sampleBlobLib sampleProcess noOutside sampleBackup.data none) (by decide)

/-- The emergency backup of a restore on the sample panel. -/
def sampleEmergency (password : Option String) : Created Blob SampleStore :=
  okOf (createBackup sampleBlobLib sampleEngine sampleProcess sampleSurroundings
    (emergencyCall (struckCall password)) (samplePanel "<h1>Sign in</h1>")) rfl

theorem failed_restore_iff_sample :
    Unchanged sampleEngine (samplePanel "<h1>Sign in</h1>")
        (restoreBackup sampleBlobLib sampleEngine sampleProcess sampleSurroundings noOutside
          (struckCall none) (samplePanel "<h1>Sign in</h1>")).panel
      ↔ Recoverable sampleBlobLib sampleEngine sampleProcess (struckCall none)
          sampleVerdict.authentic sampleTree (samplePanel "<h1>Sign in</h1>")
          (sampleEmergency none).panel :=
  failed_restore_iff (t := sampleTree) sampleBlobLib_lawful sampleEngine_lawful
    (eq_okOf _ (by decide)) (by decide) (eq_okOf _ (by decide)) (eq_okOf _ (by decide))
    (eq_okOf _ (by decide)) (by decide) (by decide)

/-- A restore with a password encrypts its emergency archive; when its commit fails, the restored
template stays. -/
theorem encrypted_emergency_unread :
    (∃ v, verifyBackup sampleBlobLib sampleProcess noOutside sampleBackup.data (some "s3cret")
        = .ok v ∧ v.status = .compatible)
      ∧ (createBackup sampleBlobLib sampleEngine sampleProcess sampleSurroundings
          (emergencyCall (struckCall (some "s3cret"))) (samplePanel "<h1>Sign in</h1>")).isOk
      ∧ (restoreBackup sampleBlobLib sampleEngine sampleProcess sampleSurroundings noOutside
          (struckCall (some "s3cret")) (samplePanel "<h1>Sign in</h1>")).raised.isSome
      ∧ ¬ Unchanged sampleEngine (samplePanel "<h1>Sign in</h1>")
          (restoreBackup sampleBlobLib sampleEngine sampleProcess sampleSurroundings noOutside
            (struckCall (some "s3cret")) (samplePanel "<h1>Sign in</h1>")).panel := by
  refine ⟨⟨_, eq_okOf _ (by decide), by decide⟩, by decide, by decide, fun h => ?_⟩
  have hprotected : Protected ["templates", "login.html"] :=
    .inr ⟨⟨"templates", ["login.html"], by decide, rfl, .inl rfl⟩, by decide⟩
  have htext := congrArg (fun b => b.bind Blob.text?) (h.files _ hprotected)
  exact absurd htext (by decide)

end V2raySub
