import V2raySub.Backup.Authentic
import V2raySub.Backup.Delivery
import V2raySub.Base.Latest

/-!
Retention after a backup (`create_backup`, `_enforce_retention`).

* `finishBackup`: the end of a call, in the directory of the archives.
* `mem_enforceRetention`: an archive stays exactly if fewer than the limit come after it;
  `perm_enforceRetention`: those that stay are the latest ones.
* `retention_keeps_new_iff`: the archive just made is kept, with at most the limit of the latest
  ones, **exactly if fewer archives than the limit have its modification time and a later name**.
-/

namespace V2raySub

open PyText

variable {β : Type*}

/-- `max_retention`. -/
def retentionMax (db : Db) : ℤ := (intOfStr? (getSetting db "backup_retention_max" "30")).getD 30

/-- The archive is moved to its place, and its row is logged. -/
def Vault.put (a : Archive β) (row : BackupLog) (v : Vault β) : Vault β :=
  { v with
    archives := (v.archives.filter fun b => b.filename ≠ a.filename) ++ [a]
    backupLogs := v.backupLogs.insert row }

/-- The end of `create_backup`, from the archive on. -/
def finishBackup (call : BackupCall) (row : BackupLog) (a : Archive β) (v : Vault β) : Vault β :=
  if call.isEmergency then v.put a row
  else enforceRetention (retentionMax (v.put a row).db) (v.put a row)

/-! ### The order of the archives -/

instance : Std.Total (Archive.Older (β := β)) where
  total a b := by
    rcases Nat.lt_trichotomy a.mtime b.mtime with h | h | h
    · exact .inl (.inl h)
    · rcases String.le_total a.filename b.filename with hle | hle
      · exact .inl (.inr ⟨h, String.not_lt.mpr hle⟩)
      · exact .inr (.inr ⟨h.symm, String.not_lt.mpr hle⟩)
    · exact .inr (.inl h)

instance : IsTrans (Archive β) Archive.Older where
  trans a b c hab hbc := by
    rcases hab with hab | ⟨hab, hname⟩ <;> rcases hbc with hbc | ⟨hbc, hname'⟩
    · exact .inl (hab.trans hbc)
    · exact .inl (hbc ▸ hab)
    · exact .inl (hab ▸ hbc)
    · refine .inr ⟨hab.trans hbc, String.not_lt.mpr ?_⟩
      exact String.le_trans (String.not_lt.mp hname) (String.not_lt.mp hname')

/-- Of two archives with different names one comes first. -/
lemma Archive.Older.filename_eq {a b : Archive β} (h : a.Older b) (h' : b.Older a) :
    a.filename = b.filename := by
  have hname : ¬ b.filename < a.filename ∧ ¬ a.filename < b.filename := by
    rcases h with h | ⟨h, hn⟩ <;> rcases h' with h' | ⟨h', hn'⟩
    · omega
    · omega
    · omega
    · exact ⟨hn, hn'⟩
  exact String.le_antisymm (String.not_lt.mp hname.1) (String.not_lt.mp hname.2)

/-- The archives `_enforce_retention` counts. -/
def Vault.backups (v : Vault β) : List (Archive β) :=
  v.archives.filter fun a => isBackupName a.filename

variable {v : Vault β}

lemma Vault.ties_backups (hkeyed : Rows.Keyed Archive.filename v.archives) :
    v.backups.Pairwise fun a b => ¬ (a.Older b ∧ b.Older a) := by
  have hnodup : (v.backups.map Archive.filename).Nodup :=
    hkeyed.sublist (List.filter_sublist.map _)
  exact (List.pairwise_map.mp hnodup).imp fun hne h => hne (h.1.filename_eq h.2)

/-! ### What stays -/

lemma Vault.archives_foldl_unlink (message : Archive β → String) (l : List (Archive β))
    (v : Vault β) :
    (l.foldl (fun v a => v.unlink a.filename "SYSTEM" (message a)) v).archives
      = v.archives.filter fun a => a.filename ∉ l.map Archive.filename := by
  induction l generalizing v with
  | nil => simp
  | cons b l ih =>
      rw [List.foldl_cons, ih, Vault.unlink, List.filter_filter]
      refine List.filter_congr fun a _ => ?_
      simp only [List.map_cons, List.mem_cons, not_or, Bool.decide_and, ne_eq]
      exact Bool.and_comm _ _

/-- Retention unlinks all but the latest. -/
lemma archives_enforceRetention (max : ℤ) (v : Vault β) :
    (enforceRetention max v).archives = v.archives.filter fun a =>
      a.filename ∉ (Latest.dropped Archive.Older max v.backups).map Archive.filename := by
  have hlength := List.length_insertionSort Archive.Older v.backups
  rw [← Vault.archives_foldl_unlink fun a =>
    s!"حذف خودکار نسخه قدیمی به دلیل سیاست نگهداری: {a.filename}"]
  rw [enforceRetention, Latest.dropped, ← hlength]
  split_ifs with hlt
  · rfl
  · have hzero : ((v.backups.insertionSort Archive.Older).length - max).toNat = 0 := by
      rw [Vault.backups]
      omega
    rw [hzero]
    rfl

/-- The archives that stay are the latest ones. -/
lemma perm_backups_enforceRetention (hkeyed : Rows.Keyed Archive.filename v.archives) (max : ℤ) :
    (enforceRetention max v).backups.Perm (Latest.latest Archive.Older max v.backups) := by
  have hperm := Latest.perm_dropped_latest Archive.Older max v.backups
  have hnodup : ((Latest.dropped Archive.Older max v.backups
      ++ Latest.latest Archive.Older max v.backups).map Archive.filename).Nodup :=
    (hperm.map _).nodup_iff.mpr (hkeyed.sublist (List.filter_sublist.map _))
  rw [List.map_append, List.nodup_append] at hnodup
  have hsame : (enforceRetention max v).backups = v.backups.filter fun a =>
      a.filename ∉ (Latest.dropped Archive.Older max v.backups).map Archive.filename := by
    rw [Vault.backups, archives_enforceRetention, List.filter_filter, Vault.backups,
      List.filter_filter]
    exact List.filter_congr fun a _ => Bool.and_comm _ _
  rw [hsame]
  refine (hperm.filter _).symm.trans ?_
  rw [List.filter_append]
  have hgone : (Latest.dropped Archive.Older max v.backups).filter (fun a => a.filename ∉
      (Latest.dropped Archive.Older max v.backups).map Archive.filename) = [] := by
    refine List.filter_eq_nil_iff.mpr fun a ha => ?_
    simpa using ⟨a, ha, rfl⟩
  have hstay : (Latest.latest Archive.Older max v.backups).filter (fun a => a.filename ∉
      (Latest.dropped Archive.Older max v.backups).map Archive.filename)
        = Latest.latest Archive.Older max v.backups := by
    refine List.filter_eq_self.mpr fun a ha => decide_eq_true fun hmem => ?_
    exact hnodup.2.2 _ hmem _ (List.mem_map_of_mem ha) rfl
  rw [hgone, hstay, List.nil_append]

/-! ### The archive just made -/

/-- The name of an archive is one that retention counts. -/
lemma isBackupName_archiveName (s : Surroundings β) (call : BackupCall)
    (hcall : call.isEmergency = false) : isBackupName (archiveName s call) := by
  rw [archiveName, if_neg (by simp [hcall]), isBackupName, Bool.and_eq_true, Bool.or_eq_true]
  refine ⟨.inl ?_, ?_⟩
  · rw [List.isPrefixOf_iff_prefix, String.append_assoc, String.append_assoc, String.append_assoc,
      String.toList_append]
    exact List.prefix_append _ _
  · rw [List.isSuffixOf_iff_suffix, String.toList_append]
    exact List.suffix_append _ _

lemma Vault.keyed_put (hkeyed : Rows.Keyed Archive.filename v.archives) (a : Archive β)
    (row : BackupLog) : Rows.Keyed Archive.filename (v.put a row).archives := by
  rw [Rows.Keyed, Vault.put, List.map_append, List.nodup_append]
  refine ⟨hkeyed.sublist (List.filter_sublist.map _), List.nodup_singleton _, ?_⟩
  intro name hname name' hname'
  obtain ⟨b, hb, rfl⟩ := List.mem_map.mp hname
  rw [List.map_singleton, List.mem_singleton] at hname'
  rw [hname']
  exact of_decide_eq_true (List.mem_filter.mp hb).2

/-- The existing archives that were modified at the same time and have a later name. -/
def Vault.tied (v : Vault β) (a : Archive β) : ℕ :=
  v.backups.countP fun b => b.mtime = a.mtime ∧ a.filename < b.filename

/-- After all others that are not younger come only those. -/
lemma Vault.later_put {a : Archive β} (hname : isBackupName a.filename)
    (hold : ∀ b ∈ v.backups, b.mtime ≤ a.mtime) (row : BackupLog) :
    Latest.later Archive.Older (v.put a row).backups a = v.tied a := by
  have hbackups : (v.put a row).backups
      = (v.backups.filter fun b => b.filename ≠ a.filename) ++ [a] := by
    rw [Vault.backups, Vault.put, List.filter_append, Vault.backups, List.filter_filter,
      List.filter_filter, List.filter_singleton, hname]
    congr 1
    exact List.filter_congr fun b _ => Bool.and_comm _ _
  rw [Latest.later, hbackups, List.countP_append, List.countP_filter, Vault.tied]
  have hself : [a].countP (fun b => a.Older b ∧ ¬ b.Older a) = 0 := by
    simp
  rw [hself, Nat.add_zero]
  refine List.countP_congr fun b hb => ?_
  have hle := hold b hb
  rw [Bool.and_eq_true, decide_eq_true_eq, decide_eq_true_eq, decide_eq_true_eq]
  constructor
  · rintro ⟨⟨hab, hba⟩, hne⟩
    rcases hab with hlt | ⟨heq, hn⟩
    · omega
    · refine ⟨heq.symm, ?_⟩
      by_contra hnot
      exact hba (.inr ⟨heq.symm, hnot⟩)
  · rintro ⟨heq, hlt⟩
    refine ⟨⟨.inr ⟨heq.symm, String.lt_asymm hlt⟩, ?_⟩, fun hsame => ?_⟩
    · rintro (h | ⟨-, hn⟩)
      · omega
      · exact hn hlt
    · rw [hsame] at hlt
      exact String.lt_irrefl _ hlt

/-- Retention has kept the archive, with at most the limit of the others, the latest ones. -/
structure RetainsLatest (a : Archive β) (v v' : Vault β) (limit : ℤ) : Prop where
  kept : a ∈ v'.archives
  bounded : (v'.backups.length : ℤ) ≤ max 1 limit
  latest : ∀ b ∈ v.archives, b ∉ v'.archives → ∀ c ∈ v'.backups, b.mtime ≤ c.mtime

/-- **A new archive survives its own retention** exactly if fewer archives than the limit have its
modification time and a later name; the number of those that stay and their order are right for
every limit. -/
theorem retention_keeps_new_iff {δ : Type*} {lib : Lib β} {eng : Engine β δ} {proc : Process}
    {s : Surroundings β} {call : BackupCall} {panel : Panel β δ} {c : Created β δ}
    (h : createBackup lib eng proc s call panel = .ok c) (hcall : call.isEmergency = false)
    (row : BackupLog) {v : Vault β} (hkeyed : Rows.Keyed Archive.filename v.archives) {mtime : ℕ}
    (hold : ∀ b ∈ v.backups, b.mtime ≤ mtime) :
    RetainsLatest ⟨c.filename, mtime, c.data⟩ (v.put ⟨c.filename, mtime, c.data⟩ row)
        (finishBackup call row ⟨c.filename, mtime, c.data⟩ v) (retentionMax v.db)
      ↔ (v.tied ⟨c.filename, mtime, c.data⟩ : ℤ) < retentionMax v.db := by
  set a : Archive β := ⟨c.filename, mtime, c.data⟩ with ha
  have hname : isBackupName a.filename := by
    rw [ha, (creates_of_ok h).filename]
    exact isBackupName_archiveName s call hcall
  have hput := Vault.keyed_put hkeyed a row
  have hmem : a ∈ (v.put a row).backups := by
    refine List.mem_filter.mpr ⟨?_, hname⟩
    exact List.mem_append_right _ (List.mem_singleton_self a)
  have hperm := perm_backups_enforceRetention hput (retentionMax v.db)
  have hfinish : finishBackup call row a v
      = enforceRetention (retentionMax v.db) (v.put a row) := by
    rw [finishBackup, hcall, if_neg Bool.false_ne_true]
    rfl
  have hkept : a ∈ (finishBackup call row a v).archives ↔ (v.tied a : ℤ) < retentionMax v.db := by
    rw [← Vault.later_put hname hold row,
      ← Latest.mem_latest_iff (Vault.ties_backups hput) hmem, ← hperm.mem_iff, hfinish,
      Vault.backups, List.mem_filter]
    exact (and_iff_left hname).symm
  refine ⟨fun hr => hkept.mp hr.kept, fun hlt => ⟨hkept.mpr hlt, ?_, ?_⟩⟩
  · have hle := Latest.length_latest_le Archive.Older (retentionMax v.db) (v.put a row).backups
    rw [hfinish, hperm.length_eq]
    omega
  · intro b hb hgone d hd
    rw [hfinish] at hgone hd
    obtain ⟨b', hb', hsame⟩ : ∃ b' ∈ Latest.dropped Archive.Older (retentionMax v.db)
        (v.put a row).backups, b'.filename = b.filename := by
      rw [archives_enforceRetention, List.mem_filter, not_and] at hgone
      simpa using hgone hb
    have hmem' : b' ∈ (v.put a row).archives :=
      List.mem_of_mem_filter ((Latest.perm_dropped_latest _ _ _).mem_iff.mp
        (List.mem_append_left _ hb'))
    obtain rfl : b = b' := List.inj_on_of_nodup_map hput hb hmem' hsame.symm
    rcases Latest.rel_of_dropped hb' (hperm.mem_iff.mp hd) with hlt | ⟨heq, -⟩
    · exact hlt.le
    · exact heq.le

/-- The row of the sample's backup. -/
def sampleBackupLog : BackupLog :=
  { operation := "backup", user := "admin", status := "SUCCESS", duration := "0.4", backupSize := 1,
    errorMessage := none, deliveryStatus := "NOT_APPLICABLE", checksum := some "one" }

/-- The sample's backup as it lies in the directory. -/
def sampleArchive : Archive Blob := ⟨sampleBackup.filename, 7, sampleBackup.data⟩

/-- A directory with an emergency archive, and a limit. -/
def sampleShelf (limit : String) (mtime : ℕ) : Vault Blob where
  db := { sampleDb with settings := [("backup_retention_max", limit)] }
  backupLogs := .empty
  archives := [⟨"emergency_backup_before_restore_2026-01-01.zip", mtime, sampleBackup.data⟩]

/-- With a limit of one, the older archive goes. -/
theorem retention_keeps_new_iff_sample :
    RetainsLatest sampleArchive ((sampleShelf "1" 6).put sampleArchive sampleBackupLog)
      (finishBackup sampleBackupCall sampleBackupLog sampleArchive (sampleShelf "1" 6))
      (retentionMax (sampleShelf "1" 6).db) := by
  have hkeyed : Rows.Keyed Archive.filename (sampleShelf "1" 6).archives := List.nodup_singleton _
  exact (retention_keeps_new_iff (eq_okOf _ (by decide)) rfl sampleBackupLog hkeyed
    (by decide)).mpr (by decide)

/-- With a limit of zero the new archive goes, and with a limit of one it goes for an emergency
archive of the same time. -/
theorem new_archive_unlinked :
    createBackup sampleBlobLib sampleEngine sampleProcess sampleSurroundings sampleBackupCall
        (samplePanel "<h1>Login</h1>") = .ok sampleBackup
      ∧ retentionMax (sampleShelf "0" 6).db = 0
      ∧ sampleArchive ∉ (finishBackup sampleBackupCall sampleBackupLog sampleArchive
        (sampleShelf "0" 6)).archives
      ∧ retentionMax (sampleShelf "1" 7).db = 1
      ∧ sampleArchive ∉ (finishBackup sampleBackupCall sampleBackupLog sampleArchive
        (sampleShelf "1" 7)).archives := by
  have hnames : ∀ v : Vault Blob, sampleArchive.filename ∉ v.archives.map Archive.filename →
      sampleArchive ∉ v.archives := fun v h hmem => h (List.mem_map_of_mem hmem)
  exact ⟨eq_okOf _ (by decide), by decide, hnames _ (by decide), by decide, hnames _ (by decide)⟩

end V2raySub
