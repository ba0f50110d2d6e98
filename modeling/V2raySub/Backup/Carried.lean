import Mathlib.Data.List.TakeWhile
import V2raySub.Backup.Containment
import V2raySub.Backup.Rollback
import V2raySub.Backup.RoundTrip

/-!
What an archive carries of the panel, and what a restore of it puts back (`create_backup`,
`restore_backup`).

* `IsRuntime`: the files a backup is for; `Carries`, `PutsBack`: they are in the archive with
  their checksums, and they come back.
* `exported_runtime_iff`: the archive carries these files exactly if no directory beside
  `storage/backups` has a name that goes on from it, and `.env` is no directory with files.
* `listed_iff`: they are all listed exactly if no name has a backslash.
* `carries_iff`: the archive **carries every runtime file exactly if both hold**, and a restore
  then puts all of them back exactly if no directory has taken the place of one.
-/

namespace V2raySub

open FileTree

variable {β δ : Type*}

/-! ### The files a backup is for -/

/-- Below `templates/`, `static/` or `storage/` and not inside `storage/backups/`, or `.env` in a
full backup. -/
def RuntimePlace (call : BackupCall) (p : RelPath) : Prop :=
  (∃ c q, q ≠ [] ∧ p = c :: q ∧ (c = "templates" ∨ c = "static" ∨ c = "storage"))
      ∧ ¬ backupDir <+: p.dropLast
    ∨ p = [".env"] ∧ call.isFull = true

/-- The file is the database, or one of the panel at such a place. -/
def IsRuntime (eng : Engine β δ) (call : BackupCall) (panel : Panel β δ) (p : RelPath) (b : β) :
    Prop :=
  p = databasePath ∧ b = eng.mainFile panel.store
    ∨ RuntimePlace call p ∧ panel.tree.file p = some b

/-- The panel that `create_backup` copies from. -/
def checkpointed (eng : Engine β δ) (s : Surroundings β) (panel : Panel β δ) : Panel β δ :=
  { panel with store := eng.checkpoint s.checkpointDone panel.store }

/-- The checksums in the manifest of a backup. -/
def backupChecksums (lib : Lib β) (eng : Engine β δ) (s : Surroundings β) (call : BackupCall)
    (panel : Panel β δ) : Dict :=
  checksumsOf lib (databaseJson lib eng call panel.store)
    (exportFiles eng s.order call (checkpointed eng s panel)) (lib.encodeText (systemLog s call))

/-- The archive has the runtime files below `files/`, no others, and its manifest lists them with
the checksums of their bytes. -/
structure Carries (lib : Lib β) (eng : Engine β δ) (s : Surroundings β) (call : BackupCall)
    (panel : Panel β δ) (c : Created β δ) : Prop where
  files : ∀ p b, ⟨"files" :: p, b⟩ ∈ c.entries ↔ IsRuntime eng call (checkpointed eng s panel) p b
  manifest : ∃ fields, ⟨["manifest.json"], lib.dumps (.obj fields)⟩ ∈ c.entries
    ∧ Dict.get? fields "checksums" = some (.obj (backupChecksums lib eng s call panel))
  listed : ∀ p b, IsRuntime eng call (checkpointed eng s panel) p b →
    Lists lib (backupChecksums lib eng s call panel) p b

/-- A restore of the backup has to put the file back: not the database, and `.env` where it is
asked for. -/
def Restorable (call : BackupCall) (restoreEnv : Bool) (panel : Panel β δ) (p : RelPath) (b : β) :
    Prop :=
  RuntimePlace call p ∧ panel.tree.file p = some b ∧ (p = [".env"] → restoreEnv = true)

/-- The files are there as they were at the backup. -/
def PutsBack (call : BackupCall) (restoreEnv : Bool) (panel : Panel β δ) (tree : Folder β) : Prop :=
  ∀ p b, Restorable call restoreEnv panel p b → tree.file p = some b

/-! ### What is in the archive -/

/-- The names in the tree are such that an archive with the files of the panel has them all:
beside the directory of the archives no directory has a name that goes on from its name, `.env`
is no directory with files, and no runtime file has a backslash in its path. -/
structure Carriable (call : BackupCall) (panel : Panel β δ) : Prop where
  siblings : ∀ c q b, panel.tree.file ("storage" :: c :: q) = some b → q ≠ [] →
    "backups".toList <+: c.toList → c = "backups"
  env : call.isFull = true → ∀ q b, panel.tree.file (".env" :: q) = some b → q = []
  plain : ∀ p b, RuntimePlace call p → panel.tree.file p = some b → ∀ c ∈ p, Plain c

variable {lib : Lib β} {eng : Engine β δ} {proc : Process} {s : Surroundings β}
  {call : BackupCall} {panel : Panel β δ} {c : Created β δ}

/-- The text test leaves out the directories whose names go on from `backups`. -/
lemma isExcluded_storage_iff {q : RelPath} :
    isExcluded [["storage", "backups"]] ("storage" :: q) = true
      ↔ ∃ c r, q = c :: r ∧ r ≠ [] ∧ "backups".toList <+: c.toList := by
  match q with
  | [] => simp [isExcluded, textPrefix]
  | [c] => simp [isExcluded, textPrefix]
  | c :: d :: r =>
      simp [isExcluded, textPrefix, List.isPrefixOf_iff_prefix]

lemma backupDir_prefix_iff {q : RelPath} :
    backupDir <+: ("storage" :: q).dropLast ↔ ∃ r, q = "backups" :: r ∧ r ≠ [] := by
  match q with
  | [] => simp [backupDir]
  | [c] => simp [backupDir]
  | c :: d :: r => simp [backupDir, eq_comm]

/-- What the code leaves out is more than what is inside the directory. -/
lemma isExcluded_of_backupDir {q : RelPath} (h : backupDir <+: ("storage" :: q).dropLast) :
    isExcluded [["storage", "backups"]] ("storage" :: q) = true := by
  obtain ⟨r, rfl, hr⟩ := backupDir_prefix_iff.mp h
  exact isExcluded_storage_iff.mpr ⟨_, r, rfl, hr, List.prefix_rfl⟩

lemma not_backupDir_prefix {c : String} (hc : c ≠ "storage") (q : RelPath) :
    ¬ backupDir <+: (c :: q).dropLast := by
  intro h
  cases q with
  | nil => exact absurd h (by simp [backupDir])
  | cons d q =>
      rw [List.dropLast_cons_of_ne_nil (List.cons_ne_nil _ _), backupDir,
        List.cons_prefix_cons] at h
      exact hc h.1.symm

/-- **What is exported are the runtime files**, if the names allow it. -/
lemma exported_runtime_iff
    (hsiblings : ∀ c q b, panel.tree.file ("storage" :: c :: q) = some b → q ≠ [] →
      "backups".toList <+: c.toList → c = "backups")
    (henv : call.isFull = true → ∀ q b, panel.tree.file (".env" :: q) = some b → q = [])
    (p : RelPath) (b : β) : Exported eng call panel p b ↔ IsRuntime eng call panel p b := by
  refine or_congr_right ?_
  constructor
  · rintro ⟨hfile, ⟨c, q, hq, rfl, hc⟩ | ⟨⟨q, rfl⟩, hfull⟩⟩
    · refine ⟨.inl ⟨⟨c, q, hq, rfl, hc.imp_right (Or.imp_right And.left)⟩, ?_⟩, hfile⟩
      rcases hc with rfl | rfl | ⟨rfl, hexc⟩
      · exact not_backupDir_prefix (by decide) q
      · exact not_backupDir_prefix (by decide) q
      · intro hdir
        exact absurd (isExcluded_of_backupDir hdir) (by simp [hexc])
    · obtain rfl := henv hfull q b hfile
      exact ⟨.inr ⟨rfl, hfull⟩, hfile⟩
  · rintro ⟨⟨⟨c, q, hq, rfl, hc⟩, hdir⟩ | ⟨rfl, hfull⟩, hfile⟩
    · refine ⟨hfile, .inl ⟨c, q, hq, rfl, hc.imp_right (Or.imp_right ?_)⟩⟩
      rintro rfl
      refine ⟨rfl, Bool.eq_false_iff.mpr fun hexc => hdir ?_⟩
      obtain ⟨d, r, rfl, hr, hpre⟩ := isExcluded_storage_iff.mp hexc
      obtain rfl := hsiblings d r b hfile hr hpre
      exact backupDir_prefix_iff.mpr ⟨r, rfl, hr⟩
    · exact ⟨hfile, .inr ⟨List.prefix_rfl, hfull⟩⟩

/-- Where the two are the same, the names allow it. -/
lemma names_of_exported
    (h : ∀ p b, Exported eng call panel p b ↔ IsRuntime eng call panel p b) :
    (∀ c q b, panel.tree.file ("storage" :: c :: q) = some b → q ≠ [] →
        "backups".toList <+: c.toList → c = "backups")
      ∧ (call.isFull = true → ∀ q b, panel.tree.file (".env" :: q) = some b → q = []) := by
  constructor
  · intro c q b hfile hq hpre
    by_contra hne
    have hout : ¬ backupDir <+: ("storage" :: c :: q).dropLast := by
      intro hdir
      obtain ⟨r, hr, -⟩ := backupDir_prefix_iff.mp hdir
      exact hne (List.cons.inj hr).1
    have hexp : Exported eng call panel ("storage" :: c :: q) b := (h _ _).mpr
      (.inr ⟨.inl ⟨⟨_, _, List.cons_ne_nil _ _, rfl, .inr (.inr rfl)⟩, hout⟩, hfile⟩)
    have hexc : isExcluded [["storage", "backups"]] ("storage" :: c :: q) = true :=
      isExcluded_storage_iff.mpr ⟨c, q, rfl, hq, hpre⟩
    rcases hexp with ⟨heq, -⟩ | ⟨-, ⟨d, r, -, heq, hd⟩ | ⟨henv, -⟩⟩
    · exact absurd (List.cons.inj heq).1 (by decide)
    · obtain ⟨rfl, -⟩ := List.cons.inj heq
      rcases hd with hd | hd | ⟨-, hd⟩
      · exact absurd hd (by decide)
      · exact absurd hd (by decide)
      · exact absurd hexc (by simp [hd])
    · exact absurd (List.cons_prefix_cons.mp henv).1 (by decide)
  · intro hfull q b hfile
    have hexp : Exported eng call panel (".env" :: q) b :=
      .inr ⟨hfile, .inr ⟨List.prefix_append [".env"] q, hfull⟩⟩
    rcases (h _ _).mp hexp with ⟨heq, -⟩ | ⟨⟨⟨d, r, -, heq, hd⟩, -⟩ | ⟨heq, -⟩, -⟩
    · exact absurd (List.cons.inj heq).1 (by decide)
    · obtain ⟨rfl, -⟩ := List.cons.inj heq
      rcases hd with hd | hd | hd <;> exact absurd hd (by decide)
    · exact (List.cons.inj heq).2

/-! ### The checksums -/

/-- The names of the panel's files have no slash. -/
def NoSlash (t : Folder β) : Prop := ∀ p b, t.file p = some b → ∀ c ∈ p, '/' ∉ c.toList

lemma relNorm_of_plain {p : RelPath} (h : ∀ c ∈ p, Plain c) : relNorm p = p := by
  induction p with
  | nil => rfl
  | cons c p ih =>
      obtain ⟨hc, hp⟩ := List.forall_mem_cons.mp h
      rw [relNorm_cons_of_plain hc, ih hp]

/-- The parts between the backslashes have none. -/
lemma plain_of_mem_relNorm {p : RelPath} {c : String} (h : c ∈ relNorm p) : Plain c := by
  obtain ⟨d, -, hc⟩ := List.mem_flatMap.mp h
  obtain ⟨w, hw, rfl⟩ := List.mem_map.mp hc
  rw [Plain, String.toList_ofList]
  exact (PyText.of_mem_splitChars hw).1

/-- The key of a file names the path that its name leads to. -/
lemma splitOn_checksumKey {p : RelPath} (h : ∀ c ∈ p, '/' ∉ c.toList) :
    PyText.splitOn '/' (checksumKey p) = "files" :: relNorm p := by
  refine PyText.splitOn_intercalate (List.cons_ne_nil _ _) fun c hc => ?_
  rcases List.mem_cons.mp hc with rfl | hc
  · decide
  · obtain ⟨d, hd, hc⟩ := List.mem_flatMap.mp hc
    obtain ⟨w, hw, rfl⟩ := List.mem_map.mp hc
    rw [String.toList_ofList]
    exact fun hslash => h d hd ((PyText.of_mem_splitChars hw).2 hslash)

lemma keyPath_checksumKey {p : RelPath} (hnamed : Named p) (hslash : ∀ c ∈ p, '/' ∉ c.toList)
    (hplain : ∀ c ∈ p, Plain c) : keyPath (checksumKey p) = some ("files" :: p) := by
  have hall : ("files" :: p).all isName = true := by
    rw [List.all_cons, Bool.and_eq_true, List.all_eq_true]
    exact ⟨by decide, hnamed.2⟩
  simp only [keyPath, splitOn_checksumKey hslash, relNorm_of_plain hplain, hall, if_true]

/-- The files of an archive are set one after the other in its checksums. -/
lemma checksumsOf_eq (lib : Lib β) (database log : β) (files : List (RelPath × β)) :
    checksumsOf lib database files log
      = Dict.set (Dict.setAll (fun f => checksumKey f.1) (fun f => .str (lib.sha256 f.2))
          [("database.json", .str (lib.sha256 database))] files)
        "logs/system.log" (.str (lib.sha256 log)) := rfl

lemma mem_checksumsOf {database log : β} {files : List (RelPath × β)} {item : String × Json}
    (h : item ∈ checksumsOf lib database files log) :
    item.1 = "logs/system.log" ∨ item.1 = "database.json"
      ∨ ∃ f ∈ files, item.1 = checksumKey f.1 := by
  rw [checksumsOf_eq] at h
  rcases Dict.mem_set h with h | h
  · exact .inl h
  · rcases Dict.mem_setAll h with h | h
    · exact .inr (.inr h)
    · exact .inr (.inl (congrArg Prod.fst (List.mem_singleton.mp h)))

/-- What the manifest lists has no backslash in its path. -/
lemma plain_of_lists {database log : β} {files : List (RelPath × β)}
    (hslash : ∀ f ∈ files, ∀ c ∈ f.1, '/' ∉ c.toList) {p : RelPath} {b : β}
    (h : Lists lib (checksumsOf lib database files log) p b) : ∀ c ∈ p, Plain c := by
  obtain ⟨item, hitem, hkey, -⟩ := h
  have hsplit : PyText.splitOn '/' item.1 = "files" :: p := by
    rw [keyPath] at hkey
    split_ifs at hkey
    exact Option.some.inj hkey
  rcases mem_checksumsOf hitem with hname | hname | ⟨f, hf, hname⟩
  · rw [hname] at hsplit
    exact absurd (List.cons.inj hsplit).1 (by decide)
  · rw [hname] at hsplit
    exact absurd (List.cons.inj hsplit).1 (by decide)
  · rw [hname, splitOn_checksumKey (hslash f hf)] at hsplit
    rw [← (List.cons.inj hsplit).2]
    exact fun c hc => plain_of_mem_relNorm hc

/-- Files with plain names are listed with the checksums of their bytes. -/
lemma lists_of_plain {database log : β} {files : List (RelPath × β)}
    (hnamed : ∀ f ∈ files, Named f.1) (hslash : ∀ f ∈ files, ∀ c ∈ f.1, '/' ∉ c.toList)
    (hplain : ∀ f ∈ files, ∀ c ∈ f.1, Plain c)
    (hfun : ∀ f ∈ files, ∀ g ∈ files, f.1 = g.1 → f = g) {p : RelPath} {b : β}
    (hmem : (p, b) ∈ files) : Lists lib (checksumsOf lib database files log) p b := by
  have hkey : ∀ f ∈ files, keyPath (checksumKey f.1) = some ("files" :: f.1) := fun f hf =>
    keyPath_checksumKey (hnamed f hf) (hslash f hf) (hplain f hf)
  have hp := hkey _ hmem
  have hlog : checksumKey p ≠ "logs/system.log" := by
    intro heq
    rw [heq] at hp
    have hkey : keyPath "logs/system.log" = some ["logs", "system.log"] := by decide
    exact absurd hp (by simp [hkey])
  have hget : (checksumsOf lib database files log).get? (checksumKey p)
      = some (.str (lib.sha256 b)) := by
    rw [checksumsOf_eq, Dict.get?_set_of_ne _ hlog]
    refine Dict.get?_setAll ⟨_, hmem, rfl⟩ fun f hf heq => ?_
    have hsame := hkey f hf
    rw [heq, hp, Option.some.injEq, List.cons.injEq] at hsame
    rw [hfun f hf _ hmem hsame.2.symm]
  exact ⟨_, Dict.mem_of_get? hget, hp, rfl⟩

/-! ### The archive -/

lemma mem_entries_iff (hc : Creates lib eng proc s call panel c) {p : RelPath} {b : β} :
    ⟨"files" :: p, b⟩ ∈ c.entries ↔ Exported eng call (checkpointed eng s panel) p b := by
  rw [hc.entries, mem_archiveEntries]
  constructor
  · rintro (h | h | ⟨q, c, hq, heq⟩ | h)
    · exact absurd (congrArg Entry.name h) (by simp)
    · exact absurd (congrArg Entry.name h) (by simp)
    · cases heq
      exact hq
    · exact absurd (congrArg Entry.name h) (by simp)
  · exact fun h => .inr (.inr (.inl ⟨p, b, h, rfl⟩))

/-- The checksums are those of the manifest in the archive. -/
lemma manifest_mem (hc : Creates lib eng proc s call panel c) :
    ∃ fields, ⟨["manifest.json"], lib.dumps (.obj fields)⟩ ∈ c.entries
      ∧ Dict.get? fields "checksums" = some (.obj (backupChecksums lib eng s call panel)) := by
  refine ⟨signManifest lib proc (manifestOf s call (backupChecksums lib eng s call panel)
    (exportFiles eng s.order call (checkpointed eng s panel)).length
    ((exportedTables eng panel.store).map fun t =>
      (t, .num (exportTable eng call panel.store t).length))), ?_, ?_⟩
  · rw [hc.entries]
    exact mem_archiveEntries.mpr (.inl rfl)
  · exact Dict.get?_set_of_ne _ (by decide) _

lemma noSlash_of_exported (hslash : NoSlash panel.tree) {p : RelPath} {b : β}
    (h : Exported eng call panel p b) : ∀ c ∈ p, '/' ∉ c.toList := by
  rcases h.head with ⟨rfl, -⟩ | ⟨hfile, -⟩
  · decide
  · exact hslash p b hfile

lemma plain_of_isRuntime (hcarry : Carriable call panel) {p : RelPath} {b : β}
    (h : IsRuntime eng call panel p b) : ∀ c ∈ p, Plain c := by
  rcases h with ⟨rfl, -⟩ | ⟨hplace, hfile⟩
  · decide
  · exact hcarry.plain p b hplace hfile

/-- **When an archive carries every runtime file.** -/
lemma carries_iff (hc : Creates lib eng proc s call panel c) (hslash : NoSlash panel.tree) :
    Carries lib eng s call panel c ↔ Carriable call panel := by
  have hnoSlash : ∀ f ∈ exportFiles eng s.order call (checkpointed eng s panel),
      ∀ c ∈ f.1, '/' ∉ c.toList := by
    have htree : NoSlash (checkpointed eng s panel).tree := hslash
    exact fun f hf => noSlash_of_exported htree (mem_exportFiles.mp hf)
  constructor
  · intro h
    have hexp : ∀ p b, Exported eng call (checkpointed eng s panel) p b
        ↔ IsRuntime eng call (checkpointed eng s panel) p b := fun p b =>
      (mem_entries_iff hc).symm.trans (h.files p b)
    obtain ⟨hsiblings, henv⟩ := names_of_exported hexp
    exact ⟨hsiblings, henv, fun p b hplace hfile =>
      plain_of_lists hnoSlash (h.listed p b (.inr ⟨hplace, hfile⟩))⟩
  · intro h
    have hexp : ∀ p b, Exported eng call (checkpointed eng s panel) p b
        ↔ IsRuntime eng call (checkpointed eng s panel) p b :=
      exported_runtime_iff h.siblings h.env
    have hcarry : Carriable call (checkpointed eng s panel) := ⟨h.siblings, h.env, h.plain⟩
    refine ⟨fun p b => (mem_entries_iff hc).trans (hexp p b), manifest_mem hc, fun p b hrun => ?_⟩
    refine lists_of_plain (fun f hf => (mem_exportFiles.mp hf).named) hnoSlash
      (fun f hf => plain_of_isRuntime hcarry ((hexp _ _).mp (mem_exportFiles.mp hf)))
      (fun f hf g hg heq => ?_) (mem_exportFiles.mpr ((hexp p b).mpr hrun))
    obtain ⟨-, hb⟩ := (mem_exportFiles.mp hf).leaf (mem_exportFiles.mp hg) (heq ▸ List.prefix_rfl)
    exact Prod.ext heq hb

/-! ### The restore -/

/-- The file is not in the directory of the archives, and not in the place of that directory. -/
lemma RuntimePlace.apart (hc : Creates lib eng proc s call panel c) {p : RelPath} {b : β}
    (hp : RuntimePlace call p) (hfile : panel.tree.file p = some b) (name : String) :
    Apart (backupDir ++ [name]) p := by
  rcases hp with ⟨⟨d, q, hq, rfl, -⟩, hdir⟩ | ⟨rfl, -⟩
  · constructor
    · rintro ⟨r, hr⟩
      obtain ⟨rfl, rfl⟩ := List.cons.inj hr
      exact hdir (backupDir_prefix_iff.mpr ⟨name :: r, rfl, List.cons_ne_nil _ _⟩)
    · intro hpre
      obtain ⟨rfl, htail⟩ : d = "storage" ∧ q <+: ["backups", name] :=
        List.cons_prefix_cons.mp hpre
      obtain ⟨d', q', rfl⟩ := List.exists_cons_of_ne_nil hq
      obtain ⟨rfl, -⟩ := List.cons_prefix_cons.mp htail
      cases q' with
      | nil =>
          -- a file in the place of the directory would have been in the way of the archive
          have hw := (Folder.writable_of_write hc.tree).2.2
          have hblocked : panel.tree.blocked (backupDir ++ [c.filename]) = true :=
            Folder.blocked_iff.mpr ⟨_, Folder.file_eq_some_iff.mp hfile, rfl,
              List.prefix_append backupDir [c.filename], by simp [backupDir]⟩
          exact absurd hblocked (by simp [hw])
      | cons d'' r =>
          exact hdir (backupDir_prefix_iff.mpr ⟨d'' :: r, rfl, List.cons_ne_nil _ _⟩)
  · constructor <;> intro hpre <;> exact absurd (List.cons_prefix_cons.mp hpre).1 (by decide)

lemma staysInside_of_names {p : RelPath} (h : ∀ c ∈ p, isName c = true) (n : ℕ) :
    staysInside n p = true := by
  induction p generalizing n with
  | nil => rfl
  | cons c p ih =>
      obtain ⟨hc, hp⟩ := List.forall_mem_cons.mp h
      simp only [isName, Bool.and_eq_true, ne_eq, decide_eq_true_eq] at hc
      simp [staysInside, hc, ih hp]

/-- The checks of the file loop let a runtime file through. -/
lemma RuntimePlace.fate {p : RelPath} (hp : RuntimePlace call p) (hnamed : Named p)
    (hplain : ∀ c ∈ p, Plain c) {restoreEnv : Bool} (henv : p = [".env"] → restoreEnv = true) :
    fate true restoreEnv p = .restored := by
  have hinside := staysInside_of_names hnamed.2 0
  rcases hp with ⟨⟨d, q, hq, rfl, hd⟩, -⟩ | ⟨rfl, -⟩
  · obtain ⟨x, r, rfl⟩ := List.exists_cons_of_ne_nil hq
    have hallowed : startsWithOneOf restoreAllowedPrefixes (d :: x :: r) = true := by
      rcases hd with rfl | rfl | rfl <;> rfl
    simp [V2raySub.fate, relNorm_of_plain hplain, hallowed, hinside, restoreSilentlySkipped]
  · rw [henv rfl]
    decide

/-- No directory stands where a restore has to put a file back. -/
def Untaken (call : BackupCall) (restoreEnv : Bool) (panel : Panel β δ) (tree : Folder β) : Prop :=
  ∀ p b, Restorable call restoreEnv panel p b → tree.isDir p = false

/-- A run that gets past the commit has copied every file it was to copy. -/
lemma landed_of_pastCommit {rcall : RestoreCall β} {authentic : Bool} {t : Folder β} {d : δ}
    (h : PastCommit lib eng rcall authentic t panel d) (torn : Option β) {f : RelPath × β}
    (hf : f ∈ restorePlan rcall.order authentic rcall.restoreEnv t) :
    (panel.tree.target f.1, f.2) ∈ filesLanded lib eng rcall torn authentic t panel := by
  obtain ⟨hd, hclear, hlater⟩ := h
  have hall : (restorePlan rcall.order authentic rcall.restoreEnv t).takeWhile
      (fun f => panel.tree.Clear f.1) = restorePlan rcall.order authentic rcall.restoreEnv t :=
    List.takeWhile_eq_self_iff.mpr fun g hg => decide_eq_true (hclear g hg)
  simp only [filesLanded, hd]
  rw [if_pos (by omega), Folder.landings_of_length_le (by omega), hall]
  exact List.mem_map_of_mem hf

/-- What a restore that raises nothing leaves of the files, once the emergency backup is taken. -/
lemma restoreFrom_files (heng : eng.Lawful) {rcall : RestoreCall β} {authentic : Bool} {zip : β}
    {emerg : Created β δ}
    (h : (restoreFrom lib eng s rcall authentic zip emerg).raised = none) :
    ∃ t live, extractArchive lib zip = .ok t ∧ Ran lib eng rcall authentic t emerg.panel live
      ∧ (∀ f ∈ restorePlan rcall.order authentic rcall.restoreEnv t,
        (emerg.panel.tree.target f.1, f.2)
          ∈ filesLanded lib eng rcall rcall.fault.torn authentic t emerg.panel)
      ∧ (restoreFrom lib eng s rcall authentic zip emerg).panel.tree = live.tree := by
  by_cases hstep : rcall.fault.step < 2
  · simp [restoreFrom, hstep] at h
  · cases ht : extractArchive lib zip with
    | error e =>
        simp only [restoreFrom, if_neg hstep, ht] at h
        exact (raised_recover _ _ _ _ _ _ _ h).elim
    | ok t =>
        rcases hrun : (machine rcall.fault.torn).run rcall.fault.error rcall.tryStep
            (restoreSteps lib eng s rcall emerg.filename authentic t)
            ⟨emerg.panel.tree, emerg.panel.store, none, []⟩ with ⟨live, r⟩
        cases r with
        | some e =>
            simp only [restoreFrom, if_neg hstep, ht, hrun] at h
            exact (raised_recover _ _ _ _ _ _ _ h).elim
        | none =>
            obtain ⟨d, hd⟩ := pastCommit_of_run hrun
            refine ⟨t, live, rfl, ran_of_run heng hrun,
              fun f hf => landed_of_pastCommit hd _ hf, ?_⟩
            simp only [restoreFrom, if_neg hstep, ht, hrun]

/-- A file of the archive that is copied comes back exactly if no directory has its place. -/
lemma file_restored_iff {rcall : RestoreCall β} {authentic : Bool} {t : Folder β}
    {live : Live β δ} (hlive : Ran lib eng rcall authentic t panel live)
    (hlanded : ∀ f ∈ restorePlan rcall.order authentic rcall.restoreEnv t,
      (panel.tree.target f.1, f.2) ∈ filesLanded lib eng rcall rcall.fault.torn authentic t panel)
    {p : RelPath} {b : β} (hp : (p, b) ∈ restorePlan rcall.order authentic rcall.restoreEnv t) :
    live.tree.file p = some b ↔ panel.tree.isDir p = false := by
  constructor
  · intro hfile
    by_contra hdir
    rw [Bool.not_eq_false] at hdir
    have hnone : panel.tree.file p = none := by
      refine Option.eq_none_iff_forall_ne_some.mpr fun x hx => ?_
      exact absurd hdir (by simp [Folder.isDir_of_file hx])
    rcases hlive.file_cases p with ⟨f, hf, hfp, -⟩ | hsame
    · obtain ⟨g, hg, hgt⟩ := mem_filesLanded hf
      obtain ⟨r, hr⟩ := panel.tree.target_eq_append g.1
      -- what lands there leads there, so that it is the file itself: it lands below
      have hpre : g.1 <+: p := ⟨r, by rw [← hr, ← hgt, hfp]⟩
      obtain rfl : g = (p, b) :=
        Folder.walk_leaf (List.mem_of_mem_filter hg) (List.mem_of_mem_filter hp) hpre
      rw [hfp, Folder.target, if_pos hdir] at hgt
      exact absurd (List.self_eq_append_right.mp hgt) (List.cons_ne_nil _ _)
    · rw [hsame, hnone] at hfile
      cases hfile
  · intro hdir
    have hland := hlive.landed _ (hlanded _ hp)
    rwa [Folder.target, hdir, if_neg Bool.false_ne_true] at hland

/-- What a restore of a backup that raises nothing leaves of the files. -/
lemma restoreBackup_files (heng : eng.Lawful) (hlib : lib.Lawful) (hround : lib.RoundTrips)
    (hc : Creates lib eng proc s call panel c) {proc' : Process} {s' : Surroundings β}
    {outside : String → Lookup β} {rcall : RestoreCall β} {panel' : Panel β δ}
    (hdata : rcall.data = c.data)
    (hok : (restoreBackup lib eng proc' s' outside rcall panel').raised = none) :
    ∃ emerg t live, Creates lib eng proc' s' (emergencyCall rcall) panel' emerg
      ∧ (∀ p b, t.file ("files" :: p) = some b ↔ Exported eng call (checkpointed eng s panel) p b)
      ∧ Ran lib eng rcall (isAuthentic lib proc' outside rcall) t emerg.panel live
      ∧ (∀ f ∈ restorePlan rcall.order (isAuthentic lib proc' outside rcall) rcall.restoreEnv t,
        (emerg.panel.tree.target f.1, f.2) ∈ filesLanded lib eng rcall rcall.fault.torn
          (isAuthentic lib proc' outside rcall) t emerg.panel)
      ∧ (restoreBackup lib eng proc' s' outside rcall panel').panel.tree = live.tree := by
  cases hver : verifyBackup lib proc' outside rcall.data rcall.password with
  | error r => simp [restoreBackup, hver] at hok
  | ok v =>
      by_cases hinc : v.status = .incompatible
      · simp [restoreBackup, hver, hinc] at hok
      · cases hzip : decryptArchive lib proc' rcall.data rcall.password with
        | error r => simp [restoreBackup, hver, hinc, hzip] at hok
        | ok zip =>
            cases hemerg : createBackup lib eng proc' s' (emergencyCall rcall) panel' with
            | error e => simp [restoreBackup, hver, hinc, hzip, hemerg] at hok
            | ok emerg =>
                have hback : restoreBackup lib eng proc' s' outside rcall panel'
                    = restoreFrom lib eng s' rcall v.authentic zip emerg := by
                  simp only [restoreBackup, hver, if_neg hinc, hzip, hemerg]
                have hauth : isAuthentic lib proc' outside rcall = v.authentic := by
                  simp only [isAuthentic, hver]
                rw [hback] at hok ⊢
                obtain ⟨t, live, ht, hlive, hlanded, htree⟩ := restoreFrom_files heng hok
                obtain rfl : zip = lib.writeZip c.entries :=
                  decryptArchive_backup hround hc (hdata ▸ hzip)
                obtain ⟨t', ht', hfile⟩ := extract_archiveEntries lib eng proc s call
                  (checkpointed eng s panel) panel.store
                rw [extractArchive, hlib.readZip_writeZip, hc.entries] at ht
                rw [checkpointed] at ht'
                simp only [ht', Except.ok.injEq] at ht
                subst ht
                exact ⟨emerg, t', live, creates_of_ok hemerg, hfile, hauth ▸ hlive,
                  hauth ▸ hlanded, htree⟩

/-- **When a restore puts every runtime file back.** -/
lemma putsBack_iff (heng : eng.Lawful) (hlib : lib.Lawful) (hround : lib.RoundTrips)
    (hc : Creates lib eng proc s call panel c) (hcarry : Carriable call panel) {proc' : Process}
    {s' : Surroundings β} {outside : String → Lookup β} {rcall : RestoreCall β}
    {panel' : Panel β δ} (hdata : rcall.data = c.data)
    (hauth : isAuthentic lib proc' outside rcall = true)
    (hok : (restoreBackup lib eng proc' s' outside rcall panel').raised = none) :
    PutsBack call rcall.restoreEnv panel
        (restoreBackup lib eng proc' s' outside rcall panel').panel.tree
      ↔ Untaken call rcall.restoreEnv panel panel'.tree := by
  obtain ⟨emerg, t, live, hemerg, hfile, hlive, hlanded, htree⟩ :=
    restoreBackup_files heng hlib hround hc hdata hok
  rw [hauth] at hlive hlanded
  rw [htree]
  refine forall₃_congr fun p b hp => ?_
  obtain ⟨hplace, hthere, henv⟩ := hp
  have hexported : ∀ p b, Exported eng call (checkpointed eng s panel) p b
      ↔ IsRuntime eng call (checkpointed eng s panel) p b :=
    exported_runtime_iff hcarry.siblings hcarry.env
  have hexp : Exported eng call (checkpointed eng s panel) p b :=
    (hexported p b).mpr (.inr ⟨hplace, hthere⟩)
  have hplan : (p, b) ∈ restorePlan rcall.order true rcall.restoreEnv t := by
    refine List.mem_filter.mpr ⟨Folder.mem_walk.mpr ⟨hexp.named.1, (hfile p b).mpr hexp⟩, ?_⟩
    exact decide_eq_true (hplace.fate hexp.named (hcarry.plain p b hplace hthere) henv)
  have hdir : emerg.panel.tree.isDir p = panel'.tree.isDir p :=
    Folder.isDir_of_write hemerg.tree (hplace.apart hc hthere emerg.filename)
  rw [file_restored_iff hlive hlanded hplan, hdir]

/-- **The archive carries every runtime file** exactly if no directory beside `storage/backups`
has a name that goes on from that name, `.env` is no directory, and no name has a backslash; and
a restore of it puts them all back exactly if, moreover, no directory stands in the place of one. -/
theorem carries_and_putsBack_iff (heng : eng.Lawful) (hlib : lib.Lawful) (hround : lib.RoundTrips)
    (hc : createBackup lib eng proc s call panel = .ok c) (hslash : NoSlash panel.tree) :
    (Carries lib eng s call panel c ↔ Carriable call panel)
      ∧ ∀ (proc' : Process) (s' : Surroundings β) (outside : String → Lookup β)
        (rcall : RestoreCall β) (panel' : Panel β δ), rcall.data = c.data →
        isAuthentic lib proc' outside rcall = true →
        (restoreBackup lib eng proc' s' outside rcall panel').raised = none →
        (Carries lib eng s call panel c ∧ PutsBack call rcall.restoreEnv panel
            (restoreBackup lib eng proc' s' outside rcall panel').panel.tree
          ↔ Carriable call panel ∧ Untaken call rcall.restoreEnv panel panel'.tree) := by
  have hcreates := creates_of_ok hc
  have hcarries := carries_iff hcreates hslash
  refine ⟨hcarries, fun proc' s' outside rcall panel' hdata hauth hok => ?_⟩
  rw [hcarries]
  exact and_congr_right fun hcarry =>
    putsBack_iff heng hlib hround hcreates hcarry hdata hauth hok

/-- The carried template comes back. -/
theorem carries_and_putsBack_iff_sample :
    Carries sampleBlobLib sampleEngine sampleSurroundings sampleBackupCall
        (samplePanel "<h1>Login</h1>") sampleBackup
      ∧ PutsBack sampleBackupCall false (samplePanel "<h1>Login</h1>")
        (restoreBackup sampleBlobLib sampleEngine sampleProcess sampleSurroundings noOutside
          (sampleRestoreCall sampleBackup.data) (samplePanel "<h1>Sign in</h1>")).panel.tree := by
  have honly : ∀ p b, (samplePanel "<h1>Login</h1>").tree.file p = some b →
      p = ["templates", "login.html"] := by
    intro p b h
    have hmem := Folder.file_eq_some_iff.mp h
    exact congrArg Prod.fst (List.mem_singleton.mp hmem)
  have hslash : NoSlash (samplePanel "<h1>Login</h1>").tree := by
    intro p b h
    rw [honly p b h]
    decide
  have hcarry : Carriable sampleBackupCall (samplePanel "<h1>Login</h1>") := by
    refine ⟨fun c q b h => ?_, fun _ q b h => ?_, fun p b _ h => ?_⟩
    · exact absurd (List.cons.inj (honly _ b h)).1 (by decide)
    · exact absurd (List.cons.inj (honly _ b h)).1 (by decide)
    · rw [honly p b h]
      decide
  have huntaken : Untaken sampleBackupCall false (samplePanel "<h1>Login</h1>")
      (samplePanel "<h1>Sign in</h1>").tree := by
    rintro p b ⟨-, h, -⟩
    rw [honly p b h]
    decide
  obtain ⟨-, hrestore⟩ := carries_and_putsBack_iff sampleEngine_lawful sampleBlobLib_lawful
    sampleBlobLib_roundTrips (eq_okOf (createBackup sampleBlobLib sampleEngine sampleProcess
      sampleSurroundings sampleBackupCall (samplePanel "<h1>Login</h1>")) (by decide)) hslash
  exact (hrestore sampleProcess sampleSurroundings noOutside (sampleRestoreCall sampleBackup.data)
    (samplePanel "<h1>Sign in</h1>") rfl (by decide) (by decide)).mpr ⟨hcarry, huntaken⟩

/-- The sample panel with a file in a directory beside that of the archives. -/
def siblingPanel : Panel Blob SampleStore where
  tree :=
    { nodes := [(["templates", "login.html"], some (.text "<h1>Login</h1>")),
        (["storage", "backups_old", "notes.txt"], some (.text "Notes"))]
      keyed := by unfold Rows.Keyed; decide
      named := by simp only [List.forall_mem_cons]; decide
      leaf := by simp }
  store := (samplePanel "<h1>Login</h1>").store

/-- The backup of that panel. -/
def siblingBackup : Created Blob SampleStore :=
  okOf (createBackup sampleBlobLib sampleEngine sampleProcess sampleSurroundings sampleBackupCall
    siblingPanel) (by decide)

/-- The file is left out of the archive. -/
theorem sibling_file_left_out :
    createBackup sampleBlobLib sampleEngine sampleProcess sampleSurroundings sampleBackupCall
        siblingPanel = .ok siblingBackup
      ∧ IsRuntime sampleEngine sampleBackupCall
        (checkpointed sampleEngine sampleSurroundings siblingPanel)
        ["storage", "backups_old", "notes.txt"] (.text "Notes")
      ∧ (⟨["files", "storage", "backups_old", "notes.txt"], .text "Notes"⟩ : Entry Blob)
        ∉ siblingBackup.entries
      ∧ ¬ Carries sampleBlobLib sampleEngine sampleSurroundings sampleBackupCall siblingPanel
        siblingBackup := by
  have hrun : IsRuntime sampleEngine sampleBackupCall
      (checkpointed sampleEngine sampleSurroundings siblingPanel)
      ["storage", "backups_old", "notes.txt"] (.text "Notes") :=
    .inr ⟨.inl ⟨⟨_, _, List.cons_ne_nil _ _, rfl, .inr (.inr rfl)⟩, by decide⟩, rfl⟩
  have hout : (⟨["files", "storage", "backups_old", "notes.txt"], .text "Notes"⟩ : Entry Blob)
      ∉ siblingBackup.entries := by
    intro hmem
    have hname : ["files", "storage", "backups_old", "notes.txt"]
        ∉ siblingBackup.entries.map Entry.name := by decide
    exact hname (List.mem_map_of_mem hmem)
  exact ⟨eq_okOf _ (by decide), hrun, hout, fun hcarries => hout ((hcarries.files _ _).mpr hrun)⟩

end V2raySub
