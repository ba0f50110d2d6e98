import V2raySub.Backup.Authentic

/-!
Where a restore writes (`restore_backup`).

* `Contained`: the places a restore may write to, and what it needs for each.
* `RestoreChecks`: what the checks of the file loop leave of a file that it copies;
  `RestoreChecks.guarded` says that the database is never written, and code only from an authentic
  archive.
* `contained_iff`: the checks read a name with its backslashes turned into slashes, and the file is
  written under the raw name: **it lands where it may exactly if its first component has no
  backslash** and no directory has the place of `.env`.
* `restore_contained_iff`: the same of everything a restore writes.
-/

namespace V2raySub

open FileTree

variable {β δ : Type*}

/-! ### Names and their slashes -/

/-- No backslash is in the component. -/
def Plain (c : String) : Prop := '\\' ∉ c.toList

instance (c : String) : Decidable (Plain c) := inferInstanceAs (Decidable (_ ∉ _))

lemma splitOn_of_plain {c : String} (h : Plain c) : PyText.splitOn '\\' c = [c] := by
  rw [PyText.splitOn, PyText.splitChars_of_notMem h, List.map_singleton, String.ofList_toList]

lemma relNorm_cons_of_plain {c : String} (h : Plain c) (p : RelPath) :
    relNorm (c :: p) = c :: relNorm p := by
  rw [relNorm, List.flatMap_cons, splitOn_of_plain h, List.singleton_append, relNorm]

lemma relNorm_eq_nil_iff {p : RelPath} : relNorm p = [] ↔ p = [] := by
  refine ⟨fun h => ?_, fun h => by rw [h]; rfl⟩
  cases p with
  | nil => rfl
  | cons c p =>
      rw [relNorm, List.flatMap_cons, List.append_eq_nil_iff, PyText.splitOn,
        List.map_eq_nil_iff] at h
      exact absurd h.1 (PyText.splitChars_ne_nil _ _)

lemma startsWithOneOf_iff {prefixes : List String} {p : RelPath} :
    startsWithOneOf prefixes p = true ↔ ∃ c q, p = c :: q ∧ q ≠ [] ∧ c ∈ prefixes := by
  match p with
  | [] => simp [startsWithOneOf]
  | [c] => simp [startsWithOneOf]
  | c :: d :: q => simp [startsWithOneOf]

/-! ### The places -/

/-- A restore may write to the path. -/
structure Contained (authentic restoreEnv : Bool) (p : RelPath) : Prop where
  place : startsWithOneOf restoreAllowedPrefixes p = true ∨ p = [".env"]
  notDatabase : p ∉ restoreSilentlySkipped
  code : IsCode p → authentic = true
  env : p = [".env"] → restoreEnv = true

/-- The raw name leads where the checks say. -/
def InPlace (tree : Folder β) (p : RelPath) : Prop :=
  (∀ c ∈ p.head?, Plain c) ∧ (p = [".env"] → tree.isDir p = false)

/-- What the checks leave of a file that is copied. -/
structure RestoreChecks (authentic restoreEnv : Bool) (p : RelPath) : Prop where
  env : relNorm p = [".env"] → restoreEnv = true
  notDatabase : relNorm p ∉ restoreSilentlySkipped
  place : relNorm p = [".env"] ∨ startsWithOneOf restoreAllowedPrefixes (relNorm p) = true
  code : startsWithOneOf restoreCodePrefixes (relNorm p) = true ∨ relNorm p = [".env"] →
    authentic = true

variable {authentic restoreEnv : Bool} {p : RelPath} {tree : Folder β}

lemma restoreChecks_of_fate (h : fate authentic restoreEnv p = .restored) :
    RestoreChecks authentic restoreEnv p := by
  rw [fate] at h
  split_ifs at h with henv hskip hallowed hcode hinside
  refine ⟨fun he => ?_, fun hmem => hskip (List.contains_iff_mem.mpr hmem), ?_, fun he => ?_⟩
  · simpa [he] using henv
  · simpa [restoreAllowedExact, or_iff_not_imp_left] using hallowed
  · simp only [Bool.and_eq_true, Bool.or_eq_true, decide_eq_true_eq, not_and] at hcode
    simpa using hcode he

/-- The head of the place a file lands at is that of its name. -/
lemma target_cons (tree : Folder β) (c : String) (q : RelPath) :
    ∃ r, tree.target (c :: q) = c :: (q ++ r) := by
  obtain ⟨r, hr⟩ := tree.target_eq_append (c :: q)
  exact ⟨r, hr⟩

/-- A file that lands at a path of one plain component has that name, for the checks too. -/
lemma relNorm_of_target_singleton {c : String} (hp : p ≠ []) (hc : Plain c)
    (h : tree.target p = [c]) : relNorm p = [c] := by
  obtain ⟨d, q, rfl⟩ := List.exists_cons_of_ne_nil hp
  obtain ⟨r, hr⟩ := target_cons tree d q
  obtain ⟨rfl, hq⟩ := List.cons.inj (hr.symm.trans h)
  obtain ⟨rfl, -⟩ := List.append_eq_nil_iff.mp hq
  rw [relNorm_cons_of_plain hc]
  rfl

/-- **No file lands on the database, and code only from an authentic archive**, whatever its
name. -/
lemma RestoreChecks.guarded (h : RestoreChecks authentic restoreEnv p) (tree : Folder β)
    (hp : p ≠ []) :
    tree.target p ∉ restoreSilentlySkipped
      ∧ (IsCode (tree.target p) → authentic = true)
      ∧ (tree.target p = [".env"] → restoreEnv = true) := by
  refine ⟨fun hmem => ?_, ?_, fun henv => ?_⟩
  · have hplain : ∀ q ∈ restoreSilentlySkipped, ∃ c, q = [c] ∧ Plain c := by
      intro q hq
      simp only [restoreSilentlySkipped, List.mem_cons, List.not_mem_nil, or_false] at hq
      rcases hq with rfl | rfl | rfl
      · exact ⟨_, rfl, by decide⟩
      · exact ⟨_, rfl, by decide⟩
      · exact ⟨_, rfl, by decide⟩
    obtain ⟨c, hc, hplain⟩ := hplain _ hmem
    have hrel := relNorm_of_target_singleton hp hplain hc
    exact h.notDatabase (by rw [hrel, ← hc]; exact hmem)
  · rintro (henv | hcode)
    · exact h.code (.inr (relNorm_of_target_singleton hp (by decide) henv))
    · obtain ⟨c, q, htarget, -, hc⟩ := startsWithOneOf_iff.mp hcode
      have hplain : Plain c := by
        simp only [restoreCodePrefixes, List.mem_cons, List.not_mem_nil, or_false] at hc
        rcases hc with rfl | rfl <;> decide
      obtain ⟨d, q', rfl⟩ := List.exists_cons_of_ne_nil hp
      obtain ⟨r, hr⟩ := target_cons tree d q'
      obtain ⟨rfl, -⟩ := List.cons.inj (hr.symm.trans htarget)
      have hrel := relNorm_cons_of_plain hplain q'
      -- the name has more than one component: alone, the first is no place for a file
      have hmore : relNorm q' ≠ [] := by
        intro hnil
        rw [hnil] at hrel
        have hplace := h.place
        rw [hrel] at hplace
        simp only [restoreCodePrefixes, List.mem_cons, List.not_mem_nil, or_false] at hc
        rcases hc with rfl | rfl <;> exact absurd hplace (by decide)
      exact h.code (.inl (startsWithOneOf_iff.mpr ⟨d, _, hrel, hmore, hc⟩))
  · exact h.env (relNorm_of_target_singleton hp (by decide) henv)

/-- **A file that is copied lands where it may exactly if its raw name leads there.** -/
lemma contained_iff (h : RestoreChecks authentic restoreEnv p) (hp : p ≠ []) :
    Contained authentic restoreEnv (tree.target p) ↔ InPlace tree p := by
  obtain ⟨hdatabase, hcode, henv⟩ := h.guarded tree hp
  obtain ⟨c, q, rfl⟩ := List.exists_cons_of_ne_nil hp
  obtain ⟨r, hr⟩ := target_cons tree c q
  constructor
  · intro hin
    refine ⟨fun d hd => ?_, fun he => ?_⟩
    · obtain rfl : c = d := by simpa using hd
      have hplace := hin.place
      rw [hr] at hplace
      rcases hplace with hstarts | he
      · obtain ⟨d, q', hcons, -, hd⟩ := startsWithOneOf_iff.mp hstarts
        rw [(List.cons.inj hcons).1]
        simp only [restoreAllowedPrefixes, List.mem_cons, List.not_mem_nil, or_false] at hd
        rcases hd with rfl | rfl | rfl <;> decide
      · rw [(List.cons.inj he).1]
        decide
    · by_contra hdir
      have hplace := hin.place
      rw [Folder.target, if_pos (by simpa using hdir), he] at hplace
      exact absurd hplace (by decide)
  · rintro ⟨hplain, hfile⟩
    refine ⟨?_, hdatabase, hcode, henv⟩
    have hrel := relNorm_cons_of_plain (hplain c rfl) q
    rcases h.place with hexact | hstarts
    · rw [hrel] at hexact
      obtain ⟨rfl, hnil⟩ := List.cons.inj hexact
      rw [relNorm_eq_nil_iff] at hnil
      subst hnil
      refine .inr ?_
      rw [Folder.target, if_neg (by rw [hfile rfl]; decide)]
    · rw [hrel] at hstarts
      obtain ⟨d, q', hcons, hmore, hd⟩ := startsWithOneOf_iff.mp hstarts
      obtain ⟨rfl, rfl⟩ := List.cons.inj hcons
      refine .inl ?_
      rw [hr]
      refine startsWithOneOf_iff.mpr ⟨c, _, rfl, fun hnil => hmore ?_, hd⟩
      rw [relNorm_eq_nil_iff]
      exact (List.append_eq_nil_iff.mp hnil).1

/-! ### One restore -/

/-- The archive of a call is authentic. -/
def isAuthentic (lib : Lib β) (proc : Process) (outside : String → Lookup β)
    (call : RestoreCall β) : Bool :=
  match verifyBackup lib proc outside call.data call.password with
  | .error _ => false
  | .ok v => v.authentic

/-- The files of the panel before the copies, and those of the archive that a call gets to copy, if
no fault strikes it. -/
def restoreTargets (lib : Lib β) (eng : Engine β δ) (proc : Process) (s : Surroundings β)
    (outside : String → Lookup β) (call : RestoreCall β) (panel : Panel β δ) :
    Option (Folder β × List (RelPath × β)) :=
  match verifyBackup lib proc outside call.data call.password with
  | .error _ => none
  | .ok v =>
    if v.status = .incompatible then none
    else match decryptArchive lib proc call.data call.password with
      | .error _ => none
      | .ok zip =>
        match createBackup lib eng proc s (emergencyCall call) panel with
        | .error _ => none
        | .ok emerg =>
          match extractArchive lib zip with
          | .error _ => none
          | .ok t => some (emerg.panel.tree, filesReached lib eng call v.authentic t emerg.panel)

variable {lib : Lib β} {eng : Engine β δ} {proc : Process} {s : Surroundings β}
  {outside : String → Lookup β} {call : RestoreCall β} {panel : Panel β δ}

/-- What a restore gets to has passed the checks. -/
lemma restoreChecks_of_reached {t : Folder β} {f : RelPath × β}
    (hf : f ∈ filesReached lib eng call authentic t panel) :
    RestoreChecks authentic call.restoreEnv f.1 ∧ f.1 ≠ [] := by
  rw [filesReached] at hf
  split at hf
  · cases hf
  · have hplan := (List.takeWhile_sublist _).mem hf
    obtain ⟨hwalk, hfate⟩ := List.mem_filter.mp hplan
    exact ⟨restoreChecks_of_fate (of_decide_eq_true hfate), (Folder.mem_walk.mp hwalk).1⟩

/-- A restore writes nothing, or what it gets to of an archive. -/
lemma written_cases (heng : eng.Lawful) (lib : Lib β) (proc : Process) (s : Surroundings β)
    (outside : String → Lookup β) (call : RestoreCall β) (panel : Panel β δ) :
    (restoreTargets lib eng proc s outside call panel = none
        ∧ ∀ fault, (restoreBackup lib eng proc s outside { call with fault := fault }
          panel).written = [])
      ∨ ∃ t mid, restoreTargets lib eng proc s outside call panel = some (mid.tree,
            filesReached lib eng call (isAuthentic lib proc outside call) t mid)
        ∧ ∀ fault, (restoreBackup lib eng proc s outside { call with fault := fault }
          panel).written = filesLanded lib eng { call with fault := fault } none
            (isAuthentic lib proc outside call) t mid := by
  simp only [restoreTargets, restoreBackup, isAuthentic]
  cases hver : verifyBackup lib proc outside call.data call.password with
  | error r => exact .inl ⟨rfl, fun fault => rfl⟩
  | ok v =>
      by_cases hcompat : v.status = .incompatible
      · simp only [if_pos hcompat]
        exact .inl ⟨trivial, fun _ => trivial⟩
      · simp only [if_neg hcompat]
        cases hzip : decryptArchive lib proc call.data call.password with
        | error r => exact .inl ⟨rfl, fun fault => rfl⟩
        | ok zip =>
            have hsame : ∀ fault, emergencyCall { call with fault := fault } = emergencyCall call :=
              fun fault => rfl
            simp only [hsame]
            cases hemerg : createBackup lib eng proc s (emergencyCall call) panel with
            | error e => exact .inl ⟨rfl, fun fault => rfl⟩
            | ok emerg =>
                cases ht : extractArchive lib zip with
                | error e =>
                    refine .inl ⟨rfl, fun fault => ?_⟩
                    simp only [restoreFrom, ht]
                    split_ifs
                    · rfl
                    · rw [recover]
                      split <;> rfl
                | ok t =>
                    exact .inr ⟨t, emerg.panel, rfl, fun fault => written_restoreFrom heng ht⟩

/-- **When a restore stays where it may write.**  Whatever strikes it, every file it writes is
contained, exactly if no file of the archive that it gets to copy has a backslash in the first
component of its name, and no directory has the place of `.env`. -/
theorem restore_contained_iff (heng : eng.Lawful) (lib : Lib β) (proc : Process)
    (s : Surroundings β) (outside : String → Lookup β) (call : RestoreCall β)
    (panel : Panel β δ) :
    (∀ fault, ∀ f ∈ (restoreBackup lib eng proc s outside { call with fault := fault }
        panel).written, Contained (isAuthentic lib proc outside call) call.restoreEnv f.1)
      ↔ ∀ tree files, restoreTargets lib eng proc s outside call panel = some (tree, files) →
        ∀ f ∈ files, InPlace tree f.1 := by
  rcases written_cases heng lib proc s outside call panel with
    ⟨htargets, hwritten⟩ | ⟨t, mid, htargets, hwritten⟩
  · rw [htargets]
    refine iff_of_true (fun fault f hf => ?_) nofun
    rw [hwritten fault] at hf
    cases hf
  · rw [htargets]
    constructor
    · intro h tree files hsome f hf
      cases hsome
      obtain ⟨hchecks, hne⟩ := restoreChecks_of_reached hf
      refine (contained_iff hchecks hne).mp (h
        ⟨6 + (restorePlan call.order (isAuthentic lib proc outside call) call.restoreEnv t).length,
          "", none⟩ (mid.tree.target f.1, f.2) ?_)
      rw [hwritten]
      exact mem_filesLanded_of_reached hf (by simp only [RestoreCall.tryStep]; omega)
    · intro h fault f hf
      rw [hwritten fault] at hf
      obtain ⟨g, hg, rfl⟩ := mem_filesLanded_none hf
      obtain ⟨hchecks, hne⟩ := restoreChecks_of_reached hg
      exact (contained_iff hchecks hne).mpr (h _ _ rfl g hg)

theorem restore_contained_iff_sample :
    (∀ fault, ∀ f ∈ (restoreBackup sampleBlobLib sampleEngine sampleProcess sampleSurroundings
        noOutside { sampleRestoreCall sampleBackup.data with fault := fault }
        (samplePanel "<h1>Sign in</h1>")).written,
        Contained (isAuthentic sampleBlobLib sampleProcess noOutside
          (sampleRestoreCall sampleBackup.data)) false f.1)
      ↔ ∀ tree files, restoreTargets sampleBlobLib sampleEngine sampleProcess sampleSurroundings
          noOutside (sampleRestoreCall sampleBackup.data) (samplePanel "<h1>Sign in</h1>")
            = some (tree, files) →
        ∀ f ∈ files, InPlace tree f.1 :=
  restore_contained_iff sampleEngine_lawful sampleBlobLib sampleProcess sampleSurroundings noOutside
    (sampleRestoreCall sampleBackup.data) (samplePanel "<h1>Sign in</h1>")

/-- The sample's archive with a file whose name has a backslash. -/
def backslashArchive : Blob :=
  .zip (sampleBackup.entries ++ [⟨["files", "storage\\app.py"], .text "<h1>Planted</h1>"⟩])

/-- The file is written next to `app.py`, outside `storage/`. -/
theorem backslash_file_escapes :
    ∃ f ∈ (restoreBackup sampleBlobLib sampleEngine sampleProcess sampleSurroundings noOutside
        (sampleRestoreCall backslashArchive) (samplePanel "<h1>Sign in</h1>")).written,
      f.1 = ["storage\\app.py"] ∧ ¬ Contained (isAuthentic sampleBlobLib sampleProcess noOutside
        (sampleRestoreCall backslashArchive)) false f.1 := by
  have hmem : ["storage\\app.py"] ∈ (restoreBackup sampleBlobLib sampleEngine sampleProcess
      sampleSurroundings noOutside (sampleRestoreCall backslashArchive)
      (samplePanel "<h1>Sign in</h1>")).written.map Prod.fst := by decide
  obtain ⟨f, hf, hp⟩ := List.mem_map.mp hmem
  refine ⟨f, hf, hp, fun hin => ?_⟩
  have hplace := hin.place
  rw [hp] at hplace
  exact absurd hplace (by decide)

end V2raySub
