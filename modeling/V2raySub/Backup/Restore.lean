import V2raySub.Base.Faults
import V2raySub.Backup.Verify
import V2raySub.Backup.Export

/-!
`restore_backup`: after the verification and the emergency backup, the tables are restored inside
a transaction, the files are copied, the transaction is committed, and the restore is logged.
When a step raises, the transaction is rolled back and the files are copied back from the
emergency archive.

* `fate`: what the file loop does with a file of the archive; `restorePlan` are the ones it copies.
* `RestoreAction`, `machine`: the steps, with the states they lead to; a fault may strike any.
* `restoreBackup`, `rollbackFiles`: the function, and its way back.
* `run_opening`, `run_copies`, `run_closing_store`: the run of a restore, stage by stage.
* `filesLanded`, `PastCommit`: the files that a run has written when it ends, and whether it gets
  past the commit; `ran_of_run` says that this is all there is to know of the state it ends in.
-/

namespace V2raySub

open FileTree

variable {β δ : Type*}

/-! ### The tables -/

/-- `provider.insert_rows`, on the columns that the table has. -/
def insertRows (eng : Engine β δ) (d : δ) (table : String) (rows : List Json) :
    Except String δ :=
  match rows with
  | .obj first :: _ =>
    let aligned := (first.map Prod.fst).filter fun c => (eng.columns d table).contains c
    match rows.mapM fun r => match r with | .obj r => some r | _ => none with
    | some rs =>
      eng.insert d table aligned (rs.map fun r => aligned.map fun c => (Dict.get? r c).getD .null)
    | none => .error "AttributeError"
  | _ => .error "AttributeError"

/-- One round of the loop over `db_data`. -/
def restoreTable (eng : Engine β δ) (dbTables : List String) (d : δ) (item : String × Json) :
    Except String δ :=
  if !dbTables.contains item.1 then .ok d
  else match eng.truncate d item.1 with
    | .error e => .error e
    | .ok d =>
      if !item.2.truthy then .ok d
      else match item.2 with
        | .arr rows => insertRows eng d item.1 rows
        | .obj _ => .error "KeyError"
        | .str _ => .error "AttributeError"
        | _ => .error "TypeError"

/-- `preserved_secrets`. -/
def preservedSecrets (eng : Engine β δ) (d : δ) : Dict :=
  (eng.select d "settings").foldl (fun secrets row =>
    match row.get? "key", row.get? "value" with
    | some (.str k), some v =>
      if sensitiveSettingKeys.contains k && v.truthy then secrets.set k v else secrets
    | _, _ => secrets) []

/-- One round of the loop over the preserved secrets. -/
def restoreSecret (eng : Engine β δ) (d : δ) (secret : String × Json) : Except String δ :=
  if ((storedSetting eng d secret.1).map Json.truthy).getD false then .ok d
  else eng.insert d "settings" ["key", "value"] [[.str secret.1, secret.2]]

/-- The tables of `database.json`, written over those of the store. -/
def restoreRows (eng : Engine β δ) (dbData : Json) (d : δ) : Except String δ :=
  match dbData with
  | .obj items =>
    match items.foldlM (restoreTable eng (eng.tables d)) d with
    | .error e => .error e
    | .ok d' => (preservedSecrets eng d).foldlM (restoreSecret eng) d'
  | _ => .error "AttributeError"

/-- `database.json` of the extracted archive, read and restored. -/
def restoreDatabase (lib : Lib β) (eng : Engine β δ) (t : Folder β) (d : δ) : Except String δ :=
  match readJson lib t ["database.json"] with
  | .error e => .error e
  | .ok dbData => restoreRows eng dbData d

/-! ### The files -/

/-- `rel_norm`, by its components. -/
def relNorm (p : RelPath) : RelPath := p.flatMap (PyText.splitOn '\\')

/-- The path, read from a directory `n` levels below `BASE_DIR`, stays below `BASE_DIR`. -/
def staysInside : ℕ → RelPath → Bool
  | _, [] => true
  | n, c :: cs =>
    if c = "" || c = "." then staysInside n cs
    else if c = ".." then
      match n with
      | 0 => false
      | n + 1 => staysInside n cs
    else staysInside (n + 1) cs

/-- What the file loop does with a file. -/
inductive Fate where
  | skipped
  | outside
  | untrusted
  | restored
  deriving DecidableEq

/-- The checks of the file loop, in their order. -/
def fate (authentic restoreEnv : Bool) (relFile : RelPath) : Fate :=
  let rel := relNorm relFile
  if rel = [".env"] && !restoreEnv then .skipped
  else if restoreSilentlySkipped.contains rel then .skipped
  else if !(restoreAllowedExact.contains rel || startsWithOneOf restoreAllowedPrefixes rel) then
    .outside
  else if (startsWithOneOf restoreCodePrefixes rel || rel = [".env"]) && !authentic then
    .untrusted
  else if !staysInside 0 relFile then .outside
  else .restored

/-- The files of an extracted archive that are copied to `BASE_DIR`, in the order of the walk. -/
def restorePlan (o : Listing β) (authentic restoreEnv : Bool) (t : Folder β) : List (RelPath × β) :=
  (t.walk o ["files"]).filter fun f => fate authentic restoreEnv f.1 = .restored

/-- A file of the emergency archive that `_rollback_files` copies back. -/
def rollsBack (restoreEnv : Bool) (relFile : RelPath) : Bool :=
  let rel := relNorm relFile
  !(rel = [".env"] && !restoreEnv) && !restoreSilentlySkipped.contains rel

/-- `_rollback_files`; what it raises is swallowed. -/
def rollbackFiles (lib : Lib β) (o : Listing β) (tree : Folder β) (emergencyFilename : String)
    (restoreEnv : Bool) : Folder β :=
  match tree.file (backupDir ++ [emergencyFilename]) with
  | none => tree
  | some data =>
    match extractArchive lib data with
    | .error _ => tree
    | .ok t => tree.copyAll ((t.walk o ["files"]).filter fun f => rollsBack restoreEnv f.1)

/-! ### The steps -/

/-- A restore on its way: the files, the store as others see it, the transaction of its own
connection, and the files it has written. -/
structure Live (β δ : Type*) where
  tree : Folder β
  store : δ
  tx : Option δ
  written : List (RelPath × β)

/-- The steps of a restore.  An `idle` one leaves nothing behind, and may raise. -/
inductive RestoreAction (β δ : Type*) where
  | idle (r : Except String Unit)
  | begin
  | sql (f : δ → Except String δ)
  | copy (p : RelPath) (b : β)
  | commit

/-- What a fault does: the step it strikes, the exception, and what the file then holds if the
step is a copy that had opened it. -/
structure Fault (β : Type*) where
  step : ℕ
  error : String
  torn : Option β

/-- The steps on the states.  What a failed statement leaves in the transaction is rolled back, so
that it does not matter here. -/
def machine (torn : Option β) : Faults.Machine (RestoreAction β δ) (Live β δ) String where
  exec a s :=
    match a with
    | .idle r => r.map fun _ => s
    | .begin => .ok { s with tx := some s.store }
    | .sql f => (f (s.tx.getD s.store)).map fun d => { s with tx := some d }
    | .copy p b =>
      match s.tree.copy p b with
      | none => .error "OSError"
      | some tree =>
        .ok { s with tree := tree, written := s.written ++ [(s.tree.target p, b)] }
    | .commit => .ok { s with store := s.tx.getD s.store, tx := none }
  struck a s :=
    match a, torn with
    | .copy p _, some c => { s with tree := (s.tree.copy p c).getD s.tree }
    | _, _ => s

/-- The steps up to the files: the archive is extracted, the transaction begins, the pragma is
set, and `database.json` is restored. -/
def opening (lib : Lib β) (eng : Engine β δ) (t : Folder β) : List (RestoreAction β δ) :=
  [.idle (.ok ()), .begin, .idle (.ok ()), .sql (restoreDatabase lib eng t)]

/-- The steps after the files: the commit, the pragma, the size of the archive, the row in
`backup_logs` with its own transaction, and the restart of the services. -/
def closing (eng : Engine β δ) (row : BackupLog) : List (RestoreAction β δ) :=
  [.commit, .idle (.ok ()), .idle (.ok ()), .begin, .sql fun d => eng.log d row, .commit,
   .idle (.ok ())]

/-- The copies. -/
def copies (plan : List (RelPath × β)) : List (RestoreAction β δ) :=
  plan.map fun f => .copy f.1 f.2

/-! ### The function -/

/-- The arguments of a call, with the directory listings of its walks and the fault that strikes
it; a step past the last one stands for no fault. -/
structure RestoreCall (β : Type*) where
  data : β
  password : Option String
  restoreEnv : Bool
  user : String
  sessionId : String
  order : Listing β
  fault : Fault β

/-- The step of the `try` block that the fault strikes: two steps come before it. -/
def RestoreCall.tryStep (call : RestoreCall β) : ℕ := call.fault.step - 2

/-- The emergency backup of a restore. -/
def emergencyCall (call : RestoreCall β) : BackupCall :=
  { user := call.user, backupType := "full_dr", password := call.password,
    triggerDelivery := false, isEmergency := true, restoreSessionId := some call.sessionId }

/-- The row of `backup_logs` for a restore. -/
def restoreLog (lib : Lib β) (s : Surroundings β) (call : RestoreCall β)
    (status message : String) : BackupLog :=
  { operation := "restore", user := call.user, status := status, duration := s.duration,
    backupSize := lib.size call.data, errorMessage := some message,
    deliveryStatus := "NOT_APPLICABLE", checksum := none }

/-- What a call leaves: the panel, the exception it raises, and the files it has written. -/
structure Restored (β δ : Type*) where
  panel : Panel β δ
  raised : Option String
  written : List (RelPath × β)

/-- The steps of a restore of the archive with these contents. -/
def restoreSteps (lib : Lib β) (eng : Engine β δ) (s : Surroundings β) (call : RestoreCall β)
    (emergencyFilename : String) (authentic : Bool) (t : Folder β) : List (RestoreAction β δ) :=
  opening lib eng t ++ (copies (restorePlan call.order authentic call.restoreEnv t)
    ++ closing eng (restoreLog lib s call "SUCCESS"
      ("بازیابی موفقیت‌آمیز از آرشیو. سیستم بازیابی اضطراری: " ++ emergencyFilename)))

/-- The `except` branch: the transaction is dropped, the files are copied back, and the failure
is logged. -/
def recover (lib : Lib β) (eng : Engine β δ) (s : Surroundings β) (call : RestoreCall β)
    (emergencyFilename : String) (live : Live β δ) (e : String) : Restored β δ :=
  let tree := rollbackFiles lib call.order live.tree emergencyFilename call.restoreEnv
  match eng.log live.store (restoreLog lib s call "FAILED"
      ("بازیابی شکست خورد. سیستم بازگردانی شد. خطا: " ++ e)) with
  | .error e' => ⟨⟨tree, live.store⟩, some e', live.written⟩
  | .ok store =>
    ⟨⟨tree, store⟩,
      some ("خطا در بازیابی اطلاعات (سیستم به وضعیت قبل بازگردانده شد): " ++ e), live.written⟩

/-- The rest of a restore, once the emergency backup is taken. -/
def restoreFrom (lib : Lib β) (eng : Engine β δ) (s : Surroundings β) (call : RestoreCall β)
    (authentic : Bool) (zip : β) (emerg : Created β δ) : Restored β δ :=
  -- the directory for the extraction and the connection are made outside the `try` block
  if call.fault.step < 2 then ⟨emerg.panel, some call.fault.error, []⟩
  else
    let start : Live β δ := ⟨emerg.panel.tree, emerg.panel.store, none, []⟩
    match extractArchive lib zip with
    | .error e => recover lib eng s call emerg.filename start e
    | .ok t =>
      match (machine call.fault.torn).run call.fault.error call.tryStep
          (restoreSteps lib eng s call emerg.filename authentic t) start with
      | (live, none) => ⟨⟨live.tree, live.store⟩, none, live.written⟩
      | (live, some e) => recover lib eng s call emerg.filename live e

/-- `restore_backup`. -/
def restoreBackup (lib : Lib β) (eng : Engine β δ) (proc : Process) (s : Surroundings β)
    (outside : String → Lookup β) (call : RestoreCall β) (panel : Panel β δ) : Restored β δ :=
  match verifyBackup lib proc outside call.data call.password with
  | .error r => ⟨panel, some ("اعتبارسنجی بکاپ ناموفق بود: " ++ r.message), []⟩
  | .ok v =>
    if v.status = .incompatible then
      ⟨panel, some ("اعتبارسنجی بکاپ ناموفق بود: " ++ v.message), []⟩
    else match decryptArchive lib proc call.data call.password with
      | .error r => ⟨panel, some r.message, []⟩
      | .ok zip =>
        match createBackup lib eng proc s (emergencyCall call) panel with
        | .error e =>
          ⟨panel, some ("ایجاد نسخه پشتیبان اضطراری ناموفق بود. بازیابی لغو شد: " ++ e), []⟩
        | .ok emerg => restoreFrom lib eng s call v.authentic zip emerg

/-! ### The run, stage by stage -/

/-- Files whose paths are apart do not land on one another. -/
lemma target_ne {t t' : Folder β} {p q : RelPath} (h : Apart p q) : t.target p ≠ t'.target q := by
  obtain ⟨r, hr⟩ := t.target_eq_append p
  obtain ⟨s, hs⟩ := t'.target_eq_append q
  intro heq
  have hap : Apart (p ++ r) (q ++ s) := ((h.append r).symm.append s).symm
  exact hap.1 ((hr.symm.trans (heq.trans hs)) ▸ List.prefix_rfl)

/-- Once the tables are restored in the transaction, the files follow. -/
lemma run_opening {lib : Lib β} {eng : Engine β δ} {torn : Option β} {e : String} {n : ℕ}
    {t : Folder β} {s : Live β δ} {d : δ} (hd : restoreDatabase lib eng t s.store = .ok d)
    (hn : 4 ≤ n) :
    (machine torn).run e n (opening lib eng t) s = ({ s with tx := some d }, none) := by
  obtain ⟨n, rfl⟩ := Nat.exists_eq_add_of_le hn
  rw [Nat.add_comm 4 n]
  simp [opening, Faults.Machine.run, machine, Except.map, hd]

/-- A fault before the files, or rows that cannot be restored, end the run. -/
lemma run_opening_raised {lib : Lib β} {eng : Engine β δ} (torn : Option β) (e : String) {n : ℕ}
    {t : Folder β} (s : Live β δ) (h : n < 4 ∨ ∀ d, restoreDatabase lib eng t s.store ≠ .ok d) :
    ∃ e', ((machine torn).run e n (opening lib eng t) s).2 = some e' := by
  match n with
  | 0 => exact ⟨e, rfl⟩
  | 1 => exact ⟨e, rfl⟩
  | 2 => exact ⟨e, rfl⟩
  | 3 => exact ⟨e, rfl⟩
  | n + 4 =>
      cases hd : restoreDatabase lib eng t s.store with
      | error e' => exact ⟨e', by simp [opening, Faults.Machine.run, machine, Except.map, hd]⟩
      | ok d => exact absurd hd (h.resolve_left (by omega) d)

/-- Nothing is copied and nothing is committed before the files. -/
lemma run_opening_keeps (lib : Lib β) (eng : Engine β δ) (torn : Option β) (e : String) (n : ℕ)
    (t : Folder β) (s : Live β δ) :
    ((machine torn).run e n (opening lib eng t) s).1.tree = s.tree
      ∧ ((machine torn).run e n (opening lib eng t) s).1.store = s.store
      ∧ ((machine torn).run e n (opening lib eng t) s).1.written = s.written := by
  refine Faults.Machine.run_preserves
    (P := fun s' : Live β δ =>
      s'.tree = s.tree ∧ s'.store = s.store ∧ s'.written = s.written)
    ?_ ?_ n ⟨rfl, rfl, rfl⟩
  · intro a ha s₁ s₂ h₁ hexec
    simp only [opening, List.mem_cons, List.not_mem_nil, or_false] at ha
    rcases ha with rfl | rfl | rfl | rfl
    · cases hexec
      exact h₁
    · cases hexec
      exact h₁
    · cases hexec
      exact h₁
    · simp only [machine] at hexec
      cases hd : restoreDatabase lib eng t (s₁.tx.getD s₁.store) with
      | error e' => simp [hd, Except.map] at hexec
      | ok d =>
          simp only [hd, Except.map, Except.ok.injEq] at hexec
          subst hexec
          exact h₁
  · intro a ha s₁ h₁
    simp only [opening, List.mem_cons, List.not_mem_nil, or_false] at ha
    rcases ha with rfl | rfl | rfl | rfl <;> exact h₁

/-- What the copies leave: every file that landed holds what landed there, the others are as they
were, and the stage goes through exactly if no fault strikes it and every file has a place. -/
structure Copied (torn : Option β) (n : ℕ) (plan : List (RelPath × β)) (s : Live β δ)
    (r : Live β δ × Option String) : Prop where
  store : r.1.store = s.store
  tx : r.1.tx = s.tx
  written : r.1.written = s.written ++ s.tree.landings none n plan
  landed : ∀ f ∈ s.tree.landings torn n plan, r.1.tree.file f.1 = some f.2
  others : ∀ q, (∀ f ∈ s.tree.landings torn n plan, f.1 ≠ q) →
    r.1.tree.file q = s.tree.file q
  through : r.2 = none ↔ plan.length ≤ n ∧ ∀ f ∈ plan, s.tree.Clear f.1

lemma clear_iff_copy {t : Folder β} {p : RelPath} {b : β} :
    t.Clear p ↔ ∃ t', t.copy p b = some t' := by
  rw [Folder.Clear, ← Folder.write_isSome_iff (b := b), Option.isSome_iff_exists]
  exact Iff.rfl

lemma run_copy_cons {torn : Option β} {e : String} {n : ℕ} {p : RelPath} {b : β} {t' : Folder β}
    {as : List (RestoreAction β δ)} {s : Live β δ} (h : s.tree.copy p b = some t') :
    (machine torn).run e (n + 1) (.copy p b :: as) s
      = (machine torn).run e n as
          { s with tree := t', written := s.written ++ [(s.tree.target p, b)] } := by
  rw [Faults.Machine.run]
  simp only [machine, h]

lemma run_copies (torn : Option β) (e : String) {plan : List (RelPath × β)}
    (hplan : plan.Pairwise fun f g => Apart f.1 g.1) (n : ℕ) (s : Live β δ) :
    Copied torn n plan s ((machine torn).run e n (copies plan) s) := by
  induction plan generalizing n s with
  | nil =>
      simp only [copies, List.map_nil, Faults.Machine.run]
      exact ⟨rfl, rfl, by simp [Folder.landings], by simp [Folder.landings], fun _ _ => rfl,
        by simp⟩
  | cons f l ih =>
      obtain ⟨hf, hl⟩ := List.pairwise_cons.mp hplan
      cases n with
      | zero =>
          rw [copies, List.map_cons, Faults.Machine.run]
          cases torn with
          | none =>
              exact ⟨rfl, rfl, by simp [machine, Folder.landings], by simp [Folder.landings],
                fun _ _ => rfl, by simp⟩
          | some c =>
              by_cases hc : s.tree.Clear f.1
              · obtain ⟨t', ht'⟩ := clear_iff_copy (b := c).mp hc
                have hfile := Folder.file_of_write ht'
                refine ⟨rfl, rfl, by simp [machine, Folder.landings], ?_, ?_, by simp⟩ <;>
                  simp only [machine, ht', Option.getD_some, Folder.landings, if_pos hc,
                    List.mem_singleton, forall_eq]
                · rw [hfile, if_pos rfl]
                · intro q hq
                  rw [hfile, if_neg fun h => hq h.symm]
              · have hnone : s.tree.copy f.1 c = none := by
                  by_contra hne
                  obtain ⟨t', ht'⟩ := Option.ne_none_iff_exists'.mp hne
                  exact hc (clear_iff_copy.mpr ⟨t', ht'⟩)
                refine ⟨rfl, rfl, by simp [machine, Folder.landings], ?_, ?_, by simp⟩ <;>
                  simp [machine, hnone, Folder.landings, hc]
      | succ n =>
          rw [copies, List.map_cons]
          by_cases hc : s.tree.Clear f.1
          · obtain ⟨t', ht'⟩ := clear_iff_copy (b := f.2).mp hc
            have hfile := Folder.file_of_write ht'
            have hland := fun torn => Folder.landings_of_copy ht' hf torn n
            rw [run_copy_cons ht']
            have hrun := ih hl n
              { s with tree := t', written := s.written ++ [(s.tree.target f.1, f.2)] }
            refine ⟨hrun.store, hrun.tx, ?_, ?_, ?_, ?_⟩
            · have hw := hrun.written
              simp only [hland] at hw
              rw [Folder.landings, if_pos hc]
              exact hw.trans (List.append_assoc _ _ _)
            · rw [Folder.landings, if_pos hc]
              intro g hg
              rcases List.mem_cons.mp hg with rfl | hg
              · have hother := hrun.others (s.tree.target f.1) fun g hg => by
                  obtain ⟨g', hg', hgt⟩ := Folder.mem_landings hg
                  rw [hgt]
                  exact (target_ne (hf g' hg')).symm
                exact hother.trans ((hfile _).trans (if_pos rfl))
              · exact hrun.landed g (by rw [hland]; exact hg)
            · rw [Folder.landings, if_pos hc]
              intro q hq
              have hother := hrun.others q fun g hg =>
                hq g (List.mem_cons_of_mem _ (by rw [← hland]; exact hg))
              exact hother.trans ((hfile q).trans
                (if_neg fun h => hq _ List.mem_cons_self h.symm))
            · rw [List.length_cons, List.forall_mem_cons, Nat.add_le_add_iff_right]
              refine hrun.through.trans (and_congr_right fun _ => ?_)
              rw [and_iff_right hc]
              exact forall₂_congr fun g hg => Folder.clear_of_copy ht' (hf g hg)
          · have hnone : s.tree.copy f.1 f.2 = none := by
              by_contra hne
              obtain ⟨t', ht'⟩ := Option.ne_none_iff_exists'.mp hne
              exact hc (clear_iff_copy.mpr ⟨t', ht'⟩)
            rw [Faults.Machine.run]
            simp only [machine, hnone]
            exact ⟨rfl, rfl, by simp [Folder.landings, hc], by simp [Folder.landings, hc],
              fun _ _ => rfl, by simp [hc]⟩

/-- The steps after the files leave the files alone. -/
lemma run_closing_keeps (eng : Engine β δ) (row : BackupLog) (torn : Option β) (e : String)
    (n : ℕ) (s : Live β δ) :
    ((machine torn).run e n (closing eng row) s).1.tree = s.tree
      ∧ ((machine torn).run e n (closing eng row) s).1.written = s.written := by
  refine Faults.Machine.run_preserves
    (P := fun s' : Live β δ => s'.tree = s.tree ∧ s'.written = s.written) ?_ ?_ n ⟨rfl, rfl⟩
  · intro a ha s₁ s₂ h₁ hexec
    simp only [closing, List.mem_cons, List.not_mem_nil, or_false] at ha
    rcases ha with rfl | rfl | rfl | rfl | rfl | rfl | rfl
    case inr.inr.inr.inr.inl =>
      simp only [machine] at hexec
      cases hd : eng.log (s₁.tx.getD s₁.store) row with
      | error e' => simp [hd, Except.map] at hexec
      | ok d =>
          simp only [hd, Except.map, Except.ok.injEq] at hexec
          subst hexec
          exact h₁
    all_goals
      cases hexec
      exact h₁
  · intro a ha s₁ h₁
    simp only [closing, List.mem_cons, List.not_mem_nil, or_false] at ha
    rcases ha with rfl | rfl | rfl | rfl | rfl | rfl | rfl <;> exact h₁

/-- A fault at the commit leaves the store as it was. -/
lemma run_closing_struck (eng : Engine β δ) (row : BackupLog) (torn : Option β) (e : String)
    (s : Live β δ) : (machine torn).run e 0 (closing eng row) s = (s, some e) := rfl

/-- Past the commit, the store holds the restored tables, whatever happens next. -/
lemma run_closing_store {eng : Engine β δ} (heng : eng.Lawful) (row : BackupLog)
    (torn : Option β) (e : String) {n : ℕ} {s : Live β δ} {d : δ} (hd : s.tx = some d)
    (hn : 0 < n) {t : String} (ht : t ≠ "backup_logs") :
    eng.select ((machine torn).run e n (closing eng row) s).1.store t = eng.select d t := by
  obtain ⟨n, rfl⟩ := Nat.exists_eq_add_of_lt hn
  rw [Nat.zero_add, closing, Faults.Machine.run]
  simp only [machine, hd, Option.getD_some]
  -- both what is committed and what is under way agree with the restored tables
  refine (Faults.Machine.run_preserves
    (P := fun s' : Live β δ => eng.select s'.store t = eng.select d t ∧
      eng.select (s'.tx.getD s'.store) t = eng.select d t) ?_ ?_ n ⟨rfl, rfl⟩).1
  · intro a ha s₁ s₂ h₁ hexec
    simp only [List.mem_cons, List.not_mem_nil, or_false] at ha
    rcases ha with rfl | rfl | rfl | rfl | rfl | rfl
    · cases hexec
      exact h₁
    · cases hexec
      exact h₁
    · cases hexec
      exact ⟨h₁.1, h₁.1⟩
    · dsimp only at hexec
      cases hlog : eng.log (s₁.tx.getD s₁.store) row with
      | error e' => simp [hlog, Except.map] at hexec
      | ok d' =>
          simp only [hlog, Except.map, Except.ok.injEq] at hexec
          subst hexec
          exact ⟨h₁.1, (heng.log_select hlog t ht).trans h₁.2⟩
    · cases hexec
      exact ⟨h₁.2, h₁.2⟩
    · cases hexec
      exact h₁
  · intro a ha s₁ h₁
    simp only [List.mem_cons, List.not_mem_nil, or_false] at ha
    rcases ha with rfl | rfl | rfl | rfl | rfl | rfl <;> exact h₁

/-! ### The whole run -/

/-- The files that a run has written when it ends, each with what it then holds: none if it does
not get to the files, else those that landed before the fault or before the first file that has
no place, and the one that the fault struck if it was opened. -/
def filesLanded (lib : Lib β) (eng : Engine β δ) (call : RestoreCall β) (torn : Option β)
    (authentic : Bool) (t : Folder β) (panel : Panel β δ) : List (RelPath × β) :=
  match restoreDatabase lib eng t panel.store with
  | .error _ => []
  | .ok _ =>
    if 4 ≤ call.tryStep then
      panel.tree.landings torn (call.tryStep - 4)
        (restorePlan call.order authentic call.restoreEnv t)
    else []

/-- The run gets past the commit of the tables `d`. -/
def PastCommit (lib : Lib β) (eng : Engine β δ) (call : RestoreCall β) (authentic : Bool)
    (t : Folder β) (panel : Panel β δ) (d : δ) : Prop :=
  restoreDatabase lib eng t panel.store = .ok d
    ∧ (∀ f ∈ restorePlan call.order authentic call.restoreEnv t, panel.tree.Clear f.1)
    ∧ 4 + (restorePlan call.order authentic call.restoreEnv t).length < call.tryStep

lemma restorePlan_apart (o : Listing β) (authentic restoreEnv : Bool) (t : Folder β) :
    (restorePlan o authentic restoreEnv t).Pairwise fun f g => Apart f.1 g.1 :=
  Folder.walk_apart.filter _

lemma mem_filesLanded {lib : Lib β} {eng : Engine β δ} {call : RestoreCall β} {authentic : Bool}
    {t : Folder β} {panel : Panel β δ} {torn : Option β} {f : RelPath × β}
    (hf : f ∈ filesLanded lib eng call torn authentic t panel) :
    ∃ g ∈ restorePlan call.order authentic call.restoreEnv t, f.1 = panel.tree.target g.1 := by
  rw [filesLanded] at hf
  split at hf
  · simp at hf
  · split_ifs at hf
    · exact Folder.mem_landings hf
    · simp at hf

/-- Where a run ends: before the files, among them, or at the commit or after it. -/
inductive Ends (lib : Lib β) (eng : Engine β δ) (call : RestoreCall β) (row : BackupLog)
    (authentic : Bool) (t : Folder β) (panel : Panel β δ) : Live β δ → Option String → Prop where
  | opening {live : Live β δ} {e : String} :
      (call.tryStep < 4 ∨ ∀ d, restoreDatabase lib eng t panel.store ≠ .ok d) →
      live.tree = panel.tree → live.store = panel.store → live.written = [] →
      Ends lib eng call row authentic t panel live (some e)
  | copies {d : δ} {live : Live β δ} {e : String} :
      restoreDatabase lib eng t panel.store = .ok d → 4 ≤ call.tryStep →
      Copied call.fault.torn (call.tryStep - 4)
        (restorePlan call.order authentic call.restoreEnv t) ⟨panel.tree, panel.store, some d, []⟩
        (live, some e) →
      Ends lib eng call row authentic t panel live (some e)
  | closing {d : δ} {copied live : Live β δ} {r : Option String} :
      restoreDatabase lib eng t panel.store = .ok d → 4 ≤ call.tryStep →
      Copied call.fault.torn (call.tryStep - 4)
        (restorePlan call.order authentic call.restoreEnv t) ⟨panel.tree, panel.store, some d, []⟩
        (copied, none) →
      (machine call.fault.torn).run call.fault.error
        (call.tryStep - 4 - (restorePlan call.order authentic call.restoreEnv t).length)
        (closing eng row) copied = (live, r) →
      Ends lib eng call row authentic t panel live r

lemma ends_of_run {lib : Lib β} {eng : Engine β δ} {s : Surroundings β} {call : RestoreCall β}
    {authentic : Bool} {t : Folder β} {panel : Panel β δ} {name : String} {live : Live β δ}
    {r : Option String}
    (h : (machine call.fault.torn).run call.fault.error call.tryStep
      (restoreSteps lib eng s call name authentic t) ⟨panel.tree, panel.store, none, []⟩
        = (live, r)) :
    Ends lib eng call (restoreLog lib s call "SUCCESS"
      ("بازیابی موفقیت‌آمیز از آرشیو. سیستم بازیابی اضطراری: " ++ name)) authentic t panel live
      r := by
  set start : Live β δ := ⟨panel.tree, panel.store, none, []⟩ with hstart
  set plan := restorePlan call.order authentic call.restoreEnv t with hplan
  rw [restoreSteps] at h
  by_cases hopen : call.tryStep < 4 ∨ ∀ d, restoreDatabase lib eng t panel.store ≠ .ok d
  · -- the run does not get to the files
    obtain ⟨e', he'⟩ := run_opening_raised call.fault.torn call.fault.error start hopen
    rw [Faults.Machine.run_append_of_raised he'] at h
    obtain ⟨htree, hstore, hwritten⟩ := run_opening_keeps lib eng call.fault.torn
      call.fault.error call.tryStep t start
    rw [h] at htree hstore hwritten he'
    obtain rfl : r = some e' := he'
    exact .opening hopen htree hstore hwritten
  · push Not at hopen
    obtain ⟨hstep, d, hd⟩ := hopen
    rw [Faults.Machine.run_append, run_opening hd hstep] at h
    dsimp only at h
    rw [Faults.Machine.run_append, show (opening lib eng t).length = 4 from rfl] at h
    have hcopied := run_copies call.fault.torn call.fault.error
      (restorePlan_apart call.order authentic call.restoreEnv t) (call.tryStep - 4)
      { start with tx := some d }
    rw [← hplan] at hcopied h
    rcases hrun : (machine call.fault.torn).run call.fault.error (call.tryStep - 4)
      (copies plan) { start with tx := some d } with ⟨copied, r₁⟩
    rw [hrun] at hcopied h
    cases r₁ with
    | some e' =>
        cases h
        exact .copies hd hstep hcopied
    | none =>
        have hcount : (copies (δ := δ) plan).length = plan.length := List.length_map ..
        dsimp only at h
        rw [hcount] at h
        exact .closing hd hstep hcopied h

/-- The state in which a run ends, from a panel. -/
structure Ran (lib : Lib β) (eng : Engine β δ) (call : RestoreCall β) (authentic : Bool)
    (t : Folder β) (panel : Panel β δ) (live : Live β δ) : Prop where
  written : live.written = filesLanded lib eng call none authentic t panel
  landed : ∀ f ∈ filesLanded lib eng call call.fault.torn authentic t panel,
    live.tree.file f.1 = some f.2
  others : ∀ q, (∀ f ∈ filesLanded lib eng call call.fault.torn authentic t panel, f.1 ≠ q) →
    live.tree.file q = panel.tree.file q
  committed : ∀ d, PastCommit lib eng call authentic t panel d → ∀ t, t ≠ "backup_logs" →
    eng.select live.store t = eng.select d t
  uncommitted : (∀ d, ¬ PastCommit lib eng call authentic t panel d) → live.store = panel.store

/-- A run that does not get to the files. -/
lemma filesLanded_of_raised {lib : Lib β} {eng : Engine β δ} {call : RestoreCall β}
    {authentic : Bool} {t : Folder β} {panel : Panel β δ}
    (h : call.tryStep < 4 ∨ ∀ d, restoreDatabase lib eng t panel.store ≠ .ok d)
    (torn : Option β) : filesLanded lib eng call torn authentic t panel = [] := by
  rw [filesLanded]
  rcases h with hlt | hne
  · split
    · rfl
    · rw [if_neg (by omega)]
  · cases hd : restoreDatabase lib eng t panel.store with
    | error e => rfl
    | ok d => exact absurd hd (hne d)

/-- Wherever a run ends, it leaves what it says it has written. -/
lemma Ends.ran {lib : Lib β} {eng : Engine β δ} (heng : eng.Lawful) {call : RestoreCall β}
    {row : BackupLog} {authentic : Bool} {t : Folder β} {panel : Panel β δ} {live : Live β δ}
    {r : Option String} (h : Ends lib eng call row authentic t panel live r) :
    Ran lib eng call authentic t panel live := by
  have hlanded : ∀ d, restoreDatabase lib eng t panel.store = .ok d → 4 ≤ call.tryStep → ∀ torn,
      filesLanded lib eng call torn authentic t panel
        = panel.tree.landings torn (call.tryStep - 4)
          (restorePlan call.order authentic call.restoreEnv t) := by
    intro d hd hstep torn
    rw [filesLanded, hd]
    exact if_pos hstep
  cases h with
  | opening hopen htree hstore hwritten =>
      have hnone : ∀ torn, filesLanded lib eng call torn authentic t panel = [] :=
        filesLanded_of_raised hopen
      refine ⟨by rw [hnone]; exact hwritten, by simp [hnone], fun q _ => by rw [htree],
        fun d hd => ?_, fun _ => hstore⟩
      rcases hopen with hlt | hne
      · exact absurd hd.2.2 (by omega)
      · exact absurd hd.1 (hne d)
  | copies hd hstep hcopied =>
      have hlanded := hlanded _ hd hstep
      refine ⟨(hlanded none).symm ▸ hcopied.written, fun f hf =>
        hcopied.landed f (hlanded _ ▸ hf), fun q hq => hcopied.others q (hlanded _ ▸ hq),
        fun d' hd' => ?_, fun _ => hcopied.store⟩
      have hlater := hd'.2.2
      exact absurd (hcopied.through.mpr ⟨by omega, hd'.2.1⟩) (by simp)
  | closing hd hstep hcopied hclose =>
      have hlanded := hlanded _ hd hstep
      obtain ⟨hlen, hclear⟩ := hcopied.through.mp rfl
      obtain ⟨htree, hwritten⟩ := run_closing_keeps eng row call.fault.torn call.fault.error _ _
      rw [hclose] at htree hwritten
      refine ⟨?_, fun f hf => ?_, fun q hq => ?_, fun d' hd' t' ht' => ?_, fun hno => ?_⟩
      · rw [hwritten, hlanded none]
        exact hcopied.written
      · rw [htree]
        exact hcopied.landed f (hlanded _ ▸ hf)
      · rw [htree]
        exact hcopied.others q (hlanded _ ▸ hq)
      · obtain rfl := Except.ok.inj (hd.symm.trans hd'.1)
        have hlater := hd'.2.2
        have hleft : 0 < call.tryStep - 4
            - (restorePlan call.order authentic call.restoreEnv t).length := by omega
        have hpast := run_closing_store heng row call.fault.torn call.fault.error hcopied.tx hleft
          ht'
        rw [hclose] at hpast
        exact hpast
      · have hzero : call.tryStep - 4
            - (restorePlan call.order authentic call.restoreEnv t).length = 0 := by
          by_contra hne
          exact hno _ ⟨hd, hclear, by omega⟩
        rw [hzero, run_closing_struck] at hclose
        cases hclose
        exact hcopied.store

theorem ran_of_run {lib : Lib β} {eng : Engine β δ} (heng : eng.Lawful) {s : Surroundings β}
    {call : RestoreCall β} {authentic : Bool} {t : Folder β} {panel : Panel β δ} {name : String}
    {live : Live β δ} {r : Option String}
    (h : (machine call.fault.torn).run call.fault.error call.tryStep
      (restoreSteps lib eng s call name authentic t) ⟨panel.tree, panel.store, none, []⟩
        = (live, r)) :
    Ran lib eng call authentic t panel live :=
  (ends_of_run h).ran heng

end V2raySub
