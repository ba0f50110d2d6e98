import V2raySub.Base.Script
import V2raySub.Boot.InitDb

/-!
Several workers that boot at once, each with a run of `init_db` (`database.py`, `app_factory.py`).

* `initDdl`, `initIndexes`: the schema statements outside and inside the write transaction.
* `Pc`, `Boot.step`: the statements of one worker, in the steps other workers can come between: the
  `SELECT` and the `ALTER` of `_add_column_if_missing`, the `SELECT` of the legacy links, the check
  of the first link, and the write transaction that the first `INSERT` or `DELETE` opens.
* `Fresh`, `Settled`: before any transaction the rows are those of the start; afterwards they are
  those of one run, for good.
* `boots_safely_iff`: **no worker raises, and the tables are those of one run, exactly if no
  transaction starts while another worker is past the check of a link that it found free**.
-/

namespace V2raySub

/-! ### The schema -/

/-- A schema statement of `init_db`. -/
inductive Ddl where
  | createTable (table : String) (columns : List String)
  | createIndex (index : String)
  | addColumn (table column : String)
  deriving DecidableEq

/-- The schema: the tables, the columns of each in their order, and the indexes. -/
structure Catalog where
  tables : List String
  columns : List (String × String)
  indexes : List String
  deriving DecidableEq

/-- The statements of `init_db` up to the migration; each commits by itself. -/
def initDdl : List Ddl :=
  [.createTable "configs" ["id", "config_text", "config_type", "created_at", "status"],
   .createTable "settings" ["key", "value"],
   .createTable "subscription_logs" ["id", "ip_address", "user_agent", "accessed_at"],
   .createTable "subscription_paths" ["id", "path", "is_primary", "is_enabled", "created_at"],
   .createTable "backup_logs" ["id", "time", "operation", "user", "status", "duration",
     "backup_size", "error_message", "delivery_status", "checksum"],
   .createTable "users" ["id", "uuid", "name", "path", "status", "duration_days",
     "activated_at", "expire_at", "paused_at", "note", "max_devices", "last_seen",
     "last_user_agent", "last_ip", "created_at", "updated_at"],
   .createTable "auto_sources" ["id", "name", "url", "priority", "is_enabled", "created_at",
     "last_scan", "last_success", "last_error", "failure_count"],
   .createTable "scan_history" ["id", "scan_type", "started_at", "finished_at",
     "duration_ms", "discovered_count", "added_count", "disabled_count", "deleted_count",
     "status", "error_message", "worker_version", "engine_version"],
   .createTable "user_devices" ["id", "user_id", "fingerprint", "first_seen", "last_seen",
     "network", "last_ip", "user_agent", "hits"],
   .createIndex "idx_user_devices_user",
   .createTable "config_health_history" ["id", "config_id", "scan_id", "checked_at",
     "reachable", "latency", "validation", "error_message"],
   .addColumn "configs" "sort_order",
   .addColumn "configs" "is_enabled",
   .addColumn "configs" "source",
   .addColumn "configs" "mode",
   .addColumn "configs" "last_check",
   .addColumn "configs" "last_success",
   .addColumn "configs" "latency",
   .addColumn "configs" "consecutive_failures",
   .addColumn "configs" "health_status",
   .addColumn "configs" "country_code",
   .addColumn "subscription_logs" "status",
   .addColumn "subscription_logs" "request_path",
   .addColumn "scan_history" "job_id",
   .addColumn "scan_history" "total_sources",
   .addColumn "scan_history" "successful_sources",
   .addColumn "scan_history" "failed_sources",
   .addColumn "scan_history" "discovered_configs",
   .addColumn "scan_history" "working_configs",
   .addColumn "scan_history" "imported_configs",
   .addColumn "scan_history" "disabled_configs",
   .addColumn "scan_history" "deleted_configs",
   .addColumn "scan_history" "duplicate_configs",
   .addColumn "scan_history" "scan_duration_ms",
   .addColumn "scan_history" "source_scope",
   .addColumn "auto_sources" "total_configs",
   .addColumn "auto_sources" "total_configs_at"]

/-- The statements of `init_db` after the migration, in its transaction. -/
def initIndexes : List Ddl :=
  [.createIndex "idx_sublogs_request_path",
   .createIndex "idx_sublogs_accessed_at",
   .createIndex "idx_sublogs_status",
   .createIndex "idx_configs_status_enabled",
   .createIndex "idx_users_path"]

/-- `ALTER TABLE … ADD COLUMN` of a column that is missing. -/
def Catalog.addColumn (cat : Catalog) (table column : String) : Catalog :=
  { cat with columns := cat.columns ++ [(table, column)] }

/-- A schema statement carried out, unless it is already. -/
def Catalog.ensure (cat : Catalog) : Ddl → Catalog
  | .createTable table columns =>
    if table ∈ cat.tables then cat
    else { cat with
      tables := cat.tables ++ [table]
      columns := cat.columns ++ columns.map (table, ·) }
  | .createIndex index =>
    if index ∈ cat.indexes then cat else { cat with indexes := cat.indexes ++ [index] }
  | .addColumn table column =>
    if (table, column) ∈ cat.columns then cat else cat.addColumn table column

/-- `CREATE … IF NOT EXISTS`, and `_add_column_if_missing` in one go; `none` is the
`OperationalError` of a table that is not there. -/
def Catalog.exec (cat : Catalog) : Ddl → Option Catalog
  | .addColumn table column =>
    if (table, column) ∈ cat.columns then some cat
    else if table ∈ cat.tables then some (cat.addColumn table column)
    else none
  | d => some (cat.ensure d)

/-- One run of `init_db` with nothing in between. -/
def initRun (now : Stamp) (draw : String → String) (cat : Catalog) (db : Db) :
    Option (Catalog × Db) :=
  (initDdl.foldlM Catalog.exec cat).bind fun cat =>
    (initDb now draw db).bind fun db =>
      (initIndexes.foldlM Catalog.exec cat).map fun cat => (cat, db)

/-! ### The steps of a worker -/

/-- Where a worker is. -/
inductive Pc where
  | ddl (rest : List Ddl)
  | alter (table column : String) (rest : List Ddl)
  | check (row : PathRow) (rows : List PathRow)
  | write (rows : List PathRow) (found : Bool)
  | done
  | raised
  deriving DecidableEq

/-- The tables, and where every worker is. -/
structure Boot (ι : Type*) where
  cat : Catalog
  db : Db
  pc : ι → Pc

/-- The loop of the migration, when the check of its first row has been made before. -/
def migrateFrom (now : Stamp) (draw : String → String) (found : Bool) :
    List PathRow → Db → Option Db
  | [], db => some db
  | row :: rows, db => (migrateRowWith now draw row found db).bind (migrateRows now draw rows)

variable {ι : Type*} [DecidableEq ι]

/-- The tables and the worker `i` after its step. -/
def Boot.moved (s : Boot ι) (i : ι) (cat : Catalog) (db : Db) (pc : Pc) : Boot ι :=
  { cat := cat, db := db, pc := Function.update s.pc i pc }

/-- The next step of the worker `i`; `now` and `draw` are its clock and its draws of `uuid4`.
SQLite admits one writer at a time, and those who read beside it see the tables of before, so
that the write transaction is one step. -/
def Boot.step (now : ι → Stamp) (draw : ι → String → String) (s : Boot ι) (i : ι) : Boot ι :=
  match s.pc i with
  | .ddl [] =>
    s.moved i s.cat s.db (match s.db.subscriptionPaths with
      | [] => .write [] false
      | row :: rows => .check row rows)
  | .ddl (.addColumn table column :: rest) =>
    s.moved i s.cat s.db
      (if (table, column) ∈ s.cat.columns then .ddl rest else .alter table column rest)
  | .ddl (d :: rest) => s.moved i (s.cat.ensure d) s.db (.ddl rest)
  | .alter table column rest =>
    if table ∈ s.cat.tables then
      -- the error about a duplicate column is swallowed
      s.moved i (s.cat.ensure (.addColumn table column)) s.db (.ddl rest)
    else s.moved i s.cat s.db .raised
  | .check row rows => s.moved i s.cat s.db (.write (row :: rows) (s.db.ownsPath row.path))
  | .write rows found =>
    match migrateFrom (now i) (draw i) found rows s.db with
    | none => s.moved i s.cat s.db .raised
    | some db => s.moved i (initIndexes.foldl Catalog.ensure s.cat) db.seedSettings .done
  | .done | .raised => s

/-- The steps of a schedule. -/
def Boot.run (now : ι → Stamp) (draw : ι → String → String) (s : Boot ι) (w : List ι) : Boot ι :=
  w.foldl (Boot.step now draw) s

/-- Every worker at the start of `init_db`. -/
def Boot.start (ι : Type*) (cat : Catalog) (db : Db) : Boot ι where
  cat := cat
  db := db
  pc := fun _ => .ddl initDdl

/-- The worker has answered. -/
def Pc.Finished (k : Pc) : Prop := k = .done ∨ k = .raised

/-- The worker is past the check of its first link and found it free. -/
def Pc.FoundFree : Pc → Prop
  | .write (_ :: _) false => True
  | _ => False

/-- No transaction starts while another worker is past the check of a link that it found free. -/
def ChecksHold (now : ι → Stamp) (draw : ι → String → String) (s : Boot ι) (w : List ι) : Prop :=
  ∀ w₁ i w₂, w = w₁ ++ i :: w₂ → ∀ rows found, (s.run now draw w₁).pc i = .write rows found →
    ∀ j ≠ i, ¬((s.run now draw w₁).pc j).FoundFree

/-! ### What a step can do -/

variable {now : ι → Stamp} {draw : ι → String → String} {s : Boot ι} {i : ι}

/-- The steps of the worker `i`, one case each. -/
inductive StepTo (now : ι → Stamp) (draw : ι → String → String) (s : Boot ι) (i : ι) :
    Boot ι → Prop where
  | stay : (s.pc i).Finished → StepTo now draw s i s
  | ensure (d : Ddl) (rest : List Ddl) : s.pc i = .ddl (d :: rest) →
      StepTo now draw s i (s.moved i (s.cat.ensure d) s.db (.ddl rest))
  | missing (table column : String) (rest : List Ddl) :
      s.pc i = .ddl (.addColumn table column :: rest) →
      StepTo now draw s i (s.moved i s.cat s.db (.alter table column rest))
  | alter (table column : String) (rest : List Ddl) : s.pc i = .alter table column rest →
      table ∈ s.cat.tables →
      StepTo now draw s i (s.moved i (s.cat.ensure (.addColumn table column)) s.db (.ddl rest))
  | noTable (table column : String) (rest : List Ddl) : s.pc i = .alter table column rest →
      table ∉ s.cat.tables → StepTo now draw s i (s.moved i s.cat s.db .raised)
  | noRows : s.pc i = .ddl [] → s.db.subscriptionPaths = [] →
      StepTo now draw s i (s.moved i s.cat s.db (.write [] false))
  | rows (row : PathRow) (rows : List PathRow) : s.pc i = .ddl [] →
      s.db.subscriptionPaths = row :: rows →
      StepTo now draw s i (s.moved i s.cat s.db (.check row rows))
  | check (row : PathRow) (rows : List PathRow) : s.pc i = .check row rows →
      StepTo now draw s i
        (s.moved i s.cat s.db (.write (row :: rows) (s.db.ownsPath row.path)))
  | refuse (rows : List PathRow) (found : Bool) : s.pc i = .write rows found →
      migrateFrom (now i) (draw i) found rows s.db = none →
      StepTo now draw s i (s.moved i s.cat s.db .raised)
  | commit (rows : List PathRow) (found : Bool) (db : Db) : s.pc i = .write rows found →
      migrateFrom (now i) (draw i) found rows s.db = some db →
      StepTo now draw s i
        (s.moved i (initIndexes.foldl Catalog.ensure s.cat) db.seedSettings .done)

lemma stepTo_step (now : ι → Stamp) (draw : ι → String → String) (s : Boot ι) (i : ι) :
    StepTo now draw s i (s.step now draw i) := by
  rw [Boot.step]
  cases hk : s.pc i with
  | ddl rest =>
      cases rest with
      | nil =>
          cases hp : s.db.subscriptionPaths with
          | nil => exact .noRows hk hp
          | cons row rows => exact .rows row rows hk hp
      | cons d rest =>
          cases d with
          | createTable table columns => exact .ensure _ _ hk
          | createIndex index => exact .ensure _ _ hk
          | addColumn table column =>
              dsimp only
              split_ifs with hc
              · -- the column is there: nothing to carry out
                have hskip : s.cat.ensure (.addColumn table column) = s.cat := if_pos hc
                have hstep : StepTo now draw s i _ := .ensure _ _ hk
                rwa [hskip] at hstep
              · exact .missing table column rest hk
  | alter table column rest =>
      dsimp only
      split_ifs with ht
      · exact .alter table column rest hk ht
      · exact .noTable table column rest hk ht
  | check row rows => exact .check row rows hk
  | write rows found =>
      dsimp only
      split
      · exact .refuse rows found hk (by assumption)
      · exact .commit rows found _ hk (by assumption)
  | done => exact .stay (by rw [hk]; exact .inl rfl)
  | raised => exact .stay (by rw [hk]; exact .inr rfl)

@[simp] lemma moved_pc_self (s : Boot ι) (i : ι) (cat : Catalog) (db : Db) (k : Pc) :
    (s.moved i cat db k).pc i = k := Function.update_self ..

lemma moved_pc_of_ne (s : Boot ι) {i j : ι} (h : j ≠ i) (cat : Catalog) (db : Db) (k : Pc) :
    (s.moved i cat db k).pc j = s.pc j := Function.update_of_ne h ..

/-- A property of every worker's place survives a step that gives it to the worker who moved. -/
lemma forall_moved {P : Pc → Prop} (h : ∀ j, P (s.pc j)) {k : Pc} (hk : P k) (cat : Catalog)
    (db : Db) : ∀ j, P ((s.moved i cat db k).pc j) := by
  intro j
  by_cases hj : j = i
  · rw [hj, moved_pc_self]
    exact hk
  · rw [moved_pc_of_ne s hj]
    exact h j

/-! ### The schema -/

/-- The statement has been carried out. -/
def Catalog.Has (cat : Catalog) : Ddl → Prop
  | .createTable table _ => table ∈ cat.tables
  | .createIndex index => index ∈ cat.indexes
  | .addColumn table column => (table, column) ∈ cat.columns

lemma ensure_idempotent : Script.Idempotent Catalog.ensure Catalog.Has where
  skip := fun {cat d} h => by
    cases d with
    | createTable table columns => exact if_pos h
    | createIndex index => exact if_pos h
    | addColumn table column => exact if_pos h
  self := fun cat d => by
    cases d with
    | createTable table columns =>
        simp only [Catalog.Has, Catalog.ensure]
        split_ifs with h
        · exact h
        · simp
    | createIndex index =>
        simp only [Catalog.Has, Catalog.ensure]
        split_ifs with h
        · exact h
        · simp
    | addColumn table column =>
        simp only [Catalog.Has, Catalog.ensure]
        split_ifs with h
        · exact h
        · simp [Catalog.addColumn]
  keep := fun {cat d} e h => by
    have hsub : cat.tables ⊆ (cat.ensure e).tables ∧ cat.columns ⊆ (cat.ensure e).columns
        ∧ cat.indexes ⊆ (cat.ensure e).indexes := by
      cases e with
      | createTable table columns =>
          simp only [Catalog.ensure]
          split_ifs <;> simp
      | createIndex index =>
          simp only [Catalog.ensure]
          split_ifs <;> simp
      | addColumn table column =>
          simp only [Catalog.ensure]
          split_ifs <;> simp [Catalog.addColumn]
    cases d with
    | createTable table columns => exact hsub.1 h
    | createIndex index => exact hsub.2.2 h
    | addColumn table column => exact hsub.2.1 h

/-- Every column is added to a table that is known or created before. -/
def declared (known : List String) : List Ddl → Bool
  | [] => true
  | .createTable table _ :: ds => declared (table :: known) ds
  | .createIndex _ :: ds => declared known ds
  | .addColumn table _ :: ds => known.contains table && declared known ds

lemma table_of_declared {table column : String} {mine rest : List Ddl} {known : List String}
    (h : declared known (mine ++ .addColumn table column :: rest) = true) :
    table ∈ known ∨ ∃ columns, Ddl.createTable table columns ∈ mine := by
  induction mine generalizing known with
  | nil =>
      simp only [List.nil_append, declared, Bool.and_eq_true] at h
      exact .inl (by simpa using h.1)
  | cons d mine ih =>
      cases d with
      | createTable t columns =>
          rcases ih h with ht | ⟨cols, hc⟩
          · rcases List.mem_cons.mp ht with rfl | ht
            · exact .inr ⟨columns, List.mem_cons_self⟩
            · exact .inl ht
          · exact .inr ⟨cols, List.mem_cons_of_mem _ hc⟩
      | createIndex index =>
          rcases ih h with ht | ⟨cols, hc⟩
          · exact .inl ht
          · exact .inr ⟨cols, List.mem_cons_of_mem _ hc⟩
      | addColumn t c =>
          simp only [List.cons_append, declared, Bool.and_eq_true] at h
          rcases ih h.2 with ht | ⟨cols, hc⟩
          · exact .inl ht
          · exact .inr ⟨cols, List.mem_cons_of_mem _ hc⟩

/-- The schema statements of one run. -/
def initSchema : List Ddl := initDdl ++ initIndexes

lemma initSchema_declared : declared [] initSchema = true := by decide +kernel

/-- The schema statements a worker has before it. -/
def Pc.todo : Pc → List Ddl
  | .ddl rest => rest ++ initIndexes
  | .alter table column rest => .addColumn table column :: rest ++ initIndexes
  | .check _ _ | .write _ _ | .raised => initIndexes
  | .done => []

/-- The schema is that of a prefix of one run, and no worker is past the end of it. -/
def SchemaInv (cat₀ : Catalog) (s : Boot ι) : Prop :=
  ∃ pre, Script.Reached Catalog.ensure initSchema cat₀ pre s.cat
    ∧ ∀ i, ∃ mine, initSchema = mine ++ (s.pc i).todo ∧ mine <+: pre

variable {cat₀ : Catalog}

lemma schemaInv_start (ι : Type*) (cat : Catalog) (db : Db) :
    SchemaInv cat (Boot.start ι cat db) :=
  ⟨[], .start, fun _ => ⟨[], rfl, List.nil_prefix⟩⟩

/-- A step that carries out no statement. -/
lemma SchemaInv.same (h : SchemaInv cat₀ s) {k : Pc} (hk : k.todo = (s.pc i).todo) (db : Db) :
    SchemaInv cat₀ (s.moved i s.cat db k) := by
  obtain ⟨pre, hpre, hall⟩ := h
  refine ⟨pre, hpre, forall_moved (P := fun k => ∃ mine, initSchema = mine ++ k.todo
    ∧ mine <+: pre) hall ?_ s.cat db⟩
  rw [hk]
  exact hall i

/-- A step that carries out the next statements. -/
lemma SchemaInv.advance (h : SchemaInv cat₀ s) (as : List Ddl) {k : Pc}
    (hk : (s.pc i).todo = as ++ k.todo) (db : Db) :
    SchemaInv cat₀ (s.moved i (as.foldl Catalog.ensure s.cat) db k) := by
  obtain ⟨pre, hpre, hall⟩ := h
  obtain ⟨mine, hmine, hle⟩ := hall i
  have hall' : initSchema = mine ++ as ++ k.todo := by rw [hmine, hk, List.append_assoc]
  obtain ⟨pre', hgrow, hmine', hreach⟩ := hpre.advance_list ensure_idempotent hall' hle
  refine ⟨pre', hreach, forall_moved (P := fun k => ∃ mine, initSchema = mine ++ k.todo
    ∧ mine <+: pre') (fun j => ?_) ⟨mine ++ as, ?_, hmine'⟩ _ db⟩
  · obtain ⟨m, hm, hmle⟩ := hall j
    exact ⟨m, hm, hmle.trans hgrow⟩
  · rw [hmine, hk, List.append_assoc]

omit [DecidableEq ι] in
/-- The table of a column to add is there. -/
lemma SchemaInv.table_mem (h : SchemaInv cat₀ s) {table column : String} {rest : List Ddl}
    (hk : s.pc i = .alter table column rest) : table ∈ s.cat.tables := by
  obtain ⟨pre, hpre, hall⟩ := h
  obtain ⟨mine, hmine, hle⟩ := hall i
  rw [hk, Pc.todo, List.cons_append] at hmine
  have hdecl := initSchema_declared
  rw [hmine] at hdecl
  rcases table_of_declared hdecl with hknown | ⟨columns, hc⟩
  · cases hknown
  · have hhas : Catalog.Has s.cat (.createTable table columns) := by
      rw [hpre.store]
      exact ensure_idempotent.has_foldl (hle.subset hc) cat₀
    exact hhas

lemma SchemaInv.stepTo (h : SchemaInv cat₀ s) {s' : Boot ι} (hst : StepTo now draw s i s') :
    SchemaInv cat₀ s' := by
  cases hst with
  | stay _ => exact h
  | ensure d rest hk => exact h.advance [d] (by rw [hk]; rfl) s.db
  | missing table column rest hk => exact h.same (by rw [hk]; rfl) s.db
  | alter table column rest hk _ =>
      exact h.advance [.addColumn table column] (by rw [hk]; rfl) s.db
  | noTable table column rest hk ht => exact absurd (h.table_mem hk) ht
  | noRows hk _ => exact h.same (by rw [hk]; rfl) s.db
  | rows row rows hk _ => exact h.same (by rw [hk]; rfl) s.db
  | check row rows hk => exact h.same (by rw [hk]; rfl) s.db
  | refuse rows found hk _ => exact h.same (by rw [hk]; rfl) s.db
  | commit rows found db hk _ =>
      have htodo : (s.pc i).todo = initIndexes ++ Pc.done.todo := by
        rw [hk, Pc.todo, Pc.todo, List.append_nil]
      exact h.advance initIndexes htodo db.seedSettings

omit [DecidableEq ι] in
/-- The worker that is done has left the schema of one run. -/
lemma SchemaInv.complete (h : SchemaInv cat₀ s) (hk : s.pc i = .done) :
    s.cat = initSchema.foldl Catalog.ensure cat₀ := by
  obtain ⟨pre, hpre, hall⟩ := h
  obtain ⟨mine, hmine, hle⟩ := hall i
  rw [hk, Pc.todo, List.append_nil] at hmine
  exact hpre.complete (hmine ▸ hle)

lemma foldlM_exec (known : List String) {ds : List Ddl} (h : declared known ds = true)
    {cat : Catalog} (hcat : ∀ table ∈ known, table ∈ cat.tables) :
    ds.foldlM Catalog.exec cat = some (ds.foldl Catalog.ensure cat) := by
  induction ds generalizing known cat with
  | nil => rfl
  | cons d ds ih =>
      rw [List.foldlM_cons, List.foldl_cons]
      cases d with
      | createTable table columns =>
          refine ih (table :: known) h fun t ht => ?_
          rcases List.mem_cons.mp ht with rfl | ht
          · exact ensure_idempotent.self cat (.createTable t columns)
          · exact ensure_idempotent.keep (a := .createTable t []) _ (hcat t ht)
      | createIndex index =>
          exact ih known h fun t ht =>
            ensure_idempotent.keep (a := .createTable t []) _ (hcat t ht)
      | addColumn table column =>
          simp only [declared, Bool.and_eq_true, List.contains_iff_mem] at h
          have hexec : cat.exec (.addColumn table column)
              = some (cat.ensure (.addColumn table column)) := by
            rw [Catalog.exec, Catalog.ensure, if_pos (hcat table h.1)]
            split_ifs <;> rfl
          rw [hexec]
          exact ih known h.2 fun t ht =>
            ensure_idempotent.keep (a := .createTable t []) _ (hcat t ht)

/-! ### The rows -/

/-- What one run of `init_db` has left: every legacy link owned and none in the table, and the
settings there. -/
structure Booted (db₀ db : Db) : Prop where
  emptied : db.subscriptionPaths = []
  owned : ∀ row ∈ db₀.subscriptionPaths, db.ownsPath row.path = true
  seeded : db.seedSettings = db

lemma exists_initDb (t : Stamp) {d : String → String} {db₀ : Db} (hd : FreshDraws d db₀) :
    ∃ db, initDb t d db₀ = some db ∧ Booted db₀ db := by
  obtain ⟨db₁, hrun, hmig⟩ := migrateRows_spec t hd.injective
    db₀.subscriptionPaths fun u hu path huuid => absurd huuid (hd.unused u hu path)
  refine ⟨db₁.seedSettings, by rw [initDb, hrun, Option.map_some], ?_, ?_,
    seedSettings_idem db₁⟩
  · rw [seedSettings_paths, hmig.paths, List.filter_eq_nil_iff]
    intro row hrow
    simp only [decide_eq_true_eq, not_forall]
    exact ⟨row, hrow, fun hne => hne rfl⟩
  · intro row hrow
    rw [Db.ownsPath, seedSettings_users]
    exact hmig.owned row hrow

variable {t : Stamp} {d : String → String} {db₀ db : Db} {row : PathRow} {rows : List PathRow}

/-- A check that still tells the truth. -/
lemma migrateFrom_eq {found : Bool}
    (h : ∀ row ∈ rows.head?, found = db.ownsPath row.path) :
    migrateFrom t d found rows db = migrateRows t d rows db := by
  cases rows with
  | nil => rfl
  | cons row rows => rw [migrateFrom, migrateRows, h row rfl]

lemma Booted.dropPath (h : Booted db₀ db) (path : String) : db.dropPath path = db := by
  obtain ⟨users, seq, paths, devices, dseq, settings⟩ := db
  obtain rfl : paths = [] := h.emptied
  rfl

/-- The loop on links that are all owned. -/
lemma Booted.migrateRows (h : Booted db₀ db) (hrows : ∀ row ∈ rows, db.ownsPath row.path = true) :
    migrateRows t d rows db = some db := by
  induction rows with
  | nil => rfl
  | cons row rows ih =>
      obtain ⟨hrow, hrest⟩ := List.forall_mem_cons.mp hrows
      rw [V2raySub.migrateRows, migrateRowWith, hrow, if_pos rfl, Option.map_some, h.dropPath]
      exact ih hrest

/-- The transaction of a worker whose check is too old: the `INSERT` violates `UNIQUE(path)`. -/
lemma migrateFrom_eq_none (hrow : db.ownsPath row.path = true) :
    migrateFrom t d false (row :: rows) db = none := by
  have hany : (db.users.any fun u => decide (u.uuid = d row.path) || decide (u.path = row.path))
      = true := by
    obtain ⟨u, hu, hp⟩ := ownsPath_iff.mp hrow
    exact List.any_eq_true.mpr ⟨u, hu, by simp [hp]⟩
  simp [migrateFrom, migrateRowWith, insertMigrated, hany]

/-- Where a worker can be before any transaction. -/
def Pc.Fresh (db₀ : Db) : Pc → Prop
  | .check row rows => row :: rows = db₀.subscriptionPaths
  | .write rows found =>
    rows = db₀.subscriptionPaths ∧ ∀ row ∈ rows.head?, found = db₀.ownsPath row.path
  | .done | .raised => False
  | .ddl _ | .alter _ _ _ => True

/-- Where a worker can be after the first one. -/
def Pc.Settled (db₀ : Db) : Pc → Prop
  | .check row rows => row :: rows = db₀.subscriptionPaths
  | .write rows _ => rows = [] ∨ rows = db₀.subscriptionPaths
  | .ddl _ | .alter _ _ _ | .done | .raised => True

lemma Pc.Fresh.settled {k : Pc} (h : k.Fresh db₀) : k.Settled db₀ := by
  cases k with
  | write rows found => exact .inr h.1
  | check row rows => exact h
  | ddl _ | alter _ _ _ | done | raised => trivial

/-- No worker has written. -/
structure Fresh (db₀ : Db) (s : Boot ι) : Prop where
  rows : s.db = db₀
  places : ∀ i, (s.pc i).Fresh db₀

/-- A worker has written: the rows are those of its run. -/
structure Settled (now : ι → Stamp) (draw : ι → String → String) (db₀ : Db) (s : Boot ι) :
    Prop where
  rows : ∃ w, s.pc w = .done ∧ initDb (now w) (draw w) db₀ = some s.db
  booted : Booted db₀ s.db
  places : ∀ i, (s.pc i).Settled db₀

omit [DecidableEq ι] in
lemma fresh_start (cat : Catalog) (db : Db) : Fresh db (Boot.start ι cat db) :=
  ⟨rfl, fun _ => trivial⟩

/-- A step before any transaction: no worker has written yet, or this one has, and the rows are
those of its run. -/
lemma Fresh.stepTo (h : Fresh db₀ s) (hd : FreshDraws (draw i) db₀) (hsch : SchemaInv cat₀ s)
    {s' : Boot ι} (hst : StepTo now draw s i s') :
    (Fresh db₀ s' ∧ ∀ rows found, s.pc i ≠ .write rows found)
      ∨ (Settled now draw db₀ s' ∧ s'.pc i = .done ∧ ∃ rows found, s.pc i = .write rows found) := by
  have hi := h.places i
  have hmove : ∀ {k : Pc} (cat : Catalog), k.Fresh db₀ → Fresh db₀ (s.moved i cat s.db k) :=
    fun cat hk => ⟨h.rows, forall_moved h.places hk cat s.db⟩
  cases hst with
  | stay hfin =>
      rcases hfin with hk | hk
      · rw [hk] at hi
        exact hi.elim
      · rw [hk] at hi
        exact hi.elim
  | ensure d rest hk => exact .inl ⟨hmove _ trivial, by simp [hk]⟩
  | missing table column rest hk => exact .inl ⟨hmove _ trivial, by simp [hk]⟩
  | alter table column rest hk _ => exact .inl ⟨hmove _ trivial, by simp [hk]⟩
  | noTable table column rest hk ht => exact absurd (hsch.table_mem hk) ht
  | noRows hk hp =>
      rw [h.rows] at hp
      exact .inl ⟨hmove _ ⟨hp.symm, fun _ hr => by cases hr⟩, by simp [hk]⟩
  | rows row rows hk hp =>
      rw [h.rows] at hp
      exact .inl ⟨hmove _ hp.symm, by simp [hk]⟩
  | check row rows hk =>
      rw [hk] at hi
      refine .inl ⟨hmove _ ⟨hi, fun r hr => ?_⟩, by simp [hk]⟩
      cases hr
      rw [h.rows]
  | refuse rows found hk hnone =>
      rw [hk] at hi
      obtain ⟨rfl, hfound⟩ := hi
      obtain ⟨db', hrun, -⟩ := exists_initDb (now i) hd
      rw [migrateFrom_eq (by rw [h.rows]; exact hfound), h.rows] at hnone
      rw [initDb, hnone] at hrun
      cases hrun
  | commit rows found db hk hsome =>
      rw [hk] at hi
      obtain ⟨rfl, hfound⟩ := hi
      obtain ⟨db', hrun, hbooted⟩ := exists_initDb (now i) hd
      rw [migrateFrom_eq (by rw [h.rows]; exact hfound), h.rows] at hsome
      have hdb : db.seedSettings = db' := by
        rw [initDb, hsome] at hrun
        exact Option.some.inj hrun
      refine .inr ⟨⟨⟨i, by simp, ?_⟩, ?_, ?_⟩, by simp, _, _, hk⟩
      · rw [hrun, ← hdb]
        rfl
      · rw [← hdb] at hbooted
        exact hbooted
      · exact forall_moved (P := Pc.Settled db₀) (k := .done) (fun j => (h.places j).settled)
          trivial _ _

/-- The worker has raised, or is bound to. -/
def Pc.Lost (k : Pc) : Prop := k = .raised ∨ k.FoundFree

/-- A step after the first transaction: the rows stay, and the worker is lost if it was. -/
lemma Settled.stepTo (h : Settled now draw db₀ s) (hsch : SchemaInv cat₀ s) {s' : Boot ι}
    (hst : StepTo now draw s i s') :
    Settled now draw db₀ s' ∧ ((s'.pc i).Lost ↔ (s.pc i).Lost) := by
  have hi := h.places i
  have hmove : ∀ {k : Pc} (cat : Catalog), s.pc i ≠ .done → k.Settled db₀ →
      Settled now draw db₀ (s.moved i cat s.db k) := by
    intro k cat hne hk
    obtain ⟨w, hw, hrun⟩ := h.rows
    have hwi : w ≠ i := fun hwi => hne (hwi ▸ hw)
    exact ⟨⟨w, by rwa [moved_pc_of_ne s hwi], hrun⟩, h.booted, forall_moved h.places hk cat s.db⟩
  cases hst with
  | stay _ => exact ⟨h, Iff.rfl⟩
  | ensure d rest hk =>
      exact ⟨hmove _ (by simp [hk]) trivial, by simp [hk, Pc.Lost, Pc.FoundFree]⟩
  | missing table column rest hk =>
      exact ⟨hmove _ (by simp [hk]) trivial, by simp [hk, Pc.Lost, Pc.FoundFree]⟩
  | alter table column rest hk _ =>
      exact ⟨hmove _ (by simp [hk]) trivial, by simp [hk, Pc.Lost, Pc.FoundFree]⟩
  | noTable table column rest hk ht => exact absurd (hsch.table_mem hk) ht
  | noRows hk _ =>
      exact ⟨hmove _ (by simp [hk]) (.inl rfl), by simp [hk, Pc.Lost, Pc.FoundFree]⟩
  | rows row rows hk hp =>
      rw [h.booted.emptied] at hp
      cases hp
  | check row rows hk =>
      rw [hk] at hi
      have hi' : row :: rows = db₀.subscriptionPaths := hi
      have hown := h.booted.owned row (by rw [← hi']; exact List.mem_cons_self)
      exact ⟨hmove _ (by simp [hk]) (.inr hi), by simp [hk, hown, Pc.Lost, Pc.FoundFree]⟩
  | refuse rows found hk hnone =>
      refine ⟨hmove _ (by simp [hk]) trivial, iff_of_true (by simp [Pc.Lost]) ?_⟩
      rw [hk] at hi ⊢
      cases rows with
      | nil => cases hnone
      | cons row rows =>
          have hi' : row :: rows = db₀.subscriptionPaths := hi.resolve_left (List.cons_ne_nil _ _)
          cases found with
          | false => exact .inr trivial
          | true =>
              rw [migrateFrom_eq fun r hr => ?_, h.booted.migrateRows fun r hr =>
                h.booted.owned r (hi' ▸ hr)] at hnone
              · cases hnone
              · cases hr
                exact (h.booted.owned row (hi' ▸ List.mem_cons_self)).symm
  | commit rows found db hk hsome =>
      rw [hk] at hi
      have hkeep : db.seedSettings = s.db ∧ ¬(Pc.write rows found).FoundFree := by
        cases rows with
        | nil =>
            cases hsome
            exact ⟨h.booted.seeded, id⟩
        | cons row rows =>
            have hi' : row :: rows = db₀.subscriptionPaths :=
              hi.resolve_left (List.cons_ne_nil _ _)
            have hown : ∀ r ∈ row :: rows, s.db.ownsPath r.path = true :=
              fun r hr => h.booted.owned r (hi' ▸ hr)
            cases found with
            | false =>
                rw [migrateFrom_eq_none (hown row List.mem_cons_self)] at hsome
                cases hsome
            | true =>
                rw [migrateFrom_eq fun r hr => ?_, h.booted.migrateRows hown] at hsome
                · cases hsome
                  exact ⟨h.booted.seeded, id⟩
                · cases hr
                  exact (hown row List.mem_cons_self).symm
      rw [hkeep.1]
      refine ⟨hmove _ (by simp [hk]) trivial, iff_of_false (by simp [Pc.Lost, Pc.FoundFree]) ?_⟩
      rw [hk]
      rintro (hr | hr)
      · cases hr
      · exact hkeep.2 hr

/-! ### Whole schedules -/

/-- A step leaves the other workers where they are. -/
lemma StepTo.pc_of_ne {s' : Boot ι} (hst : StepTo now draw s i s') {j : ι} (hj : j ≠ i) :
    s'.pc j = s.pc j := by
  cases hst with
  | stay _ => rfl
  | _ => exact moved_pc_of_ne s hj _ _ _

/-- Before any transaction or after the first one, along one run of the schema statements. -/
structure Boot.Inv (now : ι → Stamp) (draw : ι → String → String) (cat₀ : Catalog) (db₀ : Db)
    (s : Boot ι) : Prop where
  schema : SchemaInv cat₀ s
  phase : Fresh db₀ s ∨ Settled now draw db₀ s

lemma Boot.Inv.step (h : Boot.Inv now draw cat₀ db₀ s) (hd : ∀ i, FreshDraws (draw i) db₀)
    (i : ι) : Boot.Inv now draw cat₀ db₀ (s.step now draw i) := by
  have hst := stepTo_step now draw s i
  refine ⟨h.schema.stepTo hst, ?_⟩
  rcases h.phase with hf | hs
  · rcases hf.stepTo (hd i) h.schema hst with ⟨hf', -⟩ | ⟨hs', -⟩
    · exact .inl hf'
    · exact .inr hs'
  · exact .inr (hs.stepTo h.schema hst).1

lemma Boot.Inv.run (h : Boot.Inv now draw cat₀ db₀ s) (hd : ∀ i, FreshDraws (draw i) db₀)
    (w : List ι) : Boot.Inv now draw cat₀ db₀ (s.run now draw w) := by
  induction w generalizing s with
  | nil => exact h
  | cons i w ih => exact ih (h.step hd i)

/-- After the first transaction nobody is lost who was not, and nobody is saved. -/
lemma Settled.lost_run (h : Settled now draw db₀ s) (hsch : SchemaInv cat₀ s) (w : List ι)
    (j : ι) : ((s.run now draw w).pc j).Lost ↔ (s.pc j).Lost := by
  induction w generalizing s with
  | nil => exact Iff.rfl
  | cons i w ih =>
      have hst := stepTo_step now draw s i
      obtain ⟨hs', hlost⟩ := h.stepTo hsch hst
      refine (ih hs' (hsch.stepTo hst)).trans ?_
      by_cases hj : j = i
      · rw [hj]
        exact hlost
      · rw [hst.pc_of_ne hj]

omit [DecidableEq ι] in
lemma Fresh.not_lost (h : Fresh db₀ s) {j : ι} (hj : ¬(s.pc j).FoundFree) : ¬(s.pc j).Lost := by
  rintro (hr | hr)
  · have hplace := h.places j
    rw [hr] at hplace
    exact hplace
  · exact hj hr

/-- With checks that hold, nobody is lost. -/
lemma not_lost_of_checksHold (h : Boot.Inv now draw cat₀ db₀ s)
    (hd : ∀ i, FreshDraws (draw i) db₀) {w : List ι} (hw : ChecksHold now draw s w)
    (hnow : Settled now draw db₀ s → ∀ j, ¬(s.pc j).Lost)
    (hend : Settled now draw db₀ (s.run now draw w)) (j : ι) :
    ¬((s.run now draw w).pc j).Lost := by
  induction w generalizing s with
  | nil => exact hnow hend j
  | cons i w ih =>
      have hst := stepTo_step now draw s i
      have hrest : ChecksHold now draw (s.step now draw i) w :=
        fun w₁ k w₂ hsplit => hw (i :: w₁) k w₂ (by rw [hsplit]; rfl)
      refine ih (h.step hd i) hrest (fun _ k => ?_) hend
      rcases h.phase with hf | hs
      · rcases hf.stepTo (hd i) h.schema hst with ⟨hf', -⟩ | ⟨hs', hdone, rows, found, hk⟩
        · rename_i hset
          obtain ⟨v, hv, -⟩ := hset.rows
          have hplace := hf'.places v
          rw [hv] at hplace
          exact hplace.elim
        · -- the first transaction: the others are not past a check that found the link free
          by_cases hki : k = i
          · rw [hki, hdone]
            simp [Pc.Lost, Pc.FoundFree]
          · rw [hst.pc_of_ne hki]
            exact hf.not_lost (hw [] i w rfl rows found hk k hki)
      · have hlost := hs.lost_run h.schema [i] k
        exact fun hk => hnow hs k (hlost.mp hk)

omit [DecidableEq ι] in
/-- Once every worker has answered, one of them has written. -/
lemma settled_of_finished [Nonempty ι] (h : Boot.Inv now draw cat₀ db₀ s)
    (hfin : ∀ i, (s.pc i).Finished) : Settled now draw db₀ s := by
  rcases h.phase with hf | hs
  · obtain ⟨i⟩ := ‹Nonempty ι›
    have hplace := hf.places i
    rcases hfin i with hk | hk
    · rw [hk] at hplace
      exact hplace.elim
    · rw [hk] at hplace
      exact hplace.elim
  · exact hs

omit [DecidableEq ι] in
/-- The tables after the first transaction are those of one run. -/
lemma Settled.initRun (h : Settled now draw db₀ s) (hsch : SchemaInv cat₀ s) :
    ∃ v, initRun (now v) (draw v) cat₀ db₀ = some (s.cat, s.db) := by
  obtain ⟨v, hv, hrun⟩ := h.rows
  have hddl : initDdl.foldlM Catalog.exec cat₀ = some (initDdl.foldl Catalog.ensure cat₀) :=
    foldlM_exec [] (by decide +kernel) (by simp)
  have hidx : ∀ cat, initIndexes.foldlM Catalog.exec cat
      = some (initIndexes.foldl Catalog.ensure cat) :=
    fun cat => foldlM_exec [] (by decide) (by simp)
  refine ⟨v, ?_⟩
  rw [V2raySub.initRun, hddl, Option.bind_some, hrun, Option.bind_some, hidx, Option.map_some,
    hsch.complete hv, initSchema, List.foldl_append]

/-- **Several workers boot at once.**  For every initial database and every schedule that lets all
of them answer, no worker raises and the tables are those of one run, exactly if no transaction
starts while another worker is past the check of its first legacy link and found it free. -/
theorem boots_safely_iff [Nonempty ι] (cat₀ : Catalog) {db₀ : Db}
    (hd : ∀ i, FreshDraws (draw i) db₀) {w : List ι}
    (hfin : ∀ i, (((Boot.start ι cat₀ db₀).run now draw w).pc i).Finished) :
    ((∀ i, ((Boot.start ι cat₀ db₀).run now draw w).pc i ≠ .raised)
      ∧ ∃ v, initRun (now v) (draw v) cat₀ db₀
          = some (((Boot.start ι cat₀ db₀).run now draw w).cat,
              ((Boot.start ι cat₀ db₀).run now draw w).db))
      ↔ ChecksHold now draw (Boot.start ι cat₀ db₀) w := by
  have hstart : Boot.Inv now draw cat₀ db₀ (Boot.start ι cat₀ db₀) :=
    ⟨schemaInv_start ι cat₀ db₀, .inl (fresh_start cat₀ db₀)⟩
  have hend := hstart.run hd w
  have hset := settled_of_finished hend hfin
  constructor
  · rintro ⟨hraise, -⟩ w₁ i w₂ rfl rows found hk j hj hfree
    have hmid := hstart.run hd w₁
    have hst := stepTo_step now draw ((Boot.start ι cat₀ db₀).run now draw w₁) i
    have hmid' := hmid.step hd i
    -- after the transaction the check of `j` is too old
    have hsettled : Settled now draw db₀
        (((Boot.start ι cat₀ db₀).run now draw w₁).step now draw i) := by
      rcases hmid.phase with hf | hs
      · rcases hf.stepTo (hd i) hmid.schema hst with ⟨-, hno⟩ | ⟨hs', -⟩
        · exact absurd hk (hno rows found)
        · exact hs'
      · exact (hs.stepTo hmid.schema hst).1
    have hlost := (hsettled.lost_run hmid'.schema w₂ j).mpr
      (.inr (by rw [hst.pc_of_ne hj]; exact hfree))
    have hrun : (Boot.start ι cat₀ db₀).run now draw (w₁ ++ i :: w₂)
        = (((Boot.start ι cat₀ db₀).run now draw w₁).step now draw i).run now draw w₂ := by
      rw [Boot.run, Boot.run, Boot.run, List.foldl_append, List.foldl_cons]
    rw [← hrun] at hlost
    rcases hlost with hr | hr
    · exact hraise j hr
    · rcases hfin j with hd | hd
      · rw [hd] at hr
        exact hr
      · exact hraise j hd
  · intro hw
    refine ⟨fun i hr => ?_, hset.initRun hend.schema⟩
    refine not_lost_of_checksHold hstart hd hw (fun hs => ?_) hset i (.inl hr)
    obtain ⟨v, hv, -⟩ := hs.rows
    cases hv

/-- The schema of a panel that has booted before. -/
def sampleCatalog : Catalog := initSchema.foldl Catalog.ensure ⟨[], [], []⟩

/-- Two workers, each with draws of its own. -/
def sampleDraws (worker : Bool) (path : String) : String :=
  (if worker then "4b6f5c0e" else "d71a09c3") ++ path

lemma sampleDraws_fresh (enabled worker : Bool) :
    FreshDraws (sampleDraws worker) (sampleLegacy enabled) where
  injective := fun _ _ h => String.append_right_inj _ |>.mp h
  unused := fun _ hu => by cases hu

/-- The steps of a worker up to the check of its first link. -/
def untilChecked (worker : Bool) : List Bool := List.replicate (initDdl.length + 2) worker

/-- One worker after the other. -/
def sampleInTurn : List Bool := untilChecked false ++ [false] ++ untilChecked true ++ [true]

/-- Both workers check their first link, and then both write. -/
def sampleAtOnce : List Bool := untilChecked false ++ untilChecked true ++ [false, true]

set_option maxRecDepth 4000 in
/-- In turn, each check holds until its own transaction. -/
theorem boots_safely_iff_sample :
    ChecksHold (fun _ => Stamp.day 1) sampleDraws
      (Boot.start Bool sampleCatalog (sampleLegacy true)) sampleInTurn := by
  have hpc : ∀ worker : Bool, ((Boot.start Bool sampleCatalog (sampleLegacy true)).run
      (fun _ => Stamp.day 1) sampleDraws sampleInTurn).pc worker = .done := by decide +kernel
  refine (boots_safely_iff sampleCatalog (sampleDraws_fresh true) fun i => .inl (hpc i)).mp
    ⟨fun i hr => ?_, false, by decide +kernel⟩
  rw [hpc i] at hr
  cases hr

set_option maxRecDepth 4000 in
/-- Both found the link free: the second transaction violates `UNIQUE(path)`, and its worker does
not boot. -/
theorem second_worker_raises :
    ((Boot.start Bool sampleCatalog (sampleLegacy true)).run (fun _ => Stamp.day 1) sampleDraws
        sampleAtOnce).pc true = .raised := by
  decide +kernel

end V2raySub
