import V2raySub.User.Writes

/-!
One owner for each path, across the tables of users and of legacy links.

* `Db.OneOwner`: no path is in both tables, and no two users share one.
* `RowWrite.oneOwner`, `initDb_oneOwner`: every change of the user service and every boot keeps it.
* `one_owner_iff`: **over every run from a fresh database it holds in every state exactly if no
  link is added at a path that a user owns**; `add_path` and `add_secondary_path` look at their own
  table only.
-/

namespace V2raySub

/-- No path is in both tables, and within `users` all paths are distinct. -/
structure Db.OneOwner (db : Db) : Prop where
  disjoint : ∀ u ∈ db.users, ∀ row ∈ db.subscriptionPaths, u.path ≠ row.path
  distinct : Rows.Keyed UserRow.path db.users

instance (db : Db) : Decidable db.OneOwner :=
  decidable_of_iff ((∀ u ∈ db.users, ∀ row ∈ db.subscriptionPaths, u.path ≠ row.path)
    ∧ (db.users.map UserRow.path).Nodup) ⟨fun h => ⟨h.1, h.2⟩, fun h => ⟨h.1, h.2⟩⟩

variable {db db' : Db}

/-! ### The user service -/

/-- Who owns a path is said by the paths of the two tables. -/
lemma Db.OneOwner.congr (h : db.OneOwner) (hu : db'.users.map UserRow.path
    = db.users.map UserRow.path) (hp : db'.subscriptionPaths = db.subscriptionPaths) :
    db'.OneOwner := by
  refine ⟨fun u hmem row hrow => ?_, by rw [Rows.Keyed, hu]; exact h.distinct⟩
  have hpath : u.path ∈ db.users.map UserRow.path := by
    rw [← hu]
    exact List.mem_map_of_mem hmem
  obtain ⟨v, hv, hvp⟩ := List.mem_map.mp hpath
  rw [hp] at hrow
  rw [← hvp]
  exact h.disjoint v hv row hrow

/-- What `_path_taken` has found free. -/
lemma pathTaken_eq_false {path : String} {exclude : Option ℕ}
    (h : pathTaken db path exclude = false) :
    (∀ u ∈ db.users, u.path = path → some u.id = exclude)
      ∧ ∀ row ∈ db.subscriptionPaths, row.path ≠ path := by
  simp only [pathTaken, Bool.or_eq_false_iff, List.any_eq_false, Bool.and_eq_true,
    decide_eq_true_eq, not_and, not_not] at h
  exact ⟨fun u hu hp => by simpa using h.1 u hu hp, h.2⟩

/-- Every change keeps the tables sound. -/
lemma RowWrite.sound (hw : RowWrite db db') (h : db.Sound) : db'.Sound := by
  cases hw with
  | addUser row _ hid _ => exact h.append hid
  | deleteUser i =>
      exact ⟨h.keyed.filter _, fun u hu => h.fresh u (List.mem_of_mem_filter hu)⟩
  | editUser i p f hf => exact h.updateUsers i p fun u => (hf u).1
  | renameUser i path f _ hf => exact h.setUser i fun u => (hf u).1
  | resetUser i now => exact (h.setUser i (id_resetRow now)).congr rfl rfl
  | devices _ _ | newDevice _ _ | settings _ => exact h.congr rfl rfl

/-- Every change keeps the owners apart. -/
lemma RowWrite.oneOwner (hw : RowWrite db db') (hs : db.Sound) (h : db.OneOwner) :
    db'.OneOwner := by
  cases hw with
  | addUser row hfree _ _ =>
      obtain ⟨hu, hp⟩ := pathTaken_eq_false hfree
      refine ⟨fun u hmem r hr => ?_, h.distinct.insert fun u hmem hpath => ?_⟩
      · rcases List.mem_append.mp hmem with hmem | hmem
        · exact h.disjoint u hmem r hr
        · rw [List.mem_singleton.mp hmem]
          exact (hp r hr).symm
      · cases hu u hmem hpath
  | deleteUser i =>
      exact ⟨fun u hmem => h.disjoint u (List.mem_of_mem_filter hmem), h.distinct.filter _⟩
  | editUser i p f hf => exact h.congr (Rows.map_update_other fun u => (hf u).2.1) rfl
  | renameUser i path f hfree hf =>
      obtain ⟨hu, hp⟩ := pathTaken_eq_false hfree
      refine ⟨Rows.forall_mem_update h.disjoint fun u _ _ _ row hrow => ?_,
        hs.keyed.update_second h.distinct (fun u => (hf u).2.1) fun u hmem hpath =>
          Option.some.inj (hu u hmem hpath)⟩
      rw [(hf u).2.1]
      exact (hp row hrow).symm
  | resetUser i now =>
      exact h.congr (Rows.map_update_other (f := resetRow now) fun _ => rfl) rfl
  | devices _ _ | newDevice _ _ | settings _ => exact h.congr rfl rfl

/-! ### A boot -/

/-- **The rule of the loop**: what an `INSERT` and a `DELETE` keep, the migration keeps. -/
lemma migrateRows_inv {P : Db → Prop} {now : Stamp} {draw : String → String}
    (hins : ∀ uuid row db db', insertMigrated now uuid row db = some db' → P db → P db')
    (hdrop : ∀ path db, P db → P (db.dropPath path)) {rows : List PathRow}
    (h : migrateRows now draw rows db = some db') (hdb : P db) : P db' := by
  induction rows generalizing db with
  | nil =>
      cases h
      exact hdb
  | cons row rows ih =>
      obtain ⟨db₁, h₁, h₂⟩ := Option.bind_eq_some_iff.mp h
      obtain ⟨db₂, h₃, rfl⟩ := Option.map_eq_some_iff.mp h₁
      refine ih h₂ (hdrop _ _ ?_)
      split_ifs at h₃
      · cases h₃
        exact hdb
      · exact hins _ _ _ _ h₃ hdb

/-- A migration that goes through has found the path free. -/
lemma insertMigrated_eq_some {now : Stamp} {uuid : String} {row : PathRow}
    (h : insertMigrated now uuid row db = some db') :
    (∀ u ∈ db.users, u.path ≠ row.path)
      ∧ db' = { db with
          users := db.users ++ [migratedUser now db.usersSeq uuid row]
          usersSeq := db.usersSeq + 1 } := by
  rw [insertMigrated] at h
  split_ifs at h with hany
  refine ⟨fun u hu hp => hany (List.any_eq_true.mpr ⟨u, hu, by simp [hp]⟩), ?_⟩
  exact (Option.some.inj h).symm

/-- The loop leaves no link it has seen. -/
lemma migrateRows_paths {now : Stamp} {draw : String → String} {rows : List PathRow}
    (h : migrateRows now draw rows db = some db') :
    ∀ r ∈ db'.subscriptionPaths, r ∈ db.subscriptionPaths ∧ ∀ row ∈ rows, r.path ≠ row.path := by
  induction rows generalizing db with
  | nil =>
      cases h
      simp
  | cons row rows ih =>
      obtain ⟨db₁, h₁, h₂⟩ := Option.bind_eq_some_iff.mp h
      obtain ⟨db₂, h₃, rfl⟩ := Option.map_eq_some_iff.mp h₁
      have hsame : db₂.subscriptionPaths = db.subscriptionPaths := by
        split_ifs at h₃
        · cases h₃
          rfl
        · rw [(insertMigrated_eq_some h₃).2]
      intro r hr
      obtain ⟨hmem, hne⟩ := ih h₂ r hr
      obtain ⟨hmem', hrow⟩ := List.mem_filter.mp hmem
      rw [hsame] at hmem'
      exact ⟨hmem', List.forall_mem_cons.mpr ⟨by simpa using hrow, hne⟩⟩

/-- A boot keeps the owners apart. -/
lemma initDb_oneOwner {now : Stamp} {draw : String → String} (h : initDb now draw db = some db')
    (hs : db.Sound) (ho : db.OneOwner) : db'.Sound ∧ db'.OneOwner := by
  obtain ⟨db₁, hrun, rfl⟩ := Option.map_eq_some_iff.mp h
  obtain ⟨hs₁, hk₁⟩ := migrateRows_inv
    (P := fun db => db.Sound ∧ Rows.Keyed UserRow.path db.users) (fun uuid row db db' hi hP => by
      obtain ⟨hne, rfl⟩ := insertMigrated_eq_some hi
      exact ⟨hP.1.append rfl, hP.2.insert hne⟩)
    (fun path db hP => ⟨hP.1.congr rfl rfl, hP.2⟩) hrun ⟨hs, ho.distinct⟩
  have hempty : ∀ r, r ∉ db₁.subscriptionPaths := fun r hr => by
    obtain ⟨hmem, hne⟩ := migrateRows_paths hrun r hr
    exact hne r hmem rfl
  refine ⟨hs₁.congr (seedSettings_users db₁) (by rw [Db.seedSettings]), fun u _ row hrow => ?_, ?_⟩
  · rw [seedSettings_paths] at hrow
    exact absurd hrow (hempty row)
  · rw [seedSettings_users]
    exact hk₁

/-! ### The panel -/

/-- Tables without users, links and devices, as `init_db` makes them. -/
structure PanelTables.Initialised (db : PanelTables) : Prop where
  users : db.users = []
  links : db.subscriptionPaths = []
  devices : db.userDevices = []

/-- A link is added at a path no user owns. -/
def PanelOp.TakesFreePath (db : PanelTables) : PanelOp → Prop
  | .addPath p | .addSecondaryPath p =>
    (validatePath p).1 = true → db.linkByPath p = none → db.ownsPath p = false
  | _ => True

/-- Sound tables with one owner for each path. -/
structure PanelTables.Owned (db : PanelTables) : Prop where
  sound : db.Sound
  oneOwner : db.OneOwner

/-- A link on a free path has no other owner. -/
lemma Db.OneOwner.insertLink {db : PanelTables} (h : db.OneOwner) {p : String}
    (hfree : db.ownsPath p = false) (now : Stamp) (isPrimary : Bool) :
    (db.insertLink now p isPrimary).OneOwner := by
  refine ⟨fun u hu row hrow => ?_, h.distinct⟩
  rcases List.mem_append.mp hrow with hrow | hrow
  · exact h.disjoint u hu row hrow
  · rw [List.mem_singleton.mp hrow]
    have hall : ∀ u ∈ db.users, u.path ≠ p := by simpa [Db.ownsPath] using hfree
    exact hall u hu

/-- An update of the links that keeps their paths. -/
lemma Db.OneOwner.setLinks {db : PanelTables} (h : db.OneOwner) {f : PathRow → PathRow}
    (hf : ∀ r, (f r).path = r.path) : (db.setLinks f).OneOwner := by
  refine ⟨fun u hu row hrow => ?_, h.distinct⟩
  obtain ⟨r, hr, rfl⟩ := List.mem_map.mp hrow
  rw [hf]
  exact h.disjoint u hu r hr

/-- `add_path` at a free path or at that of a link. -/
lemma Db.OneOwner.addPath {db : PanelTables} (h : db.OneOwner) {p : String}
    (hfree : PanelOp.TakesFreePath db (.addPath p)) (now : Stamp) :
    (addPath now p db).1.OneOwner := by
  rw [V2raySub.addPath]
  dsimp only
  split_ifs with hok
  · exact h
  · have hothers : (db.setLinks fun r => { r with isPrimary := false }).OneOwner :=
      h.setLinks fun _ => rfl
    cases hl : db.linkByPath p with
    | some row =>
        refine hothers.setLinks fun r => ?_
        split_ifs
        · rfl
        · rfl
    | none => exact hothers.insertLink (hfree (by simpa using hok) hl) now true

/-- A second path keeps the owners apart, if it is free. -/
lemma Db.OneOwner.addSecondaryPath {db : PanelTables} (h : db.OneOwner) {p : String}
    (hfree : PanelOp.TakesFreePath db (.addSecondaryPath p)) (now : Stamp) :
    (addSecondaryPath now p db).1.OneOwner := by
  rw [V2raySub.addSecondaryPath]
  dsimp only
  split_ifs with hok
  · exact h
  · cases hl : db.linkByPath p with
    | some row => exact h
    | none => exact h.insertLink (hfree (by simpa using hok) hl) now false

/-- What the operations on the links leave of the users. -/
lemma users_addPath (now : Stamp) (p : String) (db : PanelTables) :
    (addPath now p db).1.users = db.users ∧ (addPath now p db).1.usersSeq = db.usersSeq
      ∧ (addPath now p db).1.userDevices = db.userDevices := by
  rw [V2raySub.addPath]
  dsimp only
  split_ifs
  · exact ⟨rfl, rfl, rfl⟩
  · cases db.linkByPath p with
    | _ => exact ⟨rfl, rfl, rfl⟩

lemma users_addSecondaryPath (now : Stamp) (p : String) (db : PanelTables) :
    (addSecondaryPath now p db).1.users = db.users
      ∧ (addSecondaryPath now p db).1.usersSeq = db.usersSeq
      ∧ (addSecondaryPath now p db).1.userDevices = db.userDevices := by
  rw [V2raySub.addSecondaryPath]
  dsimp only
  split_ifs
  · exact ⟨rfl, rfl, rfl⟩
  · cases db.linkByPath p with
    | _ => exact ⟨rfl, rfl, rfl⟩

lemma users_setPathEnabled (i : ℕ) (enabled : Bool) (db : PanelTables) :
    (setPathEnabled i enabled db).1.users = db.users
      ∧ (setPathEnabled i enabled db).1.usersSeq = db.usersSeq
      ∧ (setPathEnabled i enabled db).1.userDevices = db.userDevices := by
  rw [V2raySub.setPathEnabled]
  cases db.link i with
  | none => exact ⟨rfl, rfl, rfl⟩
  | some row =>
      dsimp only
      split_ifs
      · exact ⟨rfl, rfl, rfl⟩
      · exact ⟨rfl, rfl, rfl⟩

lemma users_deletePath (i : ℕ) (db : PanelTables) :
    (deletePath i db).1.users = db.users ∧ (deletePath i db).1.usersSeq = db.usersSeq
      ∧ (deletePath i db).1.userDevices = db.userDevices := by
  rw [V2raySub.deletePath]
  cases db.link i with
  | none => exact ⟨rfl, rfl, rfl⟩
  | some row =>
      dsimp only
      split_ifs
      · exact ⟨rfl, rfl, rfl⟩
      · exact ⟨rfl, rfl, rfl⟩

/-- Switching a link keeps the owners apart. -/
lemma Db.OneOwner.setPathEnabled {db : PanelTables} (h : db.OneOwner) (i : ℕ) (enabled : Bool) :
    (setPathEnabled i enabled db).1.OneOwner := by
  rw [V2raySub.setPathEnabled]
  cases db.link i with
  | none => exact h
  | some row =>
      dsimp only
      split_ifs
      · exact h
      · refine h.setLinks fun r => ?_
        split_ifs
        · rfl
        · rfl

/-- Deleting a link keeps the owners apart. -/
lemma Db.OneOwner.deletePath {db : PanelTables} (h : db.OneOwner) (i : ℕ) :
    (deletePath i db).1.OneOwner := by
  rw [V2raySub.deletePath]
  cases db.link i with
  | none => exact h
  | some row =>
      dsimp only
      split_ifs
      · exact h
      · exact ⟨fun u hu r hr => h.disjoint u hu r (List.mem_of_mem_filter hr), h.distinct⟩

/-- So does every series of changes. -/
lemma RowWrites.owned {db db' : Db} (hw : RowWrites db db') (hs : db.Sound) (ho : db.OneOwner) :
    db'.Sound ∧ db'.OneOwner :=
  hw.inv (P := fun db => db.Sound ∧ db.OneOwner)
    (fun _ _ h hP => ⟨h.sound hP.1, h.oneOwner hP.1 hP.2⟩) ⟨hs, ho⟩

/-- **Every operation that takes free paths only** keeps one owner for each path. -/
lemma PanelTables.Owned.step {db : PanelTables} (h : db.Owned) (lib : NetLib)
    {e : Timed Stamp PanelOp} (hfree : e.ev.TakesFreePath db) : (db.step lib e).Owned := by
  have hwrites : ∀ {db' : Db}, RowWrites db.toDb db' → PanelTables.Owned { db with toDb := db' } :=
    fun hw => ⟨(hw.owned h.sound h.oneOwner).1, (hw.owned h.sound h.oneOwner).2⟩
  obtain ⟨now, ev⟩ := e
  cases ev with
  | service o => exact hwrites (writes_step lib db.toDb ⟨now, o⟩)
  | addPath p =>
      obtain ⟨hu, hq, -⟩ := users_addPath now p db
      exact ⟨h.sound.congr hu hq, h.oneOwner.addPath hfree now⟩
  | addSecondaryPath p =>
      obtain ⟨hu, hq, -⟩ := users_addSecondaryPath now p db
      exact ⟨h.sound.congr hu hq, h.oneOwner.addSecondaryPath hfree now⟩
  | setPathEnabled i enabled =>
      obtain ⟨hu, hq, -⟩ := users_setPathEnabled i enabled db
      exact ⟨h.sound.congr hu hq, h.oneOwner.setPathEnabled i enabled⟩
  | deletePath i =>
      obtain ⟨hu, hq, -⟩ := users_deletePath i db
      exact ⟨h.sound.congr hu hq, h.oneOwner.deletePath i⟩
  | initDb draw =>
      simp only [PanelTables.step]
      cases hr : initDb now draw db.toDb with
      | none => exact h
      | some db' =>
          obtain ⟨hs, ho⟩ := initDb_oneOwner hr h.sound h.oneOwner
          exact ⟨hs, ho⟩
  | resetUserDevices i => exact hwrites (writes_resetUserDevices i db.toDb)
  | deleteUserDevice i d => exact hwrites (writes_deleteUserDevice i d db.toDb)
  | cleanupStaleDevices days => exact hwrites (writes_cleanupStaleDevices now days db.toDb)
  | setSetting key value => exact hwrites (writes_setSetting key value db.toDb)

/-- A link added at the path of a user breaks it. -/
lemma not_oneOwner_step {db : PanelTables} (lib : NetLib) {e : Timed Stamp PanelOp}
    (h : ¬e.ev.TakesFreePath db) : ¬(db.step lib e).OneOwner := by
  have hclash : ∀ {db' : PanelTables} {p : String}, db'.users = db.users →
      (∃ row ∈ db'.subscriptionPaths, row.path = p) → ¬db.ownsPath p = false →
      ¬db'.OneOwner := by
    rintro db' p hu ⟨row, hrow, rfl⟩ hown hone
    obtain ⟨u, hmem, hp⟩ := ownsPath_iff.mp (by simpa using hown)
    exact hone.disjoint u (by rwa [hu]) row hrow hp
  obtain ⟨now, ev⟩ := e
  cases ev with
  | addPath p =>
      simp only [PanelOp.TakesFreePath, Classical.not_imp] at h
      obtain ⟨hok, hl, hown⟩ := h
      refine hclash (users_addPath now p db).1 ?_ hown
      simp [PanelTables.step, V2raySub.addPath, hok, hl, PanelTables.insertLink]
  | addSecondaryPath p =>
      simp only [PanelOp.TakesFreePath, Classical.not_imp] at h
      obtain ⟨hok, hl, hown⟩ := h
      refine hclash (users_addSecondaryPath now p db).1 ?_ hown
      simp [PanelTables.step, V2raySub.addSecondaryPath, hok, hl, PanelTables.insertLink]
  | _ => exact absurd trivial h

/-- **One owner for each path.**  In a run from a fresh database every state has it, exactly if no
step adds a link at a path that a user owns. -/
theorem one_owner_iff (lib : NetLib) {db₀ : PanelTables} (h₀ : db₀.Initialised)
    (es : List (Timed Stamp PanelOp)) :
    (∀ es₁, es₁ <+: es → (Runs.run (PanelTables.step lib) db₀ es₁).OneOwner)
      ↔ ∀ es₁ e, es₁ ++ [e] <+: es →
          e.ev.TakesFreePath (Runs.run (PanelTables.step lib) db₀ es₁) := by
  constructor
  · intro h es₁ e hpre
    by_contra hno
    have hlast := h _ hpre
    rw [Runs.run_append] at hlast
    exact not_oneOwner_step lib hno hlast
  · intro h es₁ hpre
    suffices hown : (Runs.run (PanelTables.step lib) db₀ es₁).Owned from hown.oneOwner
    induction es₁ using List.reverseRecOn with
    | nil =>
        refine ⟨⟨?_, ?_⟩, ?_, ?_⟩
        · rw [Runs.run_nil, h₀.users]
          exact List.nodup_nil
        · rw [Runs.run_nil, h₀.users]
          simp
        · rw [Runs.run_nil, h₀.users]
          simp
        · rw [Runs.run_nil, h₀.users]
          exact List.nodup_nil
    | append_singleton es₁ e ih =>
        rw [Runs.run_append]
        exact (ih ((List.prefix_append _ _).trans hpre)).step lib (h es₁ e hpre)

/-- The sample panel before any boot has links to move. -/
def samplePanelTables : PanelTables := { toDb := sampleDb, pathsSeq := 1 }

lemma samplePanelTables_initialised : samplePanelTables.Initialised := ⟨rfl, rfl, rfl⟩

/-- A user, and a link at a path of its own. -/
theorem one_owner_iff_sample :
    (Runs.run (PanelTables.step sampleLib) samplePanelTables
      [⟨Stamp.day 0, .service sampleAdd⟩, ⟨Stamp.day 1, .addSecondaryPath "freeconfigs"⟩]).OneOwner
    := by
  refine (one_owner_iff sampleLib samplePanelTables_initialised _).mpr ?_ _ List.prefix_rfl
  exact Runs.forall_step_cons.mpr ⟨trivial, Runs.forall_step_cons.mpr
    ⟨fun _ _ => by decide +kernel, Runs.forall_step_nil⟩⟩

/-- A user, and a link at his path: it is taken, since `add_secondary_path` looks at its own table
only. -/
theorem link_at_user_path :
    ¬(Runs.run (PanelTables.step sampleLib) samplePanelTables
      [⟨Stamp.day 0, .service sampleAdd⟩,
       ⟨Stamp.day 1, .addSecondaryPath "k3XbQ9pLm2TzR7vW"⟩]).OneOwner := by
  decide +kernel

end V2raySub
