import V2raySub.Base.Replace
import V2raySub.Backup.Restore

/-!
The tables that a restore writes, row by row.

* `TableDef`, `DbSchema`: the tables of a database with their columns and unique keys;
  `settingsTable` is the one that `database.py` creates for the settings.
* `Engine.Relational`: what the statements of the backup service do to the rows of such a database.
* `foldlM_restoreTable`: the loop over `db_data` leaves the rows of the archive in every table
  that it carries.
* `foldlM_restoreSecret`: the loop over the preserved secrets puts back the settings that
  `keptSettings` names.
-/

namespace V2raySub

variable {β δ : Type*}

/-! ### Tables -/

/-- `v = w` in SQL, where `NULL` equals nothing. -/
def sqlEq : Json → Json → Bool
  | .num m, .num n => m = n
  | .float s, .float t => s = t
  | .str s, .str t => s = t
  | _, _ => false

/-- What a column can hold: `NULL`, an integer, a real or a text. -/
def IsColumnValue : Json → Prop
  | .null | .num _ | .float _ | .str _ => True
  | _ => False

/-- A table: its columns, and those of its `PRIMARY KEY` and of each `UNIQUE` constraint. -/
structure TableDef where
  name : String
  columns : List String
  uniqueKeys : List (List String)
  nodup : columns.Nodup

/-- The rows agree on a unique key. -/
def TableDef.clash (td : TableDef) (r r' : Row) : Bool :=
  td.uniqueKeys.any fun key => key.all fun c =>
    match r.get? c, r'.get? c with
    | some v, some w => sqlEq v w
    | _, _ => false

/-- The row has the columns of the table, with values that a column can hold. -/
structure TableDef.IsRow (td : TableDef) (r : Row) : Prop where
  columns : r.map Prod.fst = td.columns
  values : ∀ f ∈ r, IsColumnValue f.2

/-- The tables of a database. -/
structure DbSchema where
  tables : List TableDef
  nodup : (tables.map TableDef.name).Nodup

/-- `CREATE TABLE settings (key TEXT PRIMARY KEY, value TEXT NOT NULL)`. -/
def settingsTable : TableDef where
  name := "settings"
  columns := ["key", "value"]
  uniqueKeys := [["key"]]
  nodup := by decide

/-- A statement has left these rows in the table, and the others as they were. -/
structure Writes (eng : Engine β δ) (Fits : δ → Prop) (d d' : δ) (t : String)
    (rows : List Row) : Prop where
  fits : Fits d'
  rows : (eng.select d' t).Perm rows
  others : ∀ t', t' ≠ t → eng.select d' t' = eng.select d t'

/-- The statements of the backup service on the databases of a schema, which are the stores that
`Fits` holds of.  `Held td r` says that the row stays as it is when it goes into the table, as
every row that comes from it does: no value is converted, defaulted or refused.  A `TEXT` column
takes any text. -/
structure Engine.Relational (eng : Engine β δ) (schema : DbSchema) (Fits : δ → Prop)
    (Held : TableDef → Row → Prop) : Prop where
  tables : ∀ {d}, Fits d → eng.tables d = schema.tables.map TableDef.name
  columns : ∀ {d}, Fits d → ∀ td ∈ schema.tables, eng.columns d td.name = td.columns
  isRow : ∀ {d}, Fits d → ∀ td ∈ schema.tables, ∀ r ∈ eng.select d td.name, td.IsRow r
  held : ∀ {d}, Fits d → ∀ td ∈ schema.tables, ∀ r ∈ eng.select d td.name, Held td r
  unique : ∀ {d}, Fits d → ∀ td ∈ schema.tables,
    (eng.select d td.name).Pairwise fun r r' => td.clash r' r = false
  truncate : ∀ {d d' td}, Fits d → td ∈ schema.tables →
    eng.truncate d td.name = .ok d' → Writes eng Fits d d' td.name []
  insert : ∀ {d d' td new}, Fits d → td ∈ schema.tables →
    (∀ r ∈ new, td.IsRow r ∧ Held td r) →
    eng.insert d td.name td.columns (new.map fun r => r.map Prod.snd) = .ok d' →
      Writes eng Fits d d' td.name (Rows.replaceAll td.clash (eng.select d td.name) new)
  log : ∀ {d d' r}, Fits d → eng.log d r = .ok d' → Fits d'
  checkpoint : ∀ {d} done, Fits d → Fits (eng.checkpoint done d)
  text : ∀ {r} s, Held settingsTable r → Held settingsTable (r.set "value" (.str s))

/-- A row is read by its columns, in their order. -/
lemma map_get?_eq {r : Row} (h : (r.map Prod.fst).Nodup) :
    ((r.map Prod.fst).map fun c => (Dict.get? r c).getD .null) = r.map Prod.snd := by
  induction r with
  | nil => rfl
  | cons f r ih =>
      obtain ⟨hf, hr⟩ := List.nodup_cons.mp h
      rw [List.map_cons, List.map_cons, List.map_cons, ← ih hr]
      refine congrArg₂ List.cons (by simp [Dict.get?]) (List.map_congr_left fun c hc => ?_)
      have hne : f.1 ≠ c := fun heq => hf (heq ▸ hc)
      simp [Dict.get?, hne]

lemma TableDef.IsRow.values_eq {td : TableDef} {r : Row} (h : td.IsRow r) :
    (td.columns.map fun c => (Dict.get? r c).getD .null) = r.map Prod.snd := by
  rw [← h.columns]
  exact map_get?_eq (h.columns ▸ td.nodup)

lemma mapM_obj (rows : List Row) :
    ((rows.map Json.obj).mapM fun r => match r with | .obj r => some r | _ => none)
      = some rows := by
  induction rows with
  | nil => rfl
  | cons r rows ih => simp [ih]

/-! ### The loop over `db_data` -/

section Loop

variable {eng : Engine β δ} {schema : DbSchema} {Fits : δ → Prop}
  {Held : TableDef → Row → Prop} (hrel : eng.Relational schema Fits Held)

include hrel

/-- `insert_rows` of rows of the table, into a store of the schema. -/
lemma insertRows_writes {d d' : δ} (hd : Fits d) {td : TableDef}
    (htd : td ∈ schema.tables) {rows : List Row} (hne : rows ≠ [])
    (hrows : ∀ r ∈ rows, td.IsRow r ∧ Held td r)
    (h : insertRows eng d td.name (rows.map .obj) = .ok d') :
    Writes eng Fits d d' td.name (Rows.replaceAll td.clash (eng.select d td.name) rows) := by
  obtain ⟨r, rest, rfl⟩ := List.exists_cons_of_ne_nil hne
  have haligned : (r.map Prod.fst).filter (fun c => (eng.columns d td.name).contains c)
      = td.columns := by
    rw [hrel.columns hd td htd, (hrows r List.mem_cons_self).1.columns]
    exact List.filter_eq_self.mpr fun c hc => by simpa using hc
  have hvalues : (r :: rest).map (fun r => td.columns.map fun c => (Dict.get? r c).getD .null)
      = (r :: rest).map fun r => r.map Prod.snd :=
    List.map_congr_left fun r hr => (hrows r hr).1.values_eq
  rw [List.map_cons, insertRows] at h
  simp only [haligned, ← List.map_cons] at h
  split at h
  · next rs hrs =>
      obtain rfl : r :: rest = rs := Option.some.inj ((mapM_obj (r :: rest)).symm.trans hrs)
      rw [hvalues] at h
      exact hrel.insert hd htd hrows h
  · cases h

/-- One round: the table is emptied, and takes the rows of the archive. -/
lemma restoreTable_writes {d d' : δ} (hd : Fits d) {td : TableDef}
    (htd : td ∈ schema.tables) {rows : List Row} (hrows : ∀ r ∈ rows, td.IsRow r ∧ Held td r)
    (huniq : rows.Pairwise fun r r' => td.clash r' r = false)
    (h : restoreTable eng (schema.tables.map TableDef.name) d
      (td.name, .arr (rows.map .obj)) = .ok d') :
    Writes eng Fits d d' td.name rows := by
  have hmem : (schema.tables.map TableDef.name).contains td.name = true := by
    simpa using ⟨td, htd, rfl⟩
  rw [restoreTable, hmem] at h
  simp only [Bool.not_true, Bool.false_eq_true, if_false] at h
  cases htr : eng.truncate d td.name with
  | error e => simp [htr] at h
  | ok d₁ =>
      have hempty := hrel.truncate hd htd htr
      rw [htr] at h
      cases rows with
      | nil =>
          cases h
          exact hempty
      | cons r rest =>
          have hins := insertRows_writes hrel hempty.fits htd (List.cons_ne_nil r rest) hrows h
          refine ⟨hins.fits, ?_, fun t' ht' => (hins.others t' ht').trans (hempty.others t' ht')⟩
          rw [List.Perm.eq_nil hempty.rows, Rows.replaceAll_nil huniq] at hins
          exact hins.rows

/-- The whole loop: every table that the archive carries holds the rows of the archive. -/
theorem foldlM_restoreTable {content : TableDef → List Row}
    (hrows : ∀ td ∈ schema.tables, ∀ r ∈ content td, td.IsRow r ∧ Held td r)
    (huniq : ∀ td ∈ schema.tables,
      (content td).Pairwise fun r r' => td.clash r' r = false)
    {tds : List TableDef} (hsub : ∀ td ∈ tds, td ∈ schema.tables)
    (hnodup : (tds.map TableDef.name).Nodup) {d d' : δ} (hd : Fits d)
    (h : (tds.map fun td => (td.name, Json.arr ((content td).map .obj))).foldlM
      (restoreTable eng (schema.tables.map TableDef.name)) d = .ok d') :
    Fits d' ∧ (∀ td ∈ tds, (eng.select d' td.name).Perm (content td)) ∧
      ∀ t, t ∉ tds.map TableDef.name → eng.select d' t = eng.select d t := by
  induction tds generalizing d with
  | nil =>
      cases h
      exact ⟨hd, by simp, fun _ _ => rfl⟩
  | cons td tds ih =>
      obtain ⟨htd, hnodup'⟩ := List.nodup_cons.mp hnodup
      have hmem := hsub td List.mem_cons_self
      rw [List.map_cons, List.foldlM_cons] at h
      cases hround : restoreTable eng (schema.tables.map TableDef.name) d
          (td.name, .arr ((content td).map .obj)) with
      | error e =>
          rw [hround] at h
          cases h
      | ok d₁ =>
          rw [hround] at h
          have hw := restoreTable_writes hrel hd hmem (hrows td hmem) (huniq td hmem) hround
          obtain ⟨hfits, hin, hout⟩ :=
            ih (fun td' h' => hsub td' (List.mem_cons_of_mem _ h')) hnodup' hw.fits h
          refine ⟨hfits, List.forall_mem_cons.mpr ⟨?_, hin⟩, fun t ht => ?_⟩
          · rw [hout td.name htd]
            exact hw.rows
          · rw [List.map_cons, List.mem_cons, not_or] at ht
            exact (hout t ht.2).trans (hw.others t ht.1)

end Loop

/-! ### The loop over the preserved secrets -/

/-- The value of a settings row is not empty. -/
def hasValue (r : Row) : Bool := ((r.get? "value").map Json.truthy).getD false

/-- The row that puts a secret back. -/
def secretRow (secret : String × Json) : Row := [("key", .str secret.1), ("value", secret.2)]

/-- One of the rows has the key of `r` and a value. -/
def covered (rows : List Row) (r : Row) : Bool :=
  rows.any fun a => settingsTable.clash r a && hasValue a

/-- Of the rows, the sensitive settings with a value. -/
def ownSecrets (rows : List Row) : List Row := rows.filter fun r => isSensitive r && hasValue r

/-- The settings that a restore keeps: sensitive ones with a value, where the archive has none. -/
def keptSettings (archived own : List Row) : List Row :=
  (ownSecrets own).filter fun r => !covered archived r

lemma exists_of_isRow {r : Row} (h : settingsTable.IsRow r) :
    ∃ k v, r = [("key", k), ("value", v)] ∧ IsColumnValue k := by
  have hcols := h.columns
  match r, hcols with
  | [(c, k), (c', v)], hcols =>
      simp only [settingsTable, List.map_cons, List.map_nil, List.cons.injEq, and_true] at hcols
      obtain ⟨rfl, rfl⟩ := hcols
      exact ⟨k, v, rfl, h.values _ List.mem_cons_self⟩

lemma clash_settings (k k' v v' : Json) :
    settingsTable.clash [("key", k), ("value", v)] [("key", k'), ("value", v')] = sqlEq k k' := by
  simp [settingsTable, TableDef.clash, Dict.get?]

@[simp] lemma sqlEq_str_iff {s : String} {j : Json} : sqlEq (.str s) j = true ↔ j = .str s := by
  cases j <;> simp [sqlEq, eq_comm]

lemma isSensitive_settings (k v : Json) :
    isSensitive [("key", k), ("value", v)] = sensitiveSettingKeys.any fun s => k.isStr s := by
  simp [isSensitive, Dict.get?]

lemma hasValue_settings (k v : Json) : hasValue [("key", k), ("value", v)] = v.truthy := by
  simp [hasValue, Dict.get?]

lemma set_of_fresh {d : Dict} {k : String} (h : ∀ f ∈ d, f.1 ≠ k) (v : Json) :
    d.set k v = d ++ [(k, v)] := by
  induction d with
  | nil => rfl
  | cons f d ih =>
      obtain ⟨hf, hd⟩ := List.forall_mem_cons.mp h
      rw [Dict.set, if_neg hf, ih hd, List.cons_append]

/-- One round of the loop that captures the secrets. -/
def collectSecret (secrets : Dict) (row : Row) : Dict :=
  match row.get? "key", row.get? "value" with
  | some (.str k), some v =>
    if sensitiveSettingKeys.contains k && v.truthy then secrets.set k v else secrets
  | _, _ => secrets

lemma preservedSecrets_eq (eng : Engine β δ) (d : δ) :
    preservedSecrets eng d = (eng.select d "settings").foldl collectSecret [] := rfl

/-- A round adds the row if it is one to keep, whose key is not there yet. -/
lemma collectSecret_eq {acc : Dict} {r : Row} (hr : settingsTable.IsRow r)
    (hacc : ∀ s ∈ acc, settingsTable.clash r (secretRow s) = false) :
    (isSensitive r && hasValue r) = false ∧ collectSecret acc r = acc
      ∨ (isSensitive r && hasValue r) = true ∧
        ∃ s, secretRow s = r ∧ collectSecret acc r = acc ++ [s] := by
  obtain ⟨k, v, rfl, hk⟩ := exists_of_isRow hr
  rw [isSensitive_settings, hasValue_settings]
  cases k with
  | str k =>
      have hcollect : collectSecret acc [("key", .str k), ("value", v)]
          = if sensitiveSettingKeys.contains k && v.truthy then acc.set k v else acc := rfl
      have hsens : (sensitiveSettingKeys.any fun s => (Json.str k).isStr s)
          = sensitiveSettingKeys.contains k := by
        simp [sensitiveSettingKeys, Json.isStr]
      rw [hsens, hcollect]
      cases hkeep : sensitiveSettingKeys.contains k && v.truthy with
      | false => exact .inl ⟨rfl, rfl⟩
      | true =>
          refine .inr ⟨rfl, (k, v), rfl, ?_⟩
          rw [if_pos rfl, set_of_fresh]
          intro s hs heq
          have hno := hacc s hs
          rw [secretRow, clash_settings, ← heq] at hno
          exact absurd hno (by simp)
  | null => exact .inl ⟨rfl, rfl⟩
  | bool b => exact hk.elim
  | num n => exact .inl ⟨rfl, rfl⟩
  | float x => exact .inl ⟨rfl, rfl⟩
  | arr items => exact hk.elim
  | obj fields => exact hk.elim

/-- The preserved secrets are the sensitive settings with a value. -/
lemma map_preservedSecrets {eng : Engine β δ} {d : δ}
    (hrows : ∀ r ∈ eng.select d "settings", settingsTable.IsRow r)
    (huniq : (eng.select d "settings").Pairwise fun r r' => settingsTable.clash r' r = false) :
    (preservedSecrets eng d).map secretRow = ownSecrets (eng.select d "settings") := by
  -- the rows still to come clash with none of the secrets collected so far
  have hloop : ∀ (rows : List Row) (acc : Dict), (∀ r ∈ rows, settingsTable.IsRow r) →
      (rows.Pairwise fun r r' => settingsTable.clash r' r = false) →
      (∀ s ∈ acc, ∀ r ∈ rows, settingsTable.clash r (secretRow s) = false) →
      (rows.foldl collectSecret acc).map secretRow = acc.map secretRow ++ ownSecrets rows := by
    intro rows
    induction rows with
    | nil => simp [ownSecrets]
    | cons r rows ih =>
        intro acc hr hp hacc
        obtain ⟨hr₁, hrest⟩ := List.forall_mem_cons.mp hr
        obtain ⟨hp₁, hprest⟩ := List.pairwise_cons.mp hp
        have hacc' : ∀ s ∈ acc, ∀ r ∈ rows, settingsTable.clash r (secretRow s) = false :=
          fun s hs r h => hacc s hs r (List.mem_cons_of_mem _ h)
        rw [List.foldl_cons, ownSecrets, List.filter_cons]
        rcases collectSecret_eq hr₁ fun s hs => hacc s hs r List.mem_cons_self with
          ⟨hno, heq⟩ | ⟨hyes, s, hs, heq⟩
        · rw [hno, heq]
          exact ih acc hrest hprest hacc'
        · have hnext := ih (acc ++ [s]) hrest hprest fun s' hs' r' h' => by
            rcases List.mem_append.mp hs' with hs' | hs'
            · exact hacc' s' hs' r' h'
            · rw [List.mem_singleton.mp hs', hs]
              exact hp₁ r' h'
          rw [heq, hnext, hyes, List.map_append, List.append_assoc, List.map_singleton, hs]
          rfl
  rw [preservedSecrets_eq]
  exact hloop _ [] hrows huniq (by simp)

/-- `get_setting` of a key with one row. -/
lemma storedSetting_truthy {eng : Engine β δ} {d : δ}
    (hrows : ∀ r ∈ eng.select d "settings", settingsTable.IsRow r)
    (huniq : (eng.select d "settings").Pairwise fun r r' => settingsTable.clash r' r = false)
    (s : String × Json) :
    ((storedSetting eng d s.1).map Json.truthy).getD false
      = covered (eng.select d "settings") (secretRow s) := by
  rw [storedSetting, covered]
  generalize eng.select d "settings" = rows at hrows huniq ⊢
  induction rows with
  | nil => rfl
  | cons r rows ih =>
      obtain ⟨hr, hrest⟩ := List.forall_mem_cons.mp hrows
      obtain ⟨hp, hprest⟩ := List.pairwise_cons.mp huniq
      obtain ⟨k, v, rfl, -⟩ := exists_of_isRow hr
      have hclash : settingsTable.clash (secretRow s) [("key", k), ("value", v)] = k.isStr s.1 := by
        rw [secretRow, clash_settings, Bool.eq_iff_iff, sqlEq_str_iff, Json.isStr_iff]
      have hkey : ((Dict.get? [("key", k), ("value", v)] "key").map fun w => w.isStr s.1).getD false
          = k.isStr s.1 := by
        simp [Dict.get?]
      rw [List.find?_cons, List.any_cons, hkey, hclash, hasValue_settings]
      cases hk : k.isStr s.1 with
      | false =>
          rw [Bool.false_and, Bool.false_or]
          exact ih hrest hprest
      | true =>
          -- no other row has the key
          have hother : rows.any (fun a => settingsTable.clash (secretRow s) a && hasValue a)
              = false := by
            rw [List.any_eq_false]
            intro a ha hyes
            obtain ⟨k', v', rfl, -⟩ := exists_of_isRow (hrest a ha)
            have hno := hp _ ha
            rw [Bool.and_eq_true, secretRow, clash_settings, sqlEq_str_iff] at hyes
            rw [clash_settings, hyes.1, Json.isStr_iff.mp hk] at hno
            exact absurd hno (by simp)
          rw [hother, Bool.or_false, Bool.true_and]
          simp [Dict.get?]

/-- A secret that goes in covers no other key, and uncovers none. -/
lemma covered_replaceInto {rows : List Row} (hrows : ∀ r ∈ rows, settingsTable.IsRow r)
    {s s' : String × Json} (hne : settingsTable.clash (secretRow s') (secretRow s) = false) :
    covered (Rows.replaceInto settingsTable.clash rows (secretRow s)) (secretRow s')
      = covered rows (secretRow s') := by
  rw [covered, covered, Rows.replaceInto, List.any_append, List.any_filter]
  have hlast : [secretRow s].any (fun a => settingsTable.clash (secretRow s') a && hasValue a)
      = false := by
    simp [hne]
  rw [hlast, Bool.or_false, Bool.eq_iff_iff, List.any_eq_true, List.any_eq_true]
  refine exists_congr fun a => and_congr_right fun ha => ?_
  rw [Bool.and_eq_true, and_iff_right_iff_imp]
  intro hyes
  by_contra hout
  obtain ⟨k, v, rfl, -⟩ := exists_of_isRow (hrows a ha)
  rw [Bool.and_eq_true, secretRow, clash_settings, sqlEq_str_iff] at hyes
  rw [Bool.not_eq_true', Bool.not_eq_false, secretRow, clash_settings, sqlEq_str_iff] at hout
  rw [secretRow, secretRow, clash_settings, hout.symm.trans hyes.1] at hne
  exact absurd hne (by simp)

/-- The whole loop: the secrets whose key the table has no value for replace what is there. -/
theorem foldlM_restoreSecret {eng : Engine β δ} {schema : DbSchema} {Fits : δ → Prop}
    {Held : TableDef → Row → Prop} (hrel : eng.Relational schema Fits Held)
    (hset : settingsTable ∈ schema.tables) {secrets : Dict}
    (hrow : ∀ s ∈ secrets, settingsTable.IsRow (secretRow s) ∧ Held settingsTable (secretRow s))
    (huniq : (secrets.map secretRow).Pairwise fun r r' => settingsTable.clash r' r = false)
    {d d' : δ} (hd : Fits d)
    (h : secrets.foldlM (restoreSecret eng) d = .ok d') :
    (eng.select d' "settings").Perm (Rows.replaceAll settingsTable.clash
        (eng.select d "settings")
        ((secrets.map secretRow).filter fun r => !covered (eng.select d "settings") r))
      ∧ ∀ t, t ≠ "settings" → eng.select d' t = eng.select d t := by
  induction secrets generalizing d with
  | nil =>
      cases h
      exact ⟨.refl _, fun _ _ => rfl⟩
  | cons s secrets ih =>
      obtain ⟨hs, hrest⟩ := List.forall_mem_cons.mp hrow
      have hrows : ∀ r ∈ eng.select d "settings", settingsTable.IsRow r := hrel.isRow hd _ hset
      rw [List.map_cons, List.pairwise_cons] at huniq
      rw [List.foldlM_cons, restoreSecret,
        storedSetting_truthy hrows (hrel.unique hd _ hset) s] at h
      rw [List.map_cons, List.filter_cons]
      cases hcov : covered (eng.select d "settings") (secretRow s) with
      | true =>
          rw [hcov] at h
          exact ih hrest huniq.2 hd h
      | false =>
          rw [hcov, if_neg Bool.false_ne_true] at h
          cases hins : eng.insert d "settings" ["key", "value"] [[.str s.1, s.2]] with
          | error e =>
              rw [hins] at h
              cases h
          | ok d₁ =>
              rw [hins] at h
              have hrow : eng.insert d settingsTable.name settingsTable.columns
                  ([secretRow s].map fun r => r.map Prod.snd) = .ok d₁ := hins
              have hw := hrel.insert hd hset (fun r hr => List.mem_singleton.mp hr ▸ hs) hrow
              obtain ⟨hperm, hothers⟩ := ih hrest huniq.2 hw.fits h
              have hsame : (secrets.map secretRow).filter
                    (fun r => !covered (eng.select d₁ "settings") r)
                  = (secrets.map secretRow).filter
                    (fun r => !covered (eng.select d "settings") r) := by
                refine List.filter_congr fun r hr => ?_
                obtain ⟨s', -, rfl⟩ := List.mem_map.mp hr
                have hany : covered (eng.select d₁ "settings") (secretRow s')
                    = covered (Rows.replaceInto settingsTable.clash (eng.select d "settings")
                        (secretRow s)) (secretRow s') := hw.rows.any_eq
                rw [hany, covered_replaceInto hrows (huniq.1 _ hr)]
              refine ⟨?_, fun t ht => (hothers t ht).trans (hw.others t ht)⟩
              rw [hsame] at hperm
              exact hperm.trans (Rows.perm_replaceAll hw.rows _)

end V2raySub
