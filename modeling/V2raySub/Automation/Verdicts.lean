import V2raySub.Automation.CalmScan
import V2raySub.User.Coherence

/-!
What a discovery records about its sources (`run_scan`, after the import): one
`update_source_metadata` for each, with the tallies kept by name.

* `bookkeep`: the loop over the sources, on the table; `each_updateSourceMetadata` says that this
  is what the scan does where nothing raises.
* `OwnVerdicts`: every scanned row has got its own verdict, and the counts add up.
* `get_bookkeep_of_alone`, `get_bookkeep_of_shadowed`: what the loop leaves of a row that has its
  name alone, and of one whose name another row is fetched for.
* `own_verdicts_iff`: each source gets its own verdict **exactly if no row of the table shares the
  name of a scanned one**, and none that gave a working config has an empty name.
-/

namespace V2raySub

open MetricsRecorder AutomationService

/-! ### The loop -/

/-- One `update_source_metadata` for each source. -/
def bookkeep (fetch : ℕ → Fetch (ℕ × SourceRow)) (startedAt : Stamp) (tallies : Tallies) :
    List SourceEntry → AutoTable SourceRow → AutoTable SourceRow
  | [], t => t
  | s :: sources, t =>
    bookkeep (fun n => fetch (n + 1)) startedAt tallies sources
      (MetricsRecorder.updateSourceMetadata (fetch 0) startedAt s.name (reason tallies s.name) t)

/-- A call of `update_source_metadata` where nothing raises. -/
lemma updateSourceMetadata_of_calm {env : Env} (hc : Calm env) (name : String)
    (error : Option String) (w : World) :
    AutomationService.updateSourceMetadata env name error w
      = (.ok (), { w with
          ops := w.ops + 4
          db := { w.db with
            autoSources := MetricsRecorder.updateSourceMetadata (env.sourceFetch (w.ops + 2))
              env.startedAt name error w.db.autoSources } }) := by
  have hop := op_of_calm hc
  -- the `try` block: the `SELECT`, and the `UPDATE` with its commit
  have hwork : ∀ w : World, (do
      op env
      let w ← Prog.state
      commit env fun db =>
        { db with
          autoSources := MetricsRecorder.updateSourceMetadata (env.sourceFetch w.ops)
            env.startedAt name error db.autoSources } : Run Unit) w
      = (.ok (), { w with
          ops := w.ops + 2
          db := { w.db with
            autoSources := MetricsRecorder.updateSourceMetadata (env.sourceFetch (w.ops + 1))
              env.startedAt name error w.db.autoSources } }) := by
    intro w
    have hstate : ∀ w : World, (Prog.state : Run World) w = (.ok w, w) := fun _ => rfl
    rw [Prog.bind_of_ok (hop w), Prog.bind_of_ok (hstate _), commit, Prog.bind_of_ok (hop _)]
    rfl
  rw [AutomationService.updateSourceMetadata, session, Prog.bind_of_ok (hop w), Prog.always,
    Prog.handle_of_ok (hwork _), hop]

/-- Where nothing raises, the scan leaves of the table of sources what the loop does. -/
lemma each_updateSourceMetadata {env : Env} (hc : Calm env) (tallies : Tallies)
    (sources : List SourceEntry) (w : World) :
    ∃ w', Prog.each sources (fun s => AutomationService.updateSourceMetadata env s.name
        (reason tallies s.name)) w = (.ok (), w')
      ∧ w'.db = { w.db with
          autoSources := bookkeep (fun n => env.sourceFetch (w.ops + 2 + 4 * n)) env.startedAt
            tallies sources w.db.autoSources } := by
  induction sources generalizing w with
  | nil => exact ⟨w, rfl, rfl⟩
  | cons s sources ih =>
      obtain ⟨w', hrun, hdb⟩ := ih { w with
        ops := w.ops + 4
        db := { w.db with
          autoSources := MetricsRecorder.updateSourceMetadata (env.sourceFetch (w.ops + 2))
            env.startedAt s.name (reason tallies s.name) w.db.autoSources } }
      refine ⟨w', ?_, ?_⟩
      · rw [Prog.each, Prog.bind_of_ok (updateSourceMetadata_of_calm hc _ _ w)]
        exact hrun
      · rw [hdb]
        have hshift : (fun n => env.sourceFetch (w.ops + 4 + 2 + 4 * n))
            = fun n => env.sourceFetch (w.ops + 2 + 4 * (n + 1)) := by
          funext n
          congr 1
          omega
        simp only [bookkeep, hshift, Nat.mul_zero, Nat.add_zero]

/-! ### The verdicts -/

/-- The rows of the table that a run scans: the enabled ones, or the one that is tested. -/
def scannedRows (sourceId : Option ℕ) (t : AutoTable SourceRow) : List (ℕ × SourceRow) :=
  t.rows.filter fun r => sourceId.elim r.2.isEnabled fun i => r.1 = i

/-- A row as the engine is given it. -/
def sourceEntry (r : ℕ × SourceRow) : SourceEntry := ⟨r.2.name, r.2.url, r.2.priority⟩

lemma sourcesOf_eq (sourceId : Option ℕ) (db : PanelDb) :
    sourcesOf sourceId db = (scannedRows sourceId db.autoSources).map sourceEntry := rfl

/-- A result, with the id of the source that it came from. -/
abbrev Origin := ℕ × ProbeResult

/-- The results come from scanned rows and carry their names. -/
def FromScanned (sourceId : Option ℕ) (t : AutoTable SourceRow) (results : List Origin) : Prop :=
  ∀ x ∈ results, ∃ r ∈ scannedRows sourceId t, r.1 = x.1 ∧ x.2.source = r.2.name

/-- A config of the source was reachable. -/
def reached (results : List Origin) (i : ℕ) : Bool := results.any fun x => x.1 = i && x.2.ok

/-- The tallies of the results. -/
def talliesOf (results : List Origin) : Tallies := tally (results.map Prod.snd)

/-- The verdicts on the table `t'` that is left of `t`, with the counts of the run. -/
structure OwnVerdicts (sourceId : Option ℕ) (startedAt : Stamp) (results : List Origin)
    (t t' : AutoTable SourceRow) (totalSources successfulSources failedSources : ℤ) : Prop where
  scanned : ∀ r ∈ scannedRows sourceId t, ∃ row, t'.get r.1 = some row
    ∧ row.lastScan = some startedAt
    ∧ row.failureCount
      = some (if reached results r.1 then 0 else r.2.failureCount.getD 0 + 1)
  others : ∀ i, (∀ r ∈ scannedRows sourceId t, r.1 ≠ i) → t'.get i = t.get i
  total : totalSources = (scannedRows sourceId t).length
    ∧ successfulSources + failedSources = totalSources
  successful : successfulSources
    = ((scannedRows sourceId t).filter fun r => reached results r.1).length

/-- The bookkeeping of a discovery gives each source its own verdict, whenever it started and
whichever row a `SELECT` hands back. -/
def GivesOwnVerdicts (sourceId : Option ℕ) (t : AutoTable SourceRow) (results : List Origin) :
    Prop :=
  ∀ (fetch : ℕ → Fetch (ℕ × SourceRow)) (startedAt : Stamp),
    let sources := (scannedRows sourceId t).map sourceEntry
    let tallies := talliesOf results
    OwnVerdicts sourceId startedAt results t (bookkeep fetch startedAt tallies sources t)
      sources.length tallies.successfulSources.length
      ((sources.length : ℤ) - tallies.successfulSources.length)

/-- The names tell the scanned rows apart, from each other and from the others, and a row that gave
a working config has one. -/
structure Distinguished (sourceId : Option ℕ) (t : AutoTable SourceRow) (results : List Origin) :
    Prop where
  alone : ∀ r ∈ scannedRows sourceId t, ∀ r' ∈ t.rows, r'.2.name = r.2.name → r' = r
  named : ∀ r ∈ scannedRows sourceId t, reached results r.1 = true → r.2.name ≠ ""

/-! ### The tallies -/

lemma mem_successfulSources_tallyOne {t : Tallies} {r : ProbeResult} {name : String} :
    name ∈ (tallyOne t r).successfulSources
      ↔ name ∈ t.successfulSources ∨ r.source = name ∧ name ≠ "" ∧ r.ok = true := by
  rw [tallyOne]
  by_cases hempty : r.source = ""
  · rw [if_pos hempty]
    refine (or_iff_left ?_).symm
    rintro ⟨rfl, hne, -⟩
    exact hne hempty
  · rw [if_neg hempty]
    cases hok : r.ok with
    | false => simp
    | true =>
        simp only [if_true, List.mem_insert_iff, and_true]
        constructor
        · rintro (rfl | h)
          · exact .inr ⟨rfl, hempty⟩
          · exact .inl h
        · rintro (h | ⟨rfl, -⟩)
          · exact .inr h
          · exact .inl rfl

lemma nodup_successfulSources_tallyOne {t : Tallies} (h : t.successfulSources.Nodup)
    (r : ProbeResult) : (tallyOne t r).successfulSources.Nodup := by
  rw [tallyOne]
  split_ifs
  · exact h
  · exact h.insert
  · exact h

/-- The names of the sources that gave a working config. -/
lemma mem_successfulSources {results : List ProbeResult} {name : String} :
    name ∈ (tally results).successfulSources
      ↔ name ≠ "" ∧ ∃ r ∈ results, r.source = name ∧ r.ok = true := by
  have hfold : ∀ t : Tallies, name ∈ (results.foldl tallyOne t).successfulSources
      ↔ name ∈ t.successfulSources ∨ name ≠ "" ∧ ∃ r ∈ results, r.source = name ∧ r.ok = true := by
    induction results with
    | nil => simp
    | cons r results ih =>
        intro t
        rw [List.foldl_cons, ih, mem_successfulSources_tallyOne, List.exists_mem_cons_iff]
        tauto
  rw [tally, hfold]
  simp

lemma nodup_successfulSources (results : List ProbeResult) :
    (tally results).successfulSources.Nodup := by
  have hfold : ∀ t : Tallies, t.successfulSources.Nodup →
      (results.foldl tallyOne t).successfulSources.Nodup := by
    induction results with
    | nil => exact fun _ h => h
    | cons r results ih => exact fun t h => ih _ (nodup_successfulSources_tallyOne h r)
  exact hfold _ List.nodup_nil

lemma reason_eq_none_iff {t : Tallies} {name : String} :
    reason t name = none ↔ name ∈ t.successfulSources := by
  rw [reason]
  by_cases h : name ∈ t.successfulSources
  · rw [if_pos h]
    exact iff_of_true rfl h
  · rw [if_neg h]
    exact iff_of_false (Option.some_ne_none _) h

/-! ### What the loop leaves of a row -/

@[simp] lemma name_recordVerdict (startedAt : Stamp) (error : Option String) (r : SourceRow) :
    (recordVerdict startedAt error r).name = r.name := by
  cases error <;> rfl

lemma lastScan_recordVerdict (startedAt : Stamp) (error : Option String) (r : SourceRow) :
    (recordVerdict startedAt error r).lastScan = some startedAt := by
  cases error <;> rfl

lemma failureCount_recordVerdict (startedAt : Stamp) (error : Option String) (r : SourceRow) :
    (recordVerdict startedAt error r).failureCount
      = some (if error = none then 0 else r.failureCount.getD 0 + 1) := by
  cases error <;> rfl

/-- The row that is found for a name that a row has, has that name too. -/
lemma sourceNamed_of_name (fetch : Fetch (ℕ × SourceRow)) {t : AutoTable SourceRow}
    {name : String} {i : ℕ} {a : SourceRow} (ha : (i, a) ∈ t.rows) (hname : a.name = name) :
    ∃ r, sourceNamed fetch t name = some r ∧ r ∈ t.rows ∧ r.2.name = name := by
  have hmem : (i, a) ∈ t.rows.filter fun r => r.2.name = name :=
    List.mem_filter.mpr ⟨ha, decide_eq_true hname⟩
  obtain ⟨r, hr⟩ := Option.isSome_iff_exists.mp (fetch.total _ (List.ne_nil_of_mem hmem))
  obtain ⟨hrow, hrname⟩ := List.mem_filter.mp (fetch.mem _ _ hr)
  exact ⟨r, by rw [sourceNamed, hr]; rfl, hrow, of_decide_eq_true hrname⟩

/-- An update keeps the names. -/
lemma name_updateSourceMetadata (fetch : Fetch (ℕ × SourceRow)) (startedAt : Stamp)
    (name : String) (error : Option String) (t : AutoTable SourceRow) (i : ℕ) :
    ((MetricsRecorder.updateSourceMetadata fetch startedAt name error t).get i).map SourceRow.name
      = (t.get i).map SourceRow.name := by
  rw [MetricsRecorder.updateSourceMetadata]
  split
  · rfl
  next r _ =>
    rw [AutoTable.get_set]
    split_ifs
    · rw [Option.map_map]
      congr 1
      funext a
      exact name_recordVerdict _ _ _
    · rfl

/-- The name is the row's alone. -/
def Alone (t : AutoTable SourceRow) (i : ℕ) (name : String) : Prop :=
  ∀ j, (t.get j).map SourceRow.name = some name → j = i

/-- Where the rows of the sources have their names alone, each gets the verdict on its name, and
the others stay. -/
lemma get_bookkeep_of_alone (tallies : Tallies) (startedAt : Stamp)
    {rows : List (ℕ × SourceRow)} (hids : (rows.map Prod.fst).Nodup)
    {fetch : ℕ → Fetch (ℕ × SourceRow)}
    {t : AutoTable SourceRow} (hrows : ∀ r ∈ rows, t.get r.1 = some r.2)
    (halone : ∀ r ∈ rows, Alone t r.1 r.2.name) :
    (∀ r ∈ rows, (bookkeep fetch startedAt tallies (rows.map sourceEntry) t).get r.1
        = some (recordVerdict startedAt (reason tallies r.2.name) r.2))
      ∧ ∀ i, (∀ r ∈ rows, r.1 ≠ i) →
        (bookkeep fetch startedAt tallies (rows.map sourceEntry) t).get i = t.get i := by
  induction rows generalizing fetch t with
  | nil => exact ⟨by simp, fun _ _ => rfl⟩
  | cons s rows ih =>
      obtain ⟨hs, hids⟩ := List.nodup_cons.mp hids
      obtain ⟨hrow, hrows⟩ := List.forall_mem_cons.mp hrows
      obtain ⟨haloneS, halone⟩ := List.forall_mem_cons.mp halone
      set t₁ := MetricsRecorder.updateSourceMetadata (fetch 0) startedAt s.2.name
        (reason tallies s.2.name) t with ht₁
      have hset : t₁ = t.set s.1 (recordVerdict startedAt (reason tallies s.2.name)) := by
        obtain ⟨r, hfound, hr, hname⟩ := sourceNamed_of_name (fetch 0)
          (AutoTable.get_eq_some_iff.mp hrow) rfl
        have hid : r.1 = s.1 := haloneS r.1 (by
          rw [AutoTable.get_eq_some_iff.mpr hr, Option.map_some, hname])
        rw [ht₁, MetricsRecorder.updateSourceMetadata, hfound, ← hid]
      have hne : ∀ r ∈ rows, r.1 ≠ s.1 := fun r hr heq => hs (heq ▸ List.mem_map_of_mem hr)
      obtain ⟨hin, hout⟩ := @ih hids (fun n => fetch (n + 1)) t₁
        (fun r hr => by rw [hset, AutoTable.get_set_of_ne _ _ (hne r hr), hrows r hr])
        (fun r hr j hj => halone r hr j
          ((name_updateSourceMetadata (fetch 0) _ _ _ t j).symm.trans hj))
      refine ⟨List.forall_mem_cons.mpr ⟨?_, hin⟩, fun i hi => ?_⟩
      · refine (hout s.1 hne).trans ?_
        rw [hset, AutoTable.get_set_self, hrow, Option.map_some]
      · obtain ⟨hsi, hi⟩ := List.forall_mem_cons.mp hi
        refine (hout i hi).trans ?_
        rw [hset, AutoTable.get_set_of_ne _ _ hsi.symm]

/-- The `SELECT` that prefers the row with the id `j`. -/
def preferId (j : ℕ) (_ : ℕ) : Fetch (ℕ × SourceRow) := .prefer fun r => r.1 = j

/-- A row whose name another row has stays as it is where that one is preferred. -/
lemma get_bookkeep_of_shadowed {tallies : Tallies} {startedAt : Stamp} {i j : ℕ} (hij : i ≠ j)
    (name : String) {sources : List SourceEntry} {t : AutoTable SourceRow}
    (hi : (t.get i).map SourceRow.name = some name)
    (hj : (t.get j).map SourceRow.name = some name)
    (hsources : ∀ s ∈ sources, ∃ k, (t.get k).map SourceRow.name = some s.name) :
    (bookkeep (preferId j) startedAt tallies sources t).get i = t.get i := by
  induction sources generalizing t with
  | nil => rfl
  | cons s sources ih =>
      obtain ⟨⟨k, hk⟩, hsources⟩ := List.forall_mem_cons.mp hsources
      set t₁ := MetricsRecorder.updateSourceMetadata (preferId j 0) startedAt s.name
        (reason tallies s.name) t with ht₁
      have hnames : ∀ k, (t₁.get k).map SourceRow.name = (t.get k).map SourceRow.name :=
        name_updateSourceMetadata _ _ _ _ _
      have hnext := ih (t := t₁) (by rw [hnames, hi]) (by rw [hnames, hj]) fun s hs => by
        obtain ⟨k, hk⟩ := hsources s hs
        exact ⟨k, by rw [hnames, hk]⟩
      refine hnext.trans ?_
      obtain ⟨a, ha, hname⟩ := Option.map_eq_some_iff.mp hk
      obtain ⟨b, hb, hbname⟩ := Option.map_eq_some_iff.mp hj
      obtain ⟨r, hfound, hr, hrname⟩ := sourceNamed_of_name (preferId j 0)
        (AutoTable.get_eq_some_iff.mp ha) hname
      have hri : r.1 ≠ i := by
        by_cases hs : s.name = name
        · -- the preferred row has the name, so that it is the one that is found
          have hex : ∃ x ∈ t.rows.filter (fun r => r.2.name = s.name), (decide (x.1 = j) : Bool) :=
            ⟨(j, b), List.mem_filter.mpr ⟨AutoTable.get_eq_some_iff.mp hb,
              decide_eq_true (hbname.trans hs.symm)⟩, decide_eq_true rfl⟩
          obtain ⟨x, -, hx, hone⟩ := Fetch.one_prefer hex
          have hsame : sourceNamed (preferId j 0) t s.name = some x := by
            rw [sourceNamed, preferId, hone]
            rfl
          obtain rfl : r = x := Option.some.inj (hfound.symm.trans hsame)
          rw [of_decide_eq_true hx]
          exact hij.symm
        · rintro rfl
          rw [AutoTable.get_eq_some_iff.mpr hr, Option.map_some, hrname] at hi
          exact hs (Option.some.inj hi)
      rw [ht₁, MetricsRecorder.updateSourceMetadata, hfound]
      exact AutoTable.get_set_of_ne _ _ hri.symm

/-! ### Each its own verdict -/

section

variable {sourceId : Option ℕ} {t : AutoTable SourceRow} {results : List Origin}

lemma mem_rows_of_scanned {r : ℕ × SourceRow} (h : r ∈ scannedRows sourceId t) : r ∈ t.rows :=
  List.mem_of_mem_filter h

lemma reached_iff {i : ℕ} :
    reached results i = true ↔ ∃ x ∈ results, x.1 = i ∧ x.2.ok = true := by
  simp [reached, List.any_eq_true]

/-- The successful names are those of the scanned rows that gave a working config and have one. -/
lemma mem_successfulSources_iff (hfrom : FromScanned sourceId t results) {name : String} :
    name ∈ (talliesOf results).successfulSources
      ↔ ∃ r ∈ scannedRows sourceId t, (reached results r.1 = true ∧ r.2.name ≠ "")
        ∧ r.2.name = name := by
  rw [talliesOf, mem_successfulSources]
  constructor
  · rintro ⟨hne, _, hr, rfl, hok⟩
    obtain ⟨x, hx, rfl⟩ := List.mem_map.mp hr
    obtain ⟨r, hrow, hid, hname⟩ := hfrom x hx
    exact ⟨r, hrow, ⟨reached_iff.mpr ⟨x, hx, hid.symm, hok⟩, hname ▸ hne⟩, hname.symm⟩
  · rintro ⟨r, hrow, ⟨hreached, hne⟩, rfl⟩
    obtain ⟨x, hx, hid, hok⟩ := reached_iff.mp hreached
    obtain ⟨r', hrow', hid', hname⟩ := hfrom x hx
    have hsame : r' = r := List.inj_on_of_nodup_map t.keyed (mem_rows_of_scanned hrow')
      (mem_rows_of_scanned hrow) (hid'.trans hid)
    exact ⟨hne, x.2, List.mem_map_of_mem hx, hsame ▸ hname, hok⟩

section

variable (halone : ∀ r ∈ scannedRows sourceId t, ∀ r' ∈ t.rows, r'.2.name = r.2.name → r' = r)

include halone

lemma alone_of_scanned {r : ℕ × SourceRow} (hr : r ∈ scannedRows sourceId t) :
    Alone t r.1 r.2.name := by
  intro j hj
  obtain ⟨a, ha, hname⟩ := Option.map_eq_some_iff.mp hj
  exact congrArg Prod.fst (halone r hr (j, a) (AutoTable.get_eq_some_iff.mp ha) hname)

/-- Where the names are distinct, they count the rows that gave a working config and have one. -/
lemma length_successfulSources (hfrom : FromScanned sourceId t results) :
    (talliesOf results).successfulSources.length
      = ((scannedRows sourceId t).filter fun r => reached results r.1 ∧ r.2.name ≠ "").length := by
  have hnodup : (((scannedRows sourceId t).filter
      fun r => reached results r.1 ∧ r.2.name ≠ "").map fun r => r.2.name).Nodup := by
    refine List.Nodup.map_on (fun r hr r' hr' heq => ?_)
      ((List.Nodup.of_map _ t.keyed).filter _ |>.filter _)
    exact halone r' (List.mem_of_mem_filter hr')
      r (mem_rows_of_scanned (List.mem_of_mem_filter hr)) heq
  have hperm : (talliesOf results).successfulSources.Perm (((scannedRows sourceId t).filter
      fun r => reached results r.1 ∧ r.2.name ≠ "").map fun r => r.2.name) := by
    refine (List.perm_ext_iff_of_nodup (nodup_successfulSources _) hnodup).mpr fun name => ?_
    rw [← talliesOf, mem_successfulSources_iff hfrom, List.mem_map]
    simp only [List.mem_filter, decide_eq_true_eq, and_assoc]
  rw [hperm.length_eq, List.length_map]

end

/-- **Each source gets its own verdict**, whenever the scan started and whichever row a `SELECT`
hands back, exactly if no row of the table has the name of a scanned one, and each that gave a
working config has a name. -/
theorem own_verdicts_iff (hfrom : FromScanned sourceId t results) :
    GivesOwnVerdicts sourceId t results ↔ Distinguished sourceId t results := by
  constructor
  · intro h
    have halone : ∀ r ∈ scannedRows sourceId t, ∀ r' ∈ t.rows, r'.2.name = r.2.name → r' = r := by
      intro r hr r' hr' hname
      by_contra hne
      have hget := AutoTable.get_eq_some_iff.mpr (mem_rows_of_scanned hr)
      have hij : r.1 ≠ r'.1 := fun heq => hne
        (List.inj_on_of_nodup_map t.keyed hr' (mem_rows_of_scanned hr) heq.symm)
      -- the other row is fetched each time, and this one keeps the time of its last scan
      have hkept : ∀ startedAt, r.2.lastScan = some startedAt := by
        intro startedAt
        obtain ⟨row, hrow, hlast, -⟩ := (h (preferId r'.1) startedAt).scanned r hr
        rw [get_bookkeep_of_shadowed hij r.2.name (by rw [hget, Option.map_some])
          (by rw [AutoTable.get_eq_some_iff.mpr hr', Option.map_some, hname]) ?_, hget] at hrow
        · rw [Option.some.inj hrow]
          exact hlast
        · intro s hs
          obtain ⟨x, hx, rfl⟩ := List.mem_map.mp hs
          exact ⟨x.1, by rw [AutoTable.get_eq_some_iff.mpr (mem_rows_of_scanned hx)]; rfl⟩
      have htwo := Option.some.inj ((hkept (Stamp.day 1)).symm.trans (hkept (Stamp.day 2)))
      exact absurd htwo (by decide)
    refine ⟨halone, fun r hr hreached => ?_⟩
    have hcount := (h (preferId 0) (Stamp.day 1)).successful
    rw [Nat.cast_inj, length_successfulSources halone hfrom] at hcount
    have hsub : List.Sublist
        ((scannedRows sourceId t).filter fun r => reached results r.1 ∧ r.2.name ≠ "")
        ((scannedRows sourceId t).filter fun r => reached results r.1) :=
      List.monotone_filter_right _ fun x hx => (of_decide_eq_true hx).1
    have hmem : r ∈ (scannedRows sourceId t).filter fun r => reached results r.1 :=
      List.mem_filter.mpr ⟨hr, hreached⟩
    rw [← hsub.eq_of_length hcount] at hmem
    exact (of_decide_eq_true (List.mem_filter.mp hmem).2).2
  · rintro ⟨halone, hnamed⟩ fetch startedAt
    have hids : ((scannedRows sourceId t).map Prod.fst).Nodup :=
      t.keyed.sublist (List.filter_sublist.map _)
    obtain ⟨hin, hout⟩ := @get_bookkeep_of_alone (talliesOf results) startedAt _ hids fetch t
      (fun r hr => AutoTable.get_eq_some_iff.mpr (mem_rows_of_scanned hr))
      fun r hr => alone_of_scanned halone hr
    have hverdict : ∀ r ∈ scannedRows sourceId t,
        reason (talliesOf results) r.2.name = none ↔ reached results r.1 = true := by
      intro r hr
      rw [reason_eq_none_iff, mem_successfulSources_iff hfrom]
      constructor
      · rintro ⟨r', hr', ⟨hreached, -⟩, hname⟩
        rw [halone r hr r' (mem_rows_of_scanned hr') hname] at hreached
        exact hreached
      · exact fun hreached => ⟨r, hr, ⟨hreached, hnamed r hr hreached⟩, rfl⟩
    refine ⟨fun r hr => ⟨_, hin r hr, lastScan_recordVerdict _ _ _, ?_⟩, hout, ⟨?_, ?_⟩, ?_⟩
    · rw [failureCount_recordVerdict]
      simp only [hverdict r hr]
    · rw [List.length_map]
    · omega
    · rw [length_successfulSources halone hfrom]
      congr 2
      refine List.filter_congr fun r hr => ?_
      have hnonempty := hnamed r hr
      cases hreached : reached results r.1 with
      | false => simp
      | true => simp [hnonempty hreached]

end

/-! ### Two feeds -/

/-- A feed that has failed before, and one that has not. -/
def sampleFeeds (name name' : String) : AutoTable SourceRow :=
  (AutoTable.empty.insert
    { name := name, url := "https://feed.example/sub", priority := 1, isEnabled := true,
      createdAt := Stamp.day 0, lastScan := some (Stamp.day 1), lastSuccess := none,
      lastError := some "timeout", failureCount := some 3, totalConfigs := none,
      totalConfigsAt := none }).insert
    { name := name', url := "https://mirror.example/sub", priority := 1, isEnabled := true,
      createdAt := Stamp.day 0, lastScan := some (Stamp.day 1), lastSuccess := some (Stamp.day 1),
      lastError := none, failureCount := some 0, totalConfigs := none, totalConfigsAt := none }

/-- The first of two feeds gives a working config, the second none. -/
def sampleOrigins (name name' : String) : List Origin :=
  [(1, { uri := "trojan://pass@fast.example:443#fast", protocol := "trojan", reachable := true,
         latencyMs := some 80, countryCode := none, validation := "active_http", error := none,
         source := name }),
   (2, { uri := "trojan://pass@dead.example:443#dead", protocol := "trojan", reachable := false,
         latencyMs := none, countryCode := none, validation := "tcp_connect", error := none,
         source := name' })]

lemma fromScanned_sample (name name' : String) :
    FromScanned none (sampleFeeds name name') (sampleOrigins name name') := by
  intro x hx
  simp only [sampleOrigins, List.mem_cons, List.not_mem_nil, or_false] at hx
  rcases hx with rfl | rfl
  · exact ⟨_, List.mem_cons_self, rfl, rfl⟩
  · exact ⟨_, List.mem_cons_of_mem _ List.mem_cons_self, rfl, rfl⟩

/-- Feeds with names of their own get their own verdicts. -/
theorem own_verdicts_iff_sample :
    GivesOwnVerdicts none (sampleFeeds "FeedX" "FeedY") (sampleOrigins "FeedX" "FeedY") :=
  (own_verdicts_iff (fromScanned_sample "FeedX" "FeedY")).mpr
    ⟨by decide, by decide⟩

/-- Of two feeds with one name and different URLs the first takes both verdicts; the second is
never marked as scanned. -/
theorem shared_name_shares_verdict :
    FromScanned none (sampleFeeds "FeedX" "FeedX") (sampleOrigins "FeedX" "FeedX")
      ∧ ((bookkeep (preferId 1) (Stamp.day 2) (talliesOf (sampleOrigins "FeedX" "FeedX"))
          ((scannedRows none (sampleFeeds "FeedX" "FeedX")).map sourceEntry)
          (sampleFeeds "FeedX" "FeedX")).get 2).map (fun r => (r.lastScan, r.failureCount))
        = some (some (Stamp.day 1), some 0)
      ∧ ¬ GivesOwnVerdicts none (sampleFeeds "FeedX" "FeedX") (sampleOrigins "FeedX" "FeedX") := by
  have hkept : ((bookkeep (preferId 1) (Stamp.day 2) (talliesOf (sampleOrigins "FeedX" "FeedX"))
      ((scannedRows none (sampleFeeds "FeedX" "FeedX")).map sourceEntry)
      (sampleFeeds "FeedX" "FeedX")).get 2).map (fun r => (r.lastScan, r.failureCount))
        = some (some (Stamp.day 1), some 0) := by decide
  refine ⟨fromScanned_sample _ _, hkept, fun h => ?_⟩
  obtain ⟨row, hrow, hlast, -⟩ := (h (preferId 1) (Stamp.day 2)).scanned _
    (List.mem_cons_of_mem _ List.mem_cons_self)
  have hget : (bookkeep (preferId 1) (Stamp.day 2) (talliesOf (sampleOrigins "FeedX" "FeedX"))
      ((scannedRows none (sampleFeeds "FeedX" "FeedX")).map sourceEntry)
      (sampleFeeds "FeedX" "FeedX")).get 2 = some row := hrow
  rw [hget, Option.map_some, Option.some.injEq, Prod.mk.injEq, hlast] at hkept
  exact absurd hkept.1 (by decide)

end V2raySub
