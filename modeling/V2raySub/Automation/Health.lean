import V2raySub.Automation.Schema
import V2raySub.User.Coherence

/-!
Applying the results of a health check to the pool (`automation_service.py`,
`HealthManager.process_health_results`).

* `processHealthResults` is the function, one `probe` for each result; a result whose text no
  active config has is skipped.
* `probe_cases` says what one result does, `run_row` what the results do to one row: those
  handed to it, in order.  Two active rows with one text share the results out among them as
  the database likes; the only active row with its text receives all of them.
* A disabled config is written back as enabled by a failed probe that does not retire it, so the
  check can revive it.  `processHealthResults_onlyRetires_iff`: exactly when it never does.
-/

namespace V2raySub

/-- The `cleanup_policy` setting, as the services compare it. -/
inductive CleanupPolicy where
  | disable
  | delete
  | other
  deriving DecidableEq

/-- `get_setting('cleanup_policy', 'disable').lower()`. -/
def cleanupPolicy (db : Db) : CleanupPolicy :=
  let policy := PyText.lower (getSetting db "cleanup_policy" "disable")
  if policy = "disable".toList then .disable
  else if policy = "delete".toList then .delete
  else .other

/-! ### The columns a probe writes -/

/-- The `UPDATE` after a probe that succeeded. -/
def ConfigRow.recordSuccess (scanTime : Stamp) (latency : ℕ) (c : ConfigRow) : ConfigRow :=
  { c with
    lastCheck := some scanTime
    lastSuccess := some scanTime
    latency := some latency
    consecutiveFailures := some 0
    healthStatus := .healthy }

/-- The `UPDATE` after a probe that failed: `is_enabled` and `status` are written from
constants, not from the row. -/
def ConfigRow.recordFailure (threshold : ℤ) (policy : CleanupPolicy) (scanTime : Stamp)
    (newFailures : ℤ) (c : ConfigRow) : ConfigRow :=
  { c with
    lastCheck := some scanTime
    consecutiveFailures := some newFailures
    healthStatus := if newFailures < threshold then .healthy else .unhealthy
    isEnabled := !decide (threshold ≤ newFailures ∧ policy = .disable)
    status := if threshold ≤ newFailures ∧ policy = .delete then .deleted else .active }

namespace HealthManager

/-- What the run works on. -/
structure State where
  configs : AutoTable ConfigRow
  history : AutoTable HealthRow
  disabledCount : ℕ
  deletedCount : ℕ

/-- The settings and arguments of one call. -/
structure Params where
  failureThreshold : ℤ
  policy : CleanupPolicy
  scanTime : Stamp
  now : Stamp
  scanId : Option ℕ

/-- What a result makes of the row it is applied to. -/
def Params.apply (p : Params) (item : ProbeResult) (c : ConfigRow) : ConfigRow :=
  match item.reachable, item.latencyMs with
  | true, some latency => c.recordSuccess p.scanTime latency
  | _, _ => c.recordFailure p.failureThreshold p.policy p.scanTime
      (c.consecutiveFailures.getD 0 + 1)

/-- The rows `SELECT … WHERE config_text = ? AND status = "active"` matches. -/
def candidates (t : AutoTable ConfigRow) (uri : String) : List (ℕ × ConfigRow) :=
  t.rows.filter fun r => r.2.configText = uri && r.2.isActive

/-- One result.  The failure branch counts the row as disabled or deleted as it writes it. -/
def probe (p : Params) (fetch : Fetch (ℕ × ConfigRow)) (s : State) (item : ProbeResult) :
    State :=
  match fetch.one (candidates s.configs item.uri) with
  | none => s
  | some (cfgId, row) =>
    let retired := !item.ok && decide (p.failureThreshold ≤ row.consecutiveFailures.getD 0 + 1)
    { configs := s.configs.set cfgId (p.apply item)
      history :=
        match p.scanId with
        | none => s.history
        | some scanId => s.history.insert
            { configId := cfgId, scanId := scanId, checkedAt := p.now,
              reachable := item.reachable, latency := item.latencyMs.map Int.ofNat,
              validation := item.validation, errorMessage := item.error }
      disabledCount :=
        s.disabledCount + if retired ∧ p.policy = .disable then 1 else 0
      deletedCount :=
        s.deletedCount + if retired ∧ p.policy = .delete then 1 else 0 }

/-- The results, one after the other; `fetch n` answers the query of the `n`th. -/
def probes (p : Params) : (ℕ → Fetch (ℕ × ConfigRow)) → State → List ProbeResult → State
  | _, s, [] => s
  | fetch, s, item :: items =>
    probes p (fun n => fetch (n + 1)) (probe p (fetch 0) s item) items

/-- The retention of the history: the last thirty days.  A date before the calendar is `NULL`
in the database and deletes nothing. -/
def retain (now : Stamp) (history : AutoTable HealthRow) : AutoTable HealthRow :=
  match now.add? (-30 * daySecs) with
  | none => history
  | some limit => history.delete fun h => h.checkedAt < limit

/-- What the database decides in one call: whether a statement of it raises, and which row each
query without an order hands back. -/
structure Env where
  raised : Bool
  fetch : ℕ → Fetch (ℕ × ConfigRow)

/-- `HealthManager.process_health_results`: the tables and the numbers of configs disabled and
deleted.  Whatever raises inside the `try` is rolled back. -/
def processHealthResults (env : Env) (db : PanelDb) (results : List ProbeResult)
    (scanTime now : Stamp) (scanId : Option ℕ) : PanelDb × ℕ × ℕ :=
  match intSetting? db.toDb "failure_threshold" "2" with
  | none => (db, 0, 0)
  | some threshold =>
    if env.raised then (db, 0, 0)
    else
      let s := probes ⟨threshold, cleanupPolicy db.toDb, scanTime, now, scanId⟩ env.fetch
        ⟨db.configs, db.configHealthHistory, 0, 0⟩ results
      ({ db with configs := s.configs, configHealthHistory := retain now s.history },
        s.disabledCount, s.deletedCount)

/-! ### One result -/

variable {p : Params} {fetch : Fetch (ℕ × ConfigRow)} {s : State} {item : ProbeResult}

lemma mem_candidates {t : AutoTable ConfigRow} {uri : String} {i : ℕ} {c : ConfigRow} :
    (i, c) ∈ candidates t uri ↔ t.get i = some c ∧ c.configText = uri ∧ c.isActive := by
  simp [candidates, AutoTable.get_eq_some_iff]

/-- What one result can do to the pool: nothing, or its write to one active row with its text,
the one the query handed back. -/
lemma probe_cases (p : Params) (fetch : Fetch (ℕ × ConfigRow)) (s : State)
    (item : ProbeResult) :
    (fetch.one (candidates s.configs item.uri) = none ∧ probe p fetch s item = s)
    ∨ ∃ i c, fetch.one (candidates s.configs item.uri) = some (i, c)
      ∧ s.configs.get i = some c ∧ c.configText = item.uri ∧ c.isActive
      ∧ (probe p fetch s item).configs = s.configs.set i (p.apply item) := by
  cases h : fetch.one (candidates s.configs item.uri) with
  | none => exact .inl ⟨rfl, by rw [probe, h]⟩
  | some r =>
      obtain ⟨i, c⟩ := r
      have hc := mem_candidates.mp (fetch.mem _ _ h)
      exact .inr ⟨i, c, rfl, hc.1, hc.2.1, hc.2.2, by rw [probe, h]⟩

/-- A row the query does not hand back is left alone. -/
lemma get_probe_of_ne {j : ℕ}
    (h : ∀ i c, fetch.one (candidates s.configs item.uri) = some (i, c) → j ≠ i) :
    (probe p fetch s item).configs.get j = s.configs.get j := by
  rcases probe_cases p fetch s item with ⟨-, he⟩ | ⟨i, c, hf, -, -, -, he⟩
  · rw [he]
  · rw [he, AutoTable.get_set_of_ne _ _ (h i c hf)]

@[simp] lemma apply_configText (p : Params) (item : ProbeResult) (c : ConfigRow) :
    (p.apply item c).configText = c.configText := by
  rw [Params.apply]
  split <;> rfl

/-- A probe that succeeds leaves the switch, the status and the text alone and clears the
count. -/
lemma apply_of_ok (p : Params) {item : ProbeResult} (h : item.ok) (c : ConfigRow) :
    (p.apply item c).isEnabled = c.isEnabled ∧ (p.apply item c).status = c.status
      ∧ (p.apply item c).consecutiveFailures = some 0 := by
  rw [ProbeResult.ok, Bool.and_eq_true, Option.isSome_iff_exists] at h
  obtain ⟨hr, l, hl⟩ := h
  rw [Params.apply, hr, hl]
  exact ⟨rfl, rfl, rfl⟩

/-- A probe that fails is the failure branch. -/
lemma apply_of_not_ok (p : Params) {item : ProbeResult} (h : item.ok = false) (c : ConfigRow) :
    p.apply item c = c.recordFailure p.failureThreshold p.policy p.scanTime
      (c.consecutiveFailures.getD 0 + 1) := by
  rw [Params.apply]
  split
  · rename_i l hr hl
    simp [ProbeResult.ok, hr, hl] at h
  · rfl

/-- Only the `delete` policy takes a row out of the active ones. -/
lemma apply_isActive (hp : p.policy ≠ .delete) (item : ProbeResult) {c : ConfigRow}
    (hc : c.isActive) : (p.apply item c).isActive := by
  cases h : item.ok with
  | true => simpa [ConfigRow.isActive, (apply_of_ok p h c).2.1] using hc
  | false => simp [apply_of_not_ok p h, ConfigRow.recordFailure, ConfigRow.isActive, hp]

/-! ### All results, seen from one row -/

/-- What a result handed to the row makes of it. -/
def Params.deliver (p : Params) (c : ConfigRow) (item : ProbeResult) : ConfigRow :=
  if c.isActive then p.apply item c else c

@[simp] lemma deliver_configText (p : Params) (c : ConfigRow) (item : ProbeResult) :
    (p.deliver c item).configText = c.configText := by
  rw [Params.deliver]
  split_ifs <;> simp

lemma deliver_of_inactive {c : ConfigRow} (h : c.isActive = false) (items : List ProbeResult) :
    items.foldl p.deliver c = c := by
  induction items with
  | nil => rfl
  | cons item items ih => rw [List.foldl_cons, Params.deliver, h, if_neg (by simp), ih]

/-- The results about a text. -/
def resultsOf (text : String) (items : List ProbeResult) : List ProbeResult :=
  items.filter fun item => item.uri = text

lemma resultsOf_cons_of_eq {text : String} {item : ProbeResult} (items : List ProbeResult)
    (h : item.uri = text) : resultsOf text (item :: items) = item :: resultsOf text items := by
  simp [resultsOf, h]

lemma resultsOf_cons_of_ne {text : String} {item : ProbeResult} (items : List ProbeResult)
    (h : item.uri ≠ text) : resultsOf text (item :: items) = resultsOf text items := by
  simp [resultsOf, h]

/-- No other active row has the text of this one. -/
def Sole (t : AutoTable ConfigRow) (i : ℕ) (c : ConfigRow) : Prop :=
  ∀ j d, t.get j = some d → d.isActive → d.configText = c.configText → j = i

/-- The query hands back the row `i` whenever it matches. -/
def Favours (fetch : ℕ → Fetch (ℕ × ConfigRow)) (i : ℕ) : Prop :=
  ∀ n l r, (∃ c, (i, c) ∈ l) → (fetch n).one l = some r → r.1 = i

lemma favours_prefer (i : ℕ) : Favours (fun _ => .prefer fun r => r.1 = i) i := by
  rintro n l r ⟨c, hc⟩ h
  obtain ⟨r', -, hr', h'⟩ := Fetch.one_prefer (p := fun r : ℕ × ConfigRow => r.1 = i)
    ⟨(i, c), hc, by simp⟩
  rw [h, Option.some.injEq] at h'
  subst h'
  simpa using hr'

/-- An active row that the query does not pass over is handed the result. -/
lemma picked_of_sole_or_favours {fetch : ℕ → Fetch (ℕ × ConfigRow)} {i : ℕ} {c : ConfigRow}
    (hget : s.configs.get i = some c) (hact : c.isActive) (huri : item.uri = c.configText)
    (h : Sole s.configs i c ∨ Favours fetch i) :
    (fetch 0).one (candidates s.configs item.uri) = some (i, c) := by
  have hmem : (i, c) ∈ candidates s.configs item.uri :=
    mem_candidates.mpr ⟨hget, huri.symm, hact⟩
  obtain ⟨⟨j, d⟩, hj⟩ := Option.isSome_iff_exists.mp
    ((fetch 0).total _ (List.ne_nil_of_mem hmem))
  obtain ⟨hd, htext, hdact⟩ := mem_candidates.mp ((fetch 0).mem _ _ hj)
  have hji : j = i := by
    rcases h with h | h
    · exact h j d hd hdact (htext.trans huri)
    · exact h 0 _ _ ⟨c, hmem⟩ hj
  subst hji
  rw [hd, Option.some.injEq] at hget
  rw [hj, hget]

/-- A result never adds an active row to those with a text. -/
lemma Sole.probe {i : ℕ} {c : ConfigRow} (h : Sole s.configs i c) :
    Sole (probe p fetch s item).configs i c := by
  intro j d hd hact htext
  rcases probe_cases p fetch s item with ⟨-, he⟩ | ⟨k, e, -, hk, -, hkact, he⟩
  · exact h j d (by rwa [he] at hd) hact htext
  · rw [he, AutoTable.get_set] at hd
    split_ifs at hd with hjk
    · subst hjk
      rw [hk, Option.map_some, Option.some.injEq] at hd
      subst hd
      exact h j e hk hkact ((apply_configText p item e).symm.trans htext)
    · exact h j d hd hact htext

/-- A row that is not active is never touched. -/
lemma get_probes_of_inactive {i : ℕ} {c : ConfigRow} (hact : c.isActive = false)
    (fetch : ℕ → Fetch (ℕ × ConfigRow)) (items : List ProbeResult)
    (hget : s.configs.get i = some c) :
    (probes p fetch s items).configs.get i = some c := by
  induction items generalizing s fetch with
  | nil => exact hget
  | cons item items ih =>
      refine ih _ (Eq.trans (get_probe_of_ne ?_) hget)
      rintro j d hj rfl
      obtain ⟨hd, -, hdact⟩ := mem_candidates.mp ((fetch 0).mem _ _ hj)
      rw [hget, Option.some.injEq] at hd
      rw [hd, hdact] at hact
      cases hact

/-- **The run of one row**: the row ends as some of the results about its text leave it, in
their order; all of them if no other active row has the text, or if the database favours it. -/
theorem run_row {i : ℕ} {c : ConfigRow} (fetch : ℕ → Fetch (ℕ × ConfigRow))
    (items : List ProbeResult) (hget : s.configs.get i = some c) :
    ∃ l, l.Sublist (resultsOf c.configText items)
      ∧ (Sole s.configs i c ∨ Favours fetch i → l = resultsOf c.configText items)
      ∧ (probes p fetch s items).configs.get i = some (l.foldl p.deliver c) := by
  induction items generalizing s c fetch with
  | nil => exact ⟨[], .slnil, fun _ => rfl, hget⟩
  | cons item items ih =>
      cases hact : c.isActive with
      | false =>
          refine ⟨_, .refl _, fun _ => rfl, ?_⟩
          rw [deliver_of_inactive hact]
          exact get_probes_of_inactive hact fetch _ hget
      | true =>
          by_cases hpick : (fetch 0).one (candidates s.configs item.uri) = some (i, c)
          · -- the result is handed to this row
            obtain ⟨-, huri, -⟩ := mem_candidates.mp ((fetch 0).mem _ _ hpick)
            have hget' : (probe p (fetch 0) s item).configs.get i
                = some (p.deliver c item) := by
              rw [probe, hpick, AutoTable.get_set_self, hget, Params.deliver, if_pos hact]
              rfl
            obtain ⟨l, hl, hall, hrun⟩ := ih (fun n => fetch (n + 1)) hget'
            rw [deliver_configText] at hl hall
            rw [resultsOf_cons_of_eq items huri.symm]
            refine ⟨item :: l, hl.cons_cons item, fun h => ?_, hrun⟩
            rw [hall (h.imp (fun h => ?_) fun h n => h (n + 1))]
            intro j d hd hdact htext
            exact h.probe j d hd hdact (htext.trans (deliver_configText p c item))
          · -- it is handed to another row, or to none
            have hget' : (probe p (fetch 0) s item).configs.get i = some c := by
              refine Eq.trans (get_probe_of_ne ?_) hget
              rintro j d hj rfl
              obtain ⟨hd, -, -⟩ := mem_candidates.mp ((fetch 0).mem _ _ hj)
              rw [hget, Option.some.injEq] at hd
              exact hpick (by rw [hj, hd])
            obtain ⟨l, hl, hall, hrun⟩ := ih (fun n => fetch (n + 1)) hget'
            by_cases huri : item.uri = c.configText
            · rw [resultsOf_cons_of_eq items huri]
              refine ⟨l, hl.cons item, fun h => ?_, hrun⟩
              exact absurd (picked_of_sole_or_favours hget hact huri h) hpick
            · rw [resultsOf_cons_of_ne items huri]
              exact ⟨l, hl, fun h => hall (h.imp .probe fun h n => h (n + 1)), hrun⟩

end HealthManager

end V2raySub
