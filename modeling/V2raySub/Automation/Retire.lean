import V2raySub.Automation.Health

/-!
When a health check only retires configs (`HealthManager.process_health_results`).

* `OnlyRetires`: no row of the pool goes from disabled to enabled or from deleted to active.
* `LeavesOff`: a series of probes that leaves a disabled row disabled; `isEnabled_foldl_deliver`
  says it of the row the series ends at.
* `processHealthResults_onlyRetires_iff`: the check only retires, whatever the database hands
  back, if and only if every disabled active row is left disabled by every series of results
  that can reach it.
-/

namespace V2raySub

/-- No row goes from disabled to enabled nor from deleted to active. -/
def OnlyRetires (t t' : AutoTable ConfigRow) : Prop :=
  ∀ i c c', t.get i = some c → t'.get i = some c' →
    (c.isEnabled = false → c'.isEnabled = false)
    ∧ (c.status = .deleted → c'.status = .deleted)

lemma OnlyRetires.refl (t : AutoTable ConfigRow) : OnlyRetires t t := by
  intro i c c' h h'
  rw [h, Option.some.injEq] at h'
  subst h'
  exact ⟨id, id⟩

namespace HealthManager

/-! ### Series of probes -/

/-- The failures counted after the probes of a series, from the count `k`. -/
def streak (k : ℤ) (l : List Bool) : ℤ := l.foldl (fun k ok => if ok then 0 else k + 1) k

lemma streak_append (k : ℤ) (l : List Bool) (ok : Bool) :
    streak k (l ++ [ok]) = if ok then 0 else streak k l + 1 := by
  simp [streak, List.foldl_append]

/-- The last probe of the series that failed, if there is one, brought the count to the
threshold under the `disable` policy. -/
def LeavesOff (policy : CleanupPolicy) (threshold k : ℤ) (l : List Bool) : Prop :=
  ∀ pre post, l = pre ++ false :: post → (∀ ok ∈ post, ok = true) →
    policy = .disable ∧ threshold ≤ streak k pre + 1

lemma leavesOff_nil (policy : CleanupPolicy) (threshold k : ℤ) :
    LeavesOff policy threshold k [] := by
  intro pre post h
  simp at h

lemma leavesOff_append_true {policy : CleanupPolicy} {threshold k : ℤ} {l : List Bool} :
    LeavesOff policy threshold k (l ++ [true]) ↔ LeavesOff policy threshold k l := by
  refine ⟨fun h pre post hl hpost => ?_, fun h pre post hl hpost => ?_⟩
  · refine h pre (post ++ [true]) (by simp [hl]) fun ok hok => ?_
    rcases List.mem_append.mp hok with hok | hok
    · exact hpost ok hok
    · exact List.mem_singleton.mp hok
  · -- the last failure is not the last probe
    cases post using List.reverseRecOn with
    | nil => simp at hl
    | append_singleton post ok _ =>
        rw [← List.cons_append, ← List.append_assoc] at hl
        obtain ⟨hl, -⟩ := List.append_inj' hl rfl
        exact h pre post hl fun ok hok => hpost ok (List.mem_append_left _ hok)

lemma leavesOff_append_false {policy : CleanupPolicy} {threshold k : ℤ} {l : List Bool} :
    LeavesOff policy threshold k (l ++ [false])
      ↔ policy = .disable ∧ threshold ≤ streak k l + 1 := by
  refine ⟨fun h => h l [] rfl (by simp), fun h pre post hl hpost => ?_⟩
  cases post using List.reverseRecOn with
  | nil =>
      obtain ⟨rfl, -⟩ := List.append_inj' hl rfl
      exact h
  | append_singleton post ok _ =>
      rw [← List.cons_append, ← List.append_assoc] at hl
      obtain ⟨-, hok⟩ := List.append_inj' hl rfl
      obtain rfl : false = ok := by simpa using hok
      exact absurd (hpost false (by simp)) (by simp)

/-- Away from the `disable` policy only a series without a failure leaves the row off. -/
lemma leavesOff_iff_of_ne {policy : CleanupPolicy} (hp : policy ≠ .disable) {threshold k : ℤ}
    {l : List Bool} : LeavesOff policy threshold k l ↔ ∀ ok ∈ l, ok = true := by
  induction l using List.reverseRecOn with
  | nil => simp [leavesOff_nil]
  | append_singleton l ok ih =>
      cases ok with
      | true =>
          rw [leavesOff_append_true, ih]
          simp
      | false =>
          rw [leavesOff_append_false]
          simp [hp]

/-! ### The row at the end of a series -/

variable {p : Params} {c : ConfigRow}

/-- The stored count of a row, `NULL` read as `0`. -/
def failures (c : ConfigRow) : ℤ := c.consecutiveFailures.getD 0

/-- Under the `disable` policy a row stays active and counts its streak. -/
lemma foldl_deliver_of_disable (hp : p.policy = .disable) (hact : c.isActive)
    (l : List ProbeResult) :
    (l.foldl p.deliver c).isActive
      ∧ failures (l.foldl p.deliver c) = streak (failures c) (l.map ProbeResult.ok) := by
  induction l using List.reverseRecOn with
  | nil => exact ⟨hact, rfl⟩
  | append_singleton l item ih =>
      obtain ⟨hact', hcount⟩ := ih
      rw [List.foldl_append, List.map_append, List.foldl_cons, List.foldl_nil,
        Params.deliver, if_pos hact']
      refine ⟨apply_isActive (by simp [hp]) item hact', ?_⟩
      rw [List.map_cons, List.map_nil, streak_append, ← hcount]
      cases hok : item.ok with
      | true => simp [failures, (apply_of_ok p hok _).2.2]
      | false => simp [failures, apply_of_not_ok p hok, ConfigRow.recordFailure]

/-- Away from the `disable` policy a failed probe switches the row on for good. -/
lemma isEnabled_deliver_of_ne (hp : p.policy ≠ .disable) (item : ProbeResult)
    (h : c.isEnabled = true) : (p.deliver c item).isEnabled = true := by
  rw [Params.deliver]
  split_ifs with hact
  · cases hok : item.ok with
    | true => rw [(apply_of_ok p hok c).1, h]
    | false => simp [apply_of_not_ok p hok, ConfigRow.recordFailure, hp]
  · exact h

/-- Under the `disable` policy, or while the row has not failed, the row is active. -/
lemma foldl_deliver_isActive (hact : c.isActive) (l : List ProbeResult) :
    (l.foldl p.deliver c).isEnabled = false → (l.foldl p.deliver c).isActive := by
  by_cases hp : p.policy = .disable
  · exact fun _ => (foldl_deliver_of_disable hp hact l).1
  · induction l using List.reverseRecOn with
    | nil => exact fun _ => hact
    | append_singleton l item ih =>
        rw [List.foldl_append, List.foldl_cons, List.foldl_nil]
        intro h
        cases hen : (l.foldl p.deliver c).isEnabled with
        | true =>
            rw [isEnabled_deliver_of_ne hp item hen] at h
            cases h
        | false =>
            have hact' := ih hen
            rw [Params.deliver, if_pos hact'] at h ⊢
            cases hok : item.ok with
            | true => simpa [ConfigRow.isActive, (apply_of_ok p hok _).2.1] using hact'
            | false => simp [apply_of_not_ok p hok, ConfigRow.recordFailure, hp] at h

/-- **The switch at the end of a series**: a disabled active row ends disabled exactly when the
series leaves it off. -/
theorem isEnabled_foldl_deliver (hact : c.isActive) (hoff : c.isEnabled = false)
    (l : List ProbeResult) :
    (l.foldl p.deliver c).isEnabled = false
      ↔ LeavesOff p.policy p.failureThreshold (failures c) (l.map ProbeResult.ok) := by
  induction l using List.reverseRecOn with
  | nil => simpa [hoff] using leavesOff_nil _ _ _
  | append_singleton l item ih =>
      have hlive := foldl_deliver_isActive (p := p) hact l
      rw [List.foldl_append, List.map_append, List.foldl_cons, List.foldl_nil, List.map_cons,
        List.map_nil]
      cases hok : item.ok with
      | true =>
          rw [leavesOff_append_true, ← ih, Params.deliver]
          split_ifs
          · rw [(apply_of_ok p hok _).1]
          · rfl
      | false =>
          rw [leavesOff_append_false]
          by_cases hp : p.policy = .disable
          · obtain ⟨hact', hcount⟩ := foldl_deliver_of_disable hp hact l
            rw [Params.deliver, if_pos hact', apply_of_not_ok p hok, ← hcount]
            simp [ConfigRow.recordFailure, hp, failures]
          · simp only [hp, false_and, iff_false, Bool.not_eq_false]
            cases hen : (l.foldl p.deliver c).isEnabled with
            | true => exact isEnabled_deliver_of_ne hp item hen
            | false =>
                rw [Params.deliver, if_pos (hlive hen), apply_of_not_ok p hok]
                simp [ConfigRow.recordFailure, hp]

/-! ### Every series that can reach a row does -/

/-- The rows a result leaves active under the `disable` policy are the same, with the same
texts. -/
lemma sole_of_sole_probe {s : State} {fetch : Fetch (ℕ × ConfigRow)} {item : ProbeResult}
    {i : ℕ} (hp : p.policy = .disable) (h : Sole (probe p fetch s item).configs i c) :
    Sole s.configs i c := by
  intro j d hd hact htext
  rcases probe_cases p fetch s item with ⟨-, he⟩ | ⟨k, e, -, hk, -, hkact, he⟩
  · rw [he] at h
    exact h j d hd hact htext
  · by_cases hjk : j = k
    · subst hjk
      rw [hk, Option.some.injEq] at hd
      subst hd
      refine h j (p.apply item e) (by rw [he, AutoTable.get_set_self, hk]; rfl) ?_ ?_
      · exact apply_isActive (by simp [hp]) item hkact
      · rw [apply_configText, htext]
    · exact h j d (by rw [he, AutoTable.get_set_of_ne _ _ hjk, hd]) hact htext

/-- Under the `disable` policy the database can hand a row any selection of the results about
its text, unless no other active row has that text. -/
theorem exists_fetch {s : State} {i : ℕ} (hp : p.policy = .disable)
    (items : List ProbeResult) (hget : s.configs.get i = some c) (hact : c.isActive)
    {l : List ProbeResult} (hl : l.Sublist (resultsOf c.configText items))
    (hsole : Sole s.configs i c → l = resultsOf c.configText items) :
    ∃ fetch, (probes p fetch s items).configs.get i = some (l.foldl p.deliver c) := by
  induction items generalizing s c l with
  | nil =>
      obtain rfl : l = [] := List.sublist_nil.mp hl
      exact ⟨fun _ => .prefer fun _ => true, hget⟩
  | cons item items ih =>
      -- a result handed to another row leaves this one to the results that follow
      have skip : ∀ f : Fetch (ℕ × ConfigRow),
          (∀ j d, f.one (candidates s.configs item.uri) = some (j, d) → i ≠ j) →
          l.Sublist (resultsOf c.configText items) →
          (Sole s.configs i c → l = resultsOf c.configText items) →
          ∃ fetch, (probes p fetch s (item :: items)).configs.get i
            = some (l.foldl p.deliver c) := by
        intro f hf hl hsole
        obtain ⟨fetch, h⟩ := ih ((get_probe_of_ne hf).trans hget) hact hl
          fun h => hsole (sole_of_sole_probe hp h)
        exact ⟨f.prepend fetch, h⟩
      by_cases huri : item.uri = c.configText
      · rw [resultsOf_cons_of_eq items huri] at hl hsole
        rcases List.sublist_cons_iff.mp hl with hskip | ⟨l', rfl, hl'⟩
        · -- the selection leaves this result to a twin
          have htwin : ¬ Sole s.configs i c := by
            intro h
            have := hskip.length_le
            rw [hsole h, List.length_cons] at this
            omega
          refine skip (.prefer fun r => r.1 ≠ i) ?_ hskip fun h => absurd h htwin
          rintro j d hj rfl
          rw [Sole] at htwin
          push Not at htwin
          obtain ⟨k, e, hk, hkact, hktext, hki⟩ := htwin
          obtain ⟨r, -, hr, hone⟩ := Fetch.one_prefer (p := fun r : ℕ × ConfigRow => r.1 ≠ i)
            (l := candidates s.configs item.uri)
            ⟨(k, e), mem_candidates.mpr ⟨hk, hktext.trans huri.symm, hkact⟩, by simpa using hki⟩
          rw [hj, Option.some.injEq] at hone
          subst hone
          simp at hr
        · -- the selection hands this result to the row
          have hpick := picked_of_sole_or_favours hget hact huri (.inr (favours_prefer i))
          have hget' : (probe p (.prefer fun r => r.1 = i) s item).configs.get i
              = some (p.apply item c) := by
            rw [probe, hpick, AutoTable.get_set_self, hget, Option.map_some]
          have hsole' : Sole (probe p (.prefer fun r => r.1 = i) s item).configs i
              (p.apply item c) → l' = resultsOf (p.apply item c).configText items := by
            intro h
            have hs : Sole (probe p (.prefer fun r => r.1 = i) s item).configs i c := by
              intro j d hd hdact htext
              exact h j d hd hdact (htext.trans (apply_configText p item c).symm)
            rw [apply_configText]
            exact List.cons_injective (hsole (sole_of_sole_probe hp hs))
          rw [← apply_configText p item c] at hl'
          obtain ⟨fetch, h⟩ :=
            ih hget' (apply_isActive (by simp [hp]) item hact) hl' hsole'
          refine ⟨Fetch.prepend (.prefer fun r => r.1 = i) fetch, ?_⟩
          rw [List.foldl_cons, Params.deliver, if_pos hact]
          exact h
      · rw [resultsOf_cons_of_ne items huri] at hl hsole
        refine skip (.prefer fun _ => true) ?_ hl hsole
        rintro j d hj rfl
        obtain ⟨hd, htext, -⟩ := mem_candidates.mp (Fetch.mem _ _ _ hj)
        rw [hget, Option.some.injEq] at hd
        exact huri (by rw [← htext, hd])

/-! ### The check -/

/-- A disabled active row and a series of probes that can reach it. -/
def Reaches (t : AutoTable ConfigRow) (results : List ProbeResult) (i : ℕ) (c : ConfigRow)
    (l : List Bool) : Prop :=
  t.get i = some c ∧ c.isActive ∧ c.isEnabled = false
    ∧ l.Sublist ((resultsOf c.configText results).map ProbeResult.ok)
    ∧ (Sole t i c → l = (resultsOf c.configText results).map ProbeResult.ok)

/-- The pool after the check, if nothing raises. -/
lemma configs_processHealthResults {env : Env} {db : PanelDb} {results : List ProbeResult}
    {scanTime now : Stamp} {scanId : Option ℕ} {threshold : ℤ}
    (ht : intSetting? db.toDb "failure_threshold" "2" = some threshold)
    (hr : env.raised = false) :
    (processHealthResults env db results scanTime now scanId).1.configs
      = (probes ⟨threshold, cleanupPolicy db.toDb, scanTime, now, scanId⟩ env.fetch
          ⟨db.configs, db.configHealthHistory, 0, 0⟩ results).configs := by
  rw [processHealthResults, ht]
  simp [hr]

/-- A check that raises, or whose threshold is no number, leaves the pool as it is. -/
lemma configs_processHealthResults_of_raised {env : Env} {db : PanelDb}
    {results : List ProbeResult} {scanTime now : Stamp} {scanId : Option ℕ}
    (h : intSetting? db.toDb "failure_threshold" "2" = none ∨ env.raised = true) :
    processHealthResults env db results scanTime now scanId = (db, 0, 0) := by
  rw [processHealthResults]
  rcases h with h | h
  · rw [h]
  · cases intSetting? db.toDb "failure_threshold" "2" <;> simp [h]

/-- **The health check only retires** exactly when every disabled active row is left off by
every series of results that can reach it. -/
theorem processHealthResults_onlyRetires_iff (db : PanelDb) (results : List ProbeResult)
    (scanTime now : Stamp) (scanId : Option ℕ) :
    (∀ env, OnlyRetires db.configs
        (processHealthResults env db results scanTime now scanId).1.configs)
      ↔ ∀ threshold, intSetting? db.toDb "failure_threshold" "2" = some threshold →
          ∀ i c l, Reaches db.configs results i c l →
            LeavesOff (cleanupPolicy db.toDb) threshold (failures c) l := by
  refine ⟨fun h threshold ht i c l hreach => ?_, fun h env => ?_⟩
  · obtain ⟨hget, hact, hoff, hsub, hsole⟩ := hreach
    set p : Params := ⟨threshold, cleanupPolicy db.toDb, scanTime, now, scanId⟩
    -- a run that revives no row, read at this one
    have hrun : ∀ fetch c', (probes p fetch ⟨db.configs, db.configHealthHistory, 0, 0⟩
        results).configs.get i = some c' → c'.isEnabled = false := by
      intro fetch c' hc'
      refine (h ⟨false, fetch⟩ i c c' hget ?_).1 hoff
      rw [configs_processHealthResults ht rfl]
      exact hc'
    by_cases hp : cleanupPolicy db.toDb = .disable
    · obtain ⟨l', hl, rfl⟩ := List.sublist_map_iff.mp hsub
      have hsole' : Sole db.configs i c → l' = resultsOf c.configText results := fun hs =>
        hl.eq_of_length (by simpa using congrArg List.length (hsole hs))
      obtain ⟨fetch, hend⟩ := exists_fetch (p := p)
        (s := ⟨db.configs, db.configHealthHistory, 0, 0⟩) hp results hget hact hl hsole'
      exact (isEnabled_foldl_deliver (p := p) hact hoff l').mp (hrun fetch _ hend)
    · -- a failed probe revives the row under the fetch that favours it
      obtain ⟨l', -, hall, hend⟩ := run_row (p := p)
        (s := ⟨db.configs, db.configHealthHistory, 0, 0⟩)
        (fun _ => .prefer fun r => r.1 = i) results hget
      obtain rfl := hall (.inr (favours_prefer i))
      have hleft := (isEnabled_foldl_deliver (p := p) hact hoff _).mp (hrun _ _ hend)
      rw [leavesOff_iff_of_ne hp] at hleft ⊢
      exact fun ok hok => hleft ok (hsub.subset hok)
  · cases ht : intSetting? db.toDb "failure_threshold" "2" with
    | none =>
        rw [configs_processHealthResults_of_raised (.inl ht)]
        exact .refl _
    | some threshold =>
        cases hr : env.raised with
        | true =>
            rw [configs_processHealthResults_of_raised (.inr hr)]
            exact .refl _
        | false =>
            rw [configs_processHealthResults ht hr]
            intro i c c' hget hget'
            obtain ⟨l, hl, hall, hend⟩ := run_row
              (p := ⟨threshold, cleanupPolicy db.toDb, scanTime, now, scanId⟩)
              (s := ⟨db.configs, db.configHealthHistory, 0, 0⟩) env.fetch results hget
            rw [hget', Option.some.injEq] at hend
            subst hend
            cases hact : c.isActive with
            | false =>
                rw [deliver_of_inactive hact]
                exact ⟨id, id⟩
            | true =>
                refine ⟨fun hoff => ?_, fun hd => ?_⟩
                · refine (isEnabled_foldl_deliver hact hoff l).mpr (h threshold ht i c _ ?_)
                  exact ⟨hget, hact, hoff, hl.map _, fun hs => by rw [hall (.inl hs)]⟩
                · simp [ConfigRow.isActive, hd] at hact

/-! ### The revival -/

/-- A config the admin switched off, the only one of the pool. -/
def sampleOff : ConfigRow :=
  { configText := "trojan://secret@example.com:443#one", configType := .trojan,
    createdAt := Stamp.day 0, status := .active, sortOrder := 1, isEnabled := false,
    source := some "auto", mode := .auto, lastCheck := some (Stamp.day 0),
    lastSuccess := some (Stamp.day 0), latency := some 180, consecutiveFailures := some 0,
    healthStatus := .healthy, countryCode := some "DE" }

/-- The panel with that config and the settings a fresh one has. -/
def samplePool : PanelDb :=
  { sampleDb with
    settings := [("failure_threshold", "2"), ("cleanup_policy", "disable")]
    configs := AutoTable.empty.insert sampleOff
    configHealthHistory := .empty
    scanHistory := .empty
    autoSources := .empty }

/-- A probe of its address that timed out. -/
def sampleTimeout : ProbeResult :=
  { uri := "trojan://secret@example.com:443#one", protocol := "trojan", reachable := false,
    latencyMs := none, countryCode := none, validation := "active_http",
    error := some "timed out", source := "health_check" }

/-- One failed probe switches the config back on. -/
theorem health_check_revives :
    ¬ OnlyRetires samplePool.configs
      (processHealthResults ⟨false, fun _ => .prefer fun _ => true⟩ samplePool
        [sampleTimeout] (Stamp.day 1) (Stamp.day 1) none).1.configs := by
  intro h
  have hoff := (h 1 sampleOff { sampleOff with
    isEnabled := true, lastCheck := some (Stamp.day 1), consecutiveFailures := some 1 }
    (by decide +kernel) (by decide +kernel)).1 rfl
  cases hoff

end HealthManager

end V2raySub
