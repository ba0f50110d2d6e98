import V2raySub.Automation.CalmScan

/-!
Discovery with early stop (`automation_service.py`, `run_scan`; `worker.rs`, `run_discovery`;
`probe.rs`, `probe_stop_reason`).

* `runDiscovery`: the engine probes the candidates one by one and stops once it has found
  `target_count` reachable ones; `reachable_runDiscovery` says which ones these are.
* `additionPass_of_room`: with room for all of them, the import adds every candidate exactly if
  they are `Fresh`.
* `early_stop_progress`: a scan adds as many configs as it can import exactly if the first reachable
  candidates, that many of them, can all be imported.
-/

namespace V2raySub

/-! ### The engine -/

/-- `probe_stop_reason` without the stability search. -/
def probeStopReason (scanAll : Bool) (topN : ℕ) (ranked : List ProbeResult) : Bool :=
  !scanAll && topN ≠ 0 && topN ≤ ranked.countP ProbeResult.reachable

/-- The candidates probed after `ranked`, one by one, until there is a reason to stop. -/
def probeCandidates (scanAll : Bool) (topN : ℕ) (ranked : List ProbeResult) :
    List ProbeResult → List ProbeResult
  | [] => ranked
  | candidate :: candidates =>
    if probeStopReason scanAll topN (ranked ++ [candidate]) then ranked ++ [candidate]
    else probeCandidates scanAll topN (ranked ++ [candidate]) candidates

/-- `run_discovery`, on candidates that carry what their probe will say. -/
def runDiscovery (scanAll : Option Bool) (targetCount : Option ℤ) (candidates : List ProbeResult) :
    List ProbeResult :=
  if candidates = [] then []
  else
    let scanAll := scanAll.getD false
    let topN := if scanAll then candidates.length
      else targetCount.elim candidates.length fun n => max 1 (min n.toNat candidates.length)
    probeCandidates scanAll topN [] candidates

lemma probeStopReason_iff {topN : ℕ} (hpos : 0 < topN) (ranked : List ProbeResult) :
    probeStopReason false topN ranked ↔ topN ≤ ranked.countP ProbeResult.reachable := by
  rw [probeStopReason, Bool.and_eq_true, decide_eq_true_eq]
  simp [hpos.ne']

lemma reachable_probeCandidates {topN : ℕ} (hpos : 0 < topN) (candidates : List ProbeResult)
    (ranked : List ProbeResult) (hr : ranked.countP ProbeResult.reachable < topN) :
    (probeCandidates false topN ranked candidates).filter ProbeResult.reachable
      = ((ranked ++ candidates).filter ProbeResult.reachable).take topN := by
  induction candidates generalizing ranked with
  | nil =>
      rw [probeCandidates, List.append_nil, List.take_of_length_le]
      rw [← List.countP_eq_length_filter]
      exact hr.le
  | cons candidate candidates ih =>
      have hsplit : ranked ++ candidate :: candidates = (ranked ++ [candidate]) ++ candidates := by
        rw [List.append_assoc, List.singleton_append]
      have hstep : (ranked ++ [candidate]).countP ProbeResult.reachable
          ≤ ranked.countP ProbeResult.reachable + 1 := by
        rw [List.countP_append]
        exact Nat.add_le_add_left List.countP_le_length _
      rw [probeCandidates, hsplit]
      by_cases hstop : topN ≤ (ranked ++ [candidate]).countP ProbeResult.reachable
      · rw [if_pos ((probeStopReason_iff hpos _).mpr hstop)]
        -- the candidate that makes it stop is the last of the wanted ones
        have hlen : ((ranked ++ [candidate]).filter ProbeResult.reachable).length = topN := by
          rw [← List.countP_eq_length_filter]
          omega
        rw [List.filter_append _ candidates, List.take_left' hlen]
      · rw [if_neg fun h => hstop ((probeStopReason_iff hpos _).mp h)]
        exact ih _ (not_le.mp hstop)

/-- With early stop the reachable results are the first reachable candidates. -/
theorem reachable_runDiscovery {n : ℤ} (hpos : 0 < n) {candidates : List ProbeResult}
    (hmany : n ≤ candidates.countP ProbeResult.reachable) :
    (runDiscovery (some false) (some n) candidates).filter ProbeResult.reachable
      = (candidates.filter ProbeResult.reachable).take n.toNat := by
  have hle : candidates.countP ProbeResult.reachable ≤ candidates.length := List.countP_le_length
  have hne : candidates ≠ [] := by
    rintro rfl
    rw [List.countP_nil] at hmany
    omega
  have htop : max 1 (min n.toNat candidates.length) = n.toNat := by omega
  rw [runDiscovery, if_neg hne]
  simp only [Option.getD_some, Bool.false_eq_true, if_false, Option.elim_some, htop]
  rw [reachable_probeCandidates (by omega) candidates [] (by simp; omega), List.nil_append]

/-! ### An import with room for every candidate -/

namespace ConfigImporter

/-- The identity of a candidate, if its scheme is one the pool holds. -/
def identity? (lib : ConfigLib) (item : ProbeResult) : Option Identity :=
  (detectConfigType item.uri).map (getConfigIdentity lib item.uri)

/-- Every candidate has an identity, no two have the same, and none is known. -/
structure Fresh (lib : ConfigLib) (known : List Identity) (items : List ProbeResult) : Prop where
  new : ∀ item ∈ items, ∃ identity, identity? lib item = some identity ∧ identity ∉ known
  distinct : (items.map (identity? lib)).Nodup

variable {lib : ConfigLib} {known : List Identity} {item : ProbeResult} {items : List ProbeResult}

lemma Fresh.perm {items' : List ProbeResult} (h : Fresh lib known items)
    (hp : items.Perm items') : Fresh lib known items' where
  new item hitem := h.new item (hp.mem_iff.mpr hitem)
  distinct := ((hp.map _).nodup_iff).mp h.distinct

lemma fresh_perm_iff {items' : List ProbeResult} (hp : items.Perm items') :
    Fresh lib known items ↔ Fresh lib known items' := ⟨fun h => h.perm hp, fun h => h.perm hp.symm⟩

/-- The first candidate is new, and the others are new beside it. -/
lemma fresh_cons_iff {identity : Identity} (hi : identity? lib item = some identity) :
    Fresh lib known (item :: items)
      ↔ identity ∉ known ∧ Fresh lib (identity :: known) items := by
  refine ⟨fun ⟨hnew, hdistinct⟩ => ?_, fun ⟨hout, hnew, hdistinct⟩ => ⟨?_, ?_⟩⟩
  · obtain ⟨hhead, htail⟩ := List.forall_mem_cons.mp hnew
    rw [List.map_cons, List.nodup_cons, hi] at hdistinct
    refine ⟨?_, fun item' hitem' => ?_, hdistinct.2⟩
    · obtain ⟨_, h, hout⟩ := hhead
      rw [hi, Option.some.injEq] at h
      exact h ▸ hout
    · obtain ⟨identity', hi', hout⟩ := htail item' hitem'
      refine ⟨identity', hi', fun h => ?_⟩
      rcases List.mem_cons.mp h with rfl | h
      · exact hdistinct.1 (hi' ▸ List.mem_map_of_mem hitem')
      · exact hout h
  · refine List.forall_mem_cons.mpr ⟨⟨identity, hi, hout⟩, fun item' hitem' => ?_⟩
    obtain ⟨identity', hi', h⟩ := hnew item' hitem'
    exact ⟨identity', hi', fun hk => h (List.mem_cons_of_mem _ hk)⟩
  · rw [List.map_cons, List.nodup_cons, hi]
    refine ⟨fun h => ?_, hdistinct⟩
    obtain ⟨item', hitem', he⟩ := List.mem_map.mp h
    obtain ⟨identity', hi', hout'⟩ := hnew item' hitem'
    rw [hi', Option.some.injEq] at he
    exact hout' (he ▸ List.mem_cons_self)

/-- `n` configs that are served were added, and the rows that were there are as before. -/
def Adds (n : ℕ) (t t' : AutoTable ConfigRow) : Prop :=
  ∃ new, t'.rows = t.rows ++ new ∧ new.length = n ∧ ∀ r ∈ new, r.2.isServed

lemma Adds.unique {m n : ℕ} {t t' : AutoTable ConfigRow} (h : Adds m t t') (h' : Adds n t t') :
    m = n := by
  obtain ⟨new, hrows, rfl, -⟩ := h
  obtain ⟨new', hrows', rfl, -⟩ := h'
  rw [List.append_cancel_left (hrows.symm.trans hrows')]

/-- What the first pass does with room for every candidate: it adds them all exactly if they are
fresh, and afterwards every one it can read is known. -/
structure RoomSpec (k : Scan) (items : List ProbeResult) (s : Progress) (added : ℕ)
    (out : Added) : Prop where
  rows : ∃ n, Adds n s.configs out.progress.configs ∧ out.added = added + n
  le : out.added ≤ added + items.length
  all : out.added = added + items.length ↔ Fresh k.lib s.identities items
  known : ∀ item ∈ items, ∀ protocol, detectConfigType item.uri = some protocol →
    getConfigIdentity k.lib item.uri protocol ∈ out.progress.identities

/-- A candidate that is skipped is not fresh. -/
lemma RoomSpec.skip {k : Scan} {s : Progress} {added : ℕ} {out : Added}
    (h : RoomSpec k items s added out) (hnot : ¬Fresh k.lib s.identities (item :: items))
    (hknown : ∀ protocol, detectConfigType item.uri = some protocol →
      getConfigIdentity k.lib item.uri protocol ∈ out.progress.identities) :
    RoomSpec k (item :: items) s added out where
  rows := h.rows
  le := h.le.trans (by simp)
  all := by
    have hle := h.le
    rw [List.length_cons]
    exact iff_of_false (by omega) hnot
  known := List.forall_mem_cons.mpr ⟨hknown, h.known⟩

lemma additionPass_of_room (k : Scan) (limit : ℤ) (items : List ProbeResult) (s : Progress)
    (added duplicates : ℕ) (hroom : (added + items.length : ℤ) ≤ limit) :
    RoomSpec k items s added (additionPass k limit items s added duplicates) := by
  induction items generalizing s added duplicates with
  | nil => exact ⟨⟨0, ⟨[], by simp [additionPass]⟩, rfl⟩, le_rfl,
      iff_of_true rfl ⟨by simp, List.nodup_nil⟩, by simp⟩
  | cons item items ih =>
      rw [List.length_cons] at hroom
      push_cast at hroom
      rw [additionPass]
      cases hp : detectConfigType item.uri with
      | none =>
          refine (ih s added duplicates (by omega)).skip (fun h => ?_) (by simp [hp])
          obtain ⟨identity, hi, -⟩ := h.new item List.mem_cons_self
          rw [identity?, hp] at hi
          cases hi
      | some protocol =>
          have hi : identity? k.lib item = some (getConfigIdentity k.lib item.uri protocol) := by
            rw [identity?, hp, Option.map_some]
          by_cases hdup : getConfigIdentity k.lib item.uri protocol ∈ s.identities
          · simp only [hdup, if_true]
            refine (ih s added (duplicates + 1) (by omega)).skip (fun h => ?_) fun q hq => ?_
            · exact ((fresh_cons_iff hi).mp h).1 hdup
            · rw [hp, Option.some.injEq] at hq
              exact hq ▸ (additionPass_spec ..).known _ hdup
          · simp only [hdup, if_false]
            rw [if_neg (by omega)]
            have h := ih (insertDiscovered k s item protocol) (added + 1) duplicates
              (by push_cast; omega)
            obtain ⟨n, ⟨new, hrows, hlen, hserved⟩, hn⟩ := h.rows
            refine ⟨⟨n + 1, ⟨_ :: new, by rw [hrows, insertDiscovered, AutoTable.insert,
              List.append_assoc, List.singleton_append], by simp [hlen], ?_⟩, by omega⟩, ?_, ?_, ?_⟩
            · exact List.forall_mem_cons.mpr ⟨isServed_discovered k item protocol _, hserved⟩
            · have hle := h.le
              rw [List.length_cons]
              omega
            · rw [fresh_cons_iff hi, and_iff_right hdup, List.length_cons,
                show added + (items.length + 1) = added + 1 + items.length by omega]
              exact h.all
            · refine List.forall_mem_cons.mpr ⟨fun q hq => ?_, h.known⟩
              rw [hp, Option.some.injEq] at hq
              exact hq ▸ (additionPass_spec ..).known _ List.mem_cons_self

/-- The second pass does nothing with candidates that are known. -/
lemma replacementPass_of_known (k : Scan) (policy : CleanupPolicy) (items : List ProbeResult)
    (worsts : List (ℕ × ConfigRow)) (budget : ℤ) (s : Progress) (replaced : ℕ)
    (hk : ∀ item ∈ items, ∀ protocol, detectConfigType item.uri = some protocol →
      getConfigIdentity k.lib item.uri protocol ∈ s.identities) :
    replacementPass k policy items worsts budget s replaced = (s, replaced) := by
  induction items with
  | nil => rw [replacementPass]
  | cons item items ih =>
      obtain ⟨hitem, hitems⟩ := List.forall_mem_cons.mp hk
      cases worsts with
      | nil => rw [replacementPass]
      | cons worst worsts =>
          rw [replacementPass]
          by_cases hbudget : budget ≤ 0
          · rw [if_pos hbudget]
          · rw [if_neg hbudget]
            cases hp : detectConfigType item.uri with
            | none => exact ih hitems
            | some protocol =>
                simp only [hitem protocol hp, if_true]
                exact ih hitems

/-- With room for every candidate, the import adds them all exactly if they are fresh. -/
theorem import_of_room (order : OrderBy (ℕ × ConfigRow) Slower) (k : Scan) (db : PanelDb)
    (results : List ProbeResult) {maxActive maxNew : ℤ}
    (hactive : intSetting? db.toDb "max_active_configs" "100" = some maxActive)
    (hnew : intSetting? db.toDb "max_new_configs_per_scan" "10" = some maxNew)
    (hroom : ((results.filter ProbeResult.ok).length : ℤ)
      ≤ AutomationService.freeTarget db maxActive maxNew) :
    ∃ n, Adds n db.configs (importDiscoveredConfigs ⟨false, order⟩ k db results).1.configs
      ∧ n ≤ (results.filter ProbeResult.ok).length
      ∧ (n = (results.filter ProbeResult.ok).length
        ↔ Fresh k.lib (ConfigService.existingIdentities k.lib db.configs)
          (results.filter ProbeResult.ok)) := by
  have hperm : (healthyConfigs results).Perm (results.filter ProbeResult.ok) :=
    List.perm_insertionSort _ _
  have h : RoomSpec k (healthyConfigs results)
      ⟨db.configs, db.configHealthHistory, ConfigService.existingIdentities k.lib db.configs⟩ 0
      (afterAddition k db results maxActive maxNew) :=
    additionPass_of_room _ _ _ _ _ _ (by rwa [hperm.length_eq, Nat.cast_zero, zero_add])
  have hsecond : afterReplacement ⟨false, order⟩ k db results maxNew
      (afterAddition k db results maxActive maxNew)
        = ((afterAddition k db results maxActive maxNew).progress, 0) := by
    rw [afterReplacement]
    split_ifs
    · exact replacementPass_of_known _ _ _ _ _ _ _ h.known
    · rfl
  have himport : (importDiscoveredConfigs ⟨false, order⟩ k db results).1.configs
      = (afterAddition k db results maxActive maxNew).progress.configs := by
    simp only [importDiscoveredConfigs, hactive, hnew, Bool.false_eq_true, if_false, hsecond]
  obtain ⟨n, hadds, hn⟩ := h.rows
  have hle := h.le
  have hall := h.all
  rw [hn, Nat.zero_add, hperm.length_eq, Nat.zero_add] at hle hall
  exact ⟨n, himport ▸ hadds, hle, hall.trans (fresh_perm_iff hperm)⟩

end ConfigImporter

/-! ### The scan -/

namespace AutomationService

open ConfigImporter (Adds Fresh)

/-- The engine probes `candidates` in this order and answers what it probed, ranked. -/
def Probes (env : Env) (candidates : List ProbeResult) : Prop :=
  ∀ n jobId sources timeout scanAll target fetchC args,
    let reply := env.engine n (.discovery jobId sources timeout scanAll target fetchC args)
    reply.retCode = 0 ∧ ∃ output, parseResult reply.stdout = .ok output
      ∧ output.results.Perm (runDiscovery scanAll target candidates)

/-- A candidate that passes its probe, and whose identity is not yet in the pool. -/
def isNew (lib : ConfigLib) (db : PanelDb) (item : ProbeResult) : Bool :=
  item.ok && (ConfigImporter.identity? lib item).any fun identity =>
    identity ∉ ConfigService.existingIdentities lib db.configs

/-- The first `n` reachable candidates can all be imported: each has a latency and an identity that
is neither in the pool nor that of another one. -/
structure FirstFresh (lib : ConfigLib) (db : PanelDb) (n : ℕ) (candidates : List ProbeResult) :
    Prop where
  ok : ∀ item ∈ (candidates.filter ProbeResult.reachable).take n, item.ok
  fresh : Fresh lib (ConfigService.existingIdentities lib db.configs)
    ((candidates.filter ProbeResult.reachable).take n)

/-- The engine is asked for what can be imported. -/
lemma answers_of_probes {env : Env} {candidates : List ProbeResult} (h : Probes env candidates)
    {target : ℤ} (hpos : 0 < target) :
    Answers env target fun results =>
      results.Perm (runDiscovery (some false) (some target) candidates) := by
  intro n sources scanTimeout fetchC args
  have hinput : discoveryInput env true target sources scanTimeout fetchC args
      = .discovery env.jobId sources scanTimeout (some false) (some target) fetchC args := by
    simp [discoveryInput, hpos]
  rw [hinput]
  exact h n env.jobId sources scanTimeout (some false) (some target) fetchC args

/-- **Early stop**: a calm discovery whose candidates hold enough healthy ones adds as many as it
can import exactly if the first reachable candidates, that many of them, can all be imported. -/
theorem early_stop_progress {env : Env} (hc : Calm env) (sourceId : Option ℕ) {w : World}
    {maxActive maxNew : ℤ} {candidates : List ProbeResult} (hlock : w.scanLock = false)
    (hr : Ready w.db sourceId maxActive maxNew) (hpos : 0 < freeTarget w.db maxActive maxNew)
    (hengine : Probes env candidates)
    (hmany : freeTarget w.db maxActive maxNew ≤ candidates.countP ProbeResult.ok) :
    ∃ answer w', runScan env "discovery" sourceId w = (.ok answer, w')
      ∧ (Adds (freeTarget w.db maxActive maxNew).toNat w.db.configs w'.db.configs
        ↔ FirstFresh env.lib w.db (freeTarget w.db maxActive maxNew).toNat candidates) := by
  obtain ⟨answer, w', hrun, results, hresults, order, k, db₁, hlib, hsame, hconfigs⟩ :=
    calm_discovery hc sourceId hlock hr hpos (answers_of_probes hengine hpos)
  refine ⟨answer, w', hrun, ?_⟩
  set first := (candidates.filter ProbeResult.reachable).take
    (freeTarget w.db maxActive maxNew).toNat with hfirst
  have hreachable : freeTarget w.db maxActive maxNew
      ≤ candidates.countP ProbeResult.reachable := by
    refine hmany.trans (Int.ofNat_le.mpr (List.countP_mono_left fun item _ h => ?_))
    rw [ProbeResult.ok, Bool.and_eq_true] at h
    exact h.1
  have hlength : first.length = (freeTarget w.db maxActive maxNew).toNat := by
    rw [hfirst, List.length_take, ← List.countP_eq_length_filter]
    omega
  -- what passed its probe is among the first reachable candidates
  have hok : (results.filter ProbeResult.ok).Perm (first.filter ProbeResult.ok) := by
    have h := (hresults.filter ProbeResult.reachable).filter ProbeResult.ok
    rw [reachable_runDiscovery hpos hreachable, List.filter_filter] at h
    refine List.Perm.trans (.of_eq (List.filter_congr fun item _ => ?_)) h
    cases hitem : item.reachable <;> simp [ProbeResult.ok, hitem]
  have htarget : freeTarget db₁ maxActive maxNew = freeTarget w.db maxActive maxNew := by
    rw [freeTarget, freeTarget, hsame.configs]
  have hroom : ((results.filter ProbeResult.ok).length : ℤ) ≤ freeTarget db₁ maxActive maxNew := by
    have h : (first.filter ProbeResult.ok).length ≤ first.length := List.length_filter_le _ _
    rw [hok.length_eq, htarget]
    omega
  obtain ⟨n, hadds, hle, hall⟩ := ConfigImporter.import_of_room order k db₁ results
    (hsame.toDb ▸ hr.active) (hsame.toDb ▸ hr.new) hroom
  rw [hsame.configs, ← hconfigs] at hadds
  rw [hlib, hsame.configs, ConfigImporter.fresh_perm_iff hok, hok.length_eq] at hall
  rw [hok.length_eq] at hle
  refine ⟨fun h => ?_, fun h => ?_⟩
  · have hn : n = first.length := (hadds.unique h).trans hlength.symm
    have hkeep : first.filter ProbeResult.ok = first :=
      List.filter_sublist.eq_of_length_le (hn ▸ hle)
    rw [hkeep] at hall
    exact ⟨List.filter_eq_self.mp hkeep, hall.mp hn⟩
  · have hkeep : first.filter ProbeResult.ok = first := List.filter_eq_self.mpr h.ok
    rw [hkeep] at hall
    rw [← hlength, ← hall.mpr h.fresh]
    exact hadds

/-! ### A feed whose first config is in the pool -/

/-- A panel with that config, a feed, and room for one config a scan. -/
def sampleFed : World :=
  { sampleWorld with
    db := { HealthManager.samplePool with
      settings := [("max_active_configs", "100"), ("max_new_configs_per_scan", "1"),
        ("early_stop_enabled", "1"), ("refine_pass_enabled", "0")]
      configs := AutoTable.empty.insert
        { ConfigImporter.sampleSlow with configText := ConfigImporter.sampleFast.uri }
      autoSources := AutoTable.empty.insert
        { name := "FeedX", url := "https://feed.example/sub", priority := 1, isEnabled := true,
          createdAt := Stamp.day 0, lastScan := none, lastSuccess := none, lastError := none,
          failureCount := some 0, totalConfigs := none, totalConfigsAt := none } } }

/-- The next config of the feed. -/
def sampleNext : ProbeResult :=
  { ConfigImporter.sampleFast with
    uri := "trojan://pass@next-new.example:443#next-new", latencyMs := some 200 }

/-- An engine for which the feed holds `candidates`. -/
def sampleProbing (candidates : List ProbeResult) : Env :=
  { sampleEnv with
    engine := fun _ input =>
      match input with
      | .discovery _ _ _ scanAll target _ _ =>
        ⟨0, .ok { sampleOutput with results := runDiscovery scanAll target candidates }, "", 1000⟩
      | .health _ _ _ _ => ⟨0, .ok { sampleOutput with results := [] }, "", 1000⟩ }

lemma calm_sampleProbing (candidates : List ProbeResult) : Calm (sampleProbing candidates) :=
  ⟨rfl, rfl, rfl, fun _ => rfl, rfl⟩

lemma probes_sampleProbing (candidates : List ProbeResult) :
    Probes (sampleProbing candidates) candidates :=
  fun _ _ _ _ _ _ _ _ => ⟨rfl, _, rfl, .refl _⟩

lemma ready_sampleFed : Ready sampleFed.db none 100 1 where
  active := by decide +kernel
  new := by decide +kernel
  early := by decide +kernel
  refineOff := by decide +kernel
  sources := by decide +kernel

/-- The next config of the feed is added if it comes first, and not if it comes second. -/
theorem early_stop_progress_sample :
    (∃ answer w', runScan (sampleProbing [sampleNext]) "discovery" none sampleFed
        = (.ok answer, w') ∧ Adds 1 sampleFed.db.configs w'.db.configs)
    ∧ ∃ answer w', runScan (sampleProbing [ConfigImporter.sampleFast, sampleNext]) "discovery" none
        sampleFed = (.ok answer, w') ∧ ¬Adds 1 sampleFed.db.configs w'.db.configs := by
  have hone : freeTarget sampleFed.db 100 1 = 1 := by decide +kernel
  have hknown : ConfigImporter.identity? ConfigImporter.sampleConfigLib ConfigImporter.sampleFast
      = some (some "fast-new", "trojan://pass@fast-new.example:443") := by decide +kernel
  constructor
  · have hfirst : FirstFresh (sampleProbing [sampleNext]).lib sampleFed.db 1 [sampleNext] := by
      refine ⟨by decide +kernel, fun item hitem => ?_, List.nodup_singleton _⟩
      obtain rfl := List.mem_singleton.mp hitem
      exact ⟨(some "next-new", "trojan://pass@next-new.example:443"), by decide +kernel,
        by decide +kernel⟩
    obtain ⟨answer, w', hrun, h⟩ := early_stop_progress (calm_sampleProbing [sampleNext]) none rfl
      ready_sampleFed (by rw [hone]; decide) (probes_sampleProbing [sampleNext])
      (by rw [hone]; decide +kernel)
    rw [hone] at h
    exact ⟨answer, w', hrun, h.mpr hfirst⟩
  · obtain ⟨answer, w', hrun, h⟩ := early_stop_progress
      (calm_sampleProbing [ConfigImporter.sampleFast, sampleNext]) none rfl ready_sampleFed
      (by rw [hone]; decide) (probes_sampleProbing [ConfigImporter.sampleFast, sampleNext])
      (by rw [hone]; decide +kernel)
    rw [hone] at h
    refine ⟨answer, w', hrun, fun hadds => ?_⟩
    have hmem : ConfigImporter.sampleFast ∈ ([ConfigImporter.sampleFast, sampleNext].filter
        ProbeResult.reachable).take (1 : ℤ).toNat := by decide +kernel
    obtain ⟨identity, hi, hout⟩ := (h.mp hadds).fresh.new ConfigImporter.sampleFast hmem
    have hid : identity = (some "fast-new", "trojan://pass@fast-new.example:443") :=
      Option.some.inj (hi.symm.trans hknown)
    subst hid
    exact hout (by decide +kernel)

/-- The feed holds a new config, and the scan stops at the one before it and adds nothing. -/
theorem early_stop_adds_nothing :
    Calm (sampleProbing [ConfigImporter.sampleFast, sampleNext])
    ∧ Probes (sampleProbing [ConfigImporter.sampleFast, sampleNext])
        [ConfigImporter.sampleFast, sampleNext]
    ∧ Ready sampleFed.db none 100 1 ∧ freeTarget sampleFed.db 100 1 = 1
    ∧ [ConfigImporter.sampleFast, sampleNext].countP
        (isNew ConfigImporter.sampleConfigLib sampleFed.db) = 1
    ∧ ∃ answer w', runScan (sampleProbing [ConfigImporter.sampleFast, sampleNext]) "discovery" none
        sampleFed = (.ok answer, w') ∧ Adds 0 sampleFed.db.configs w'.db.configs
        ∧ ¬Adds 1 sampleFed.db.configs w'.db.configs := by
  have hanswer : (runScan (sampleProbing [ConfigImporter.sampleFast, sampleNext]) "discovery" none
      sampleFed).1.toOption.map Prod.fst = some true := by decide +kernel
  have hsame : (runScan (sampleProbing [ConfigImporter.sampleFast, sampleNext]) "discovery" none
      sampleFed).2.db.configs = sampleFed.db.configs := by decide +kernel
  rcases hrun : runScan (sampleProbing [ConfigImporter.sampleFast, sampleNext]) "discovery" none
    sampleFed with ⟨answer, w'⟩
  rw [hrun] at hanswer hsame
  have hnone : Adds 0 sampleFed.db.configs w'.db.configs :=
    ⟨[], by rw [hsame, List.append_nil], rfl, by simp⟩
  cases answer with
  | error e => cases hanswer
  | ok answer =>
      exact ⟨calm_sampleProbing _, probes_sampleProbing _, ready_sampleFed, by decide +kernel,
        by decide +kernel, answer, w', rfl, hnone, fun h => by cases hnone.unique h⟩

end AutomationService

end V2raySub
