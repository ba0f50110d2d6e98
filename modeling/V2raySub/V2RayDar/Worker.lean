import V2raySub.Automation.Schema
import V2raySub.V2RayDar.Document
import V2raySub.V2RayDar.Fetch
import V2raySub.V2RayDar.ProbeCandidates

/-!
The two jobs the panel has the engine do (`worker.rs`): to probe the links of some subscriptions
(`run_discovery`), or the links it is given (`run_health`).

* `WorkerEngine`: what a run depends on beside its input: how documents and links are read, and the
  machine.
* `health_answers`: **a health check answers about the links it was asked about**, each at most
  once, and passes over none but those whose outbound key it has an answer for.
* `discovery_answers`: **a discovery answers about links of its sources**, no link twice.
-/

open scoped List

namespace V2RayDar

open SortBy
open V2raySub (ProbeResult)

variable {O : Type*}

/-! ### The definitions -/

structure WorkerEngine (O : Type*) where
  documents : DocumentLib
  outbounds : OutboundLib O
  machine : Machine

/-- How the engine reads a link. -/
def WorkerEngine.links (engine : WorkerEngine O) : LinkLib := engine.documents.links

structure InputConfig where
  uri : String
  protocol : Option String
  deriving DecidableEq

structure InputSource where
  name : String
  url : String
  priority : Option ℕ
  deriving DecidableEq

/-- The fields of the input a discovery reads (`WorkerInput`). -/
structure DiscoveryInput where
  sources : Option (List InputSource)
  scanAll : Option Bool
  targetCount : Option ℕ
  deriving DecidableEq

def workerResult (r : RankedConfig) : ProbeResult where
  uri := r.uri
  protocol := r.protocol
  reachable := r.reachable
  latencyMs := r.latencyMs
  countryCode := r.countryCode
  validation := r.validation
  error := r.error
  source := r.source

def mapRankedResults (ranked : List RankedConfig) : List ProbeResult := ranked.map workerResult

/-- The candidate of a link of a health check. -/
def healthCandidate (links : LinkLib) (index : ℕ) (cfg : InputConfig) : Candidate :=
  match parseShareLink links "health-check" 100 cfg.uri with
  | .ok candidate => { candidate with id := "hc-" ++ toString index }
  | .error _ => {
      id := "hc-" ++ toString index
      dedupKey := "failed-parse-" ++ toString index
      source := "health-check"
      priority := 100
      protocol := cfg.protocol.getD "unknown"
      name := "Invalid URI #" ++ toString index
      endpoint := ⟨"invalid", 0⟩
      uri := cfg.uri }

def healthPolicy (candidates : List Candidate) : ProbeStopPolicy where
  scanAllConfigs := true
  topN := candidates.length
  prioritizeStability := false
  previousWorkingKeys := []

/-- `run_health`: the results, or the error. -/
def runHealth (engine : WorkerEngine O) (config : ProbeConfig) (schedule : Schedule)
    (configs : Option (List InputConfig)) : Option (Except String (List ProbeResult)) :=
  match configs with
  | none => some (.error "Missing 'configs' field for health_check mode")
  | some configs =>
    let candidates := configs.mapIdx (healthCandidate engine.links)
    if candidates.isEmpty = true then some (.ok [])
    else
      (probeCandidates engine.outbounds engine.machine config (healthPolicy candidates) schedule
        candidates).map fun ranked => .ok (mapRankedResults ranked)

def discoveryPolicy (input : DiscoveryInput) (candidates : List Candidate) : ProbeStopPolicy where
  scanAllConfigs := input.scanAll.getD false
  topN :=
    if input.scanAll.getD false = true then candidates.length
    else (input.targetCount.map fun n => clamp n 1 candidates.length).getD candidates.length
  prioritizeStability := false
  previousWorkingKeys := []

/-- The sources as the loader is given them. -/
def subscriptionSource (s : InputSource) : SubscriptionSource where
  name := s.name
  url := s.url
  enabled := true
  priority := s.priority.getD 100

/-- What a source gives (`fetch_source`), where its address answers `response` (`fetch_body`). -/
def fetchSource (lib : DocumentLib) (response : Except String (List UInt8))
    (source : SubscriptionSource) : Except String (List Candidate) :=
  match response with
  | .error err => .error err
  | .ok body => .ok (parseSubscriptionDocument lib source.name source.priority body)

/-- `run_discovery`; `answers` are what the sources answer, in the order they do, or the error of
the client. -/
def runDiscovery (engine : WorkerEngine O) (config : ProbeConfig) (schedule : Schedule)
    (answers : Except String (List Fetched)) (input : DiscoveryInput) :
    Option (Except String (List ProbeResult)) :=
  match input.sources, answers with
  | none, _ => some (.error "Missing 'sources' field for discovery mode")
  | some _, .error err => some (.error err)
  | some _, .ok answers =>
    let candidates := (fetchSources answers).candidates
    if candidates.isEmpty = true then some (.ok [])
    else
      (probeCandidates engine.outbounds engine.machine config (discoveryPolicy input candidates)
        schedule candidates).map fun ranked => .ok (mapRankedResults ranked)

/-! ### A health check -/

/-- What two links are compared by. -/
def OutboundLib.keyOfLink (lib : OutboundLib O) (uri : String) : Option String :=
  ((lib.fromShareLink uri).toOption).map lib.normalizedKey

/-- Two links have one outbound key. -/
def OutboundLib.Same (lib : OutboundLib O) (uri uri' : String) : Prop :=
  ∃ k, lib.keyOfLink uri = some k ∧ lib.keyOfLink uri' = some k

@[simp] lemma uri_healthCandidate (links : LinkLib) (index : ℕ) (cfg : InputConfig) :
    (healthCandidate links index cfg).uri = cfg.uri := by
  rw [healthCandidate]
  cases h : parseShareLink links "health-check" 100 cfg.uri with
  | error err => rfl
  | ok c =>
      have huri : c.uri = cfg.uri := uri_of_parseShareLink h
      exact huri

lemma uris_healthCandidates (links : LinkLib) (configs : List InputConfig) :
    (configs.mapIdx (healthCandidate links)).map Candidate.uri = configs.map InputConfig.uri := by
  refine List.ext_getElem (by simp) fun i h _ => ?_
  simp

lemma uris_mapRankedResults (ranked : List RankedConfig) :
    (mapRankedResults ranked).map ProbeResult.uri
      = (candidatesFromRanked ranked).map Candidate.uri := by
  rw [mapRankedResults, candidatesFromRanked, List.map_map, List.map_map]
  rfl

lemma subperm_map {α β : Type*} (f : α → β) {l l' : List α} (h : l <+~ l') :
    l.map f <+~ l'.map f := by
  obtain ⟨m, hperm, hsub⟩ := h
  exact ⟨m.map f, hperm.map f, hsub.map f⟩

/-- What covers the candidates has an answer for their links. -/
lemma Covers.uris {lib : OutboundLib O} {candidates : List Candidate} {ranked : List RankedConfig}
    (h : Covers lib candidates ranked) {uri : String} (huri : uri ∈ candidates.map Candidate.uri) :
    uri ∈ (mapRankedResults ranked).map ProbeResult.uri
      ∨ ∃ uri' ∈ (mapRankedResults ranked).map ProbeResult.uri, lib.Same uri uri' := by
  obtain ⟨c, hc, rfl⟩ := List.mem_map.mp huri
  rw [uris_mapRankedResults]
  rcases h c hc with hown | ⟨c', hc', k, hk, hk'⟩
  · exact .inl (List.mem_map_of_mem hown)
  · exact .inr ⟨c'.uri, List.mem_map_of_mem hc', k, hk, hk'⟩

section Health

variable {engine : WorkerEngine O} {config : ProbeConfig} {schedule : Schedule}
  {configs : List InputConfig} {results : List ProbeResult}

/-- The run behind the answer. -/
lemma exists_ranked_of_runHealth
    (h : runHealth engine config schedule (some configs) = some (.ok results)) :
    ∃ ranked, results = mapRankedResults ranked
      ∧ candidatesFromRanked ranked <+~ configs.mapIdx (healthCandidate engine.links)
      ∧ (schedule.Uncancelled → Covers engine.outbounds
        (configs.mapIdx (healthCandidate engine.links)) ranked) := by
  unfold runHealth at h
  dsimp only at h
  split_ifs at h with hempty
  · cases h
    rw [List.isEmpty_iff.mp hempty]
    exact ⟨[], rfl, .refl _, fun _ c hc => absurd hc List.not_mem_nil⟩
  · obtain ⟨ranked, hranked, hresults⟩ := Option.map_eq_some_iff.mp h
    cases hresults
    exact ⟨ranked, rfl, subperm_probeCandidates hranked, covers_probeCandidates hranked rfl⟩

lemma subperm_runHealth
    (h : runHealth engine config schedule (some configs) = some (.ok results)) :
    results.map ProbeResult.uri <+~ configs.map InputConfig.uri := by
  obtain ⟨ranked, rfl, hsub, -⟩ := exists_ranked_of_runHealth h
  rw [uris_mapRankedResults, ← uris_healthCandidates engine.links]
  exact subperm_map _ hsub

lemma covers_runHealth
    (h : runHealth engine config schedule (some configs) = some (.ok results))
    (hgo : schedule.Uncancelled) {uri : String} (huri : uri ∈ configs.map InputConfig.uri) :
    uri ∈ results.map ProbeResult.uri
      ∨ ∃ uri' ∈ results.map ProbeResult.uri, engine.outbounds.Same uri uri' := by
  obtain ⟨ranked, rfl, -, hcovers⟩ := exists_ranked_of_runHealth h
  refine (hcovers hgo).uris ?_
  rwa [uris_healthCandidates]

end Health

/-- **A health check answers about the links it was asked about**, about none more often than it was
asked; and if nobody cancels it, there is an answer about each of them, or about one with its
outbound key. -/
theorem health_answers {engine : WorkerEngine O} {config : ProbeConfig} {schedule : Schedule}
    {configs : List InputConfig} {results : List ProbeResult}
    (h : runHealth engine config schedule (some configs) = some (.ok results)) :
    results.map ProbeResult.uri <+~ configs.map InputConfig.uri
      ∧ (schedule.Uncancelled → ∀ cfg ∈ configs, cfg.uri ∈ results.map ProbeResult.uri
        ∨ ∃ uri ∈ results.map ProbeResult.uri, engine.outbounds.Same cfg.uri uri) :=
  ⟨subperm_runHealth h, fun hgo _ hcfg => covers_runHealth h hgo (List.mem_map_of_mem hcfg)⟩

def sampleWorker (found : List String) : WorkerEngine String :=
  ⟨sampleDocuments found, sampleShared, sampleMachine⟩

/-- Two links with one outbound: one of them is answered. -/
theorem health_answers_sample : ∃ results : List ProbeResult,
    runHealth (sampleWorker []) sampleConfig sampleSchedule
        (some [⟨"vless://a", none⟩, ⟨"vless://b", some "vless"⟩]) = some (.ok results)
      ∧ results.map ProbeResult.uri <+~ ["vless://a", "vless://b"] :=
  ⟨_, rfl, (health_answers (show runHealth (sampleWorker []) sampleConfig sampleSchedule
    (some [⟨"vless://a", none⟩, ⟨"vless://b", some "vless"⟩])
      = some (.ok [⟨"vless://a", "vless", true, some 5, none, "active_http", none, "health-check"⟩])
    from rfl)).1⟩

/-! ### A discovery -/

lemma candidates_fetchSources (answers : List Fetched) : (fetchSources answers).candidates
    = (retainNew [] ((sortBy (compareOn Prod.fst) (answers.filterMap Fetched.fetched?)).map
      Prod.snd).flatten).1 := by
  rw [fetchSources, retainAll_eq, fetchedSources_collect]

lemma nodup_fetchSources (answers : List Fetched) :
    ((fetchSources answers).candidates.map Candidate.dedupKey).Nodup := by
  rw [candidates_fetchSources]
  exact nodup_retainNew _ _

/-- The candidates are those of the answers. -/
lemma mem_fetchSources {answers : List Fetched} {c : Candidate}
    (h : c ∈ (fetchSources answers).candidates) :
    ∃ a ∈ answers, ∃ cs, a.result = .ok cs ∧ c ∈ cs := by
  rw [candidates_fetchSources] at h
  obtain ⟨cs, hcs, hc⟩ := List.mem_flatten.mp ((sublist_retainNew _ _).subset h)
  obtain ⟨p, hp, rfl⟩ := List.mem_map.mp hcs
  obtain ⟨a, ha, hp⟩ := List.mem_filterMap.mp ((perm_sortBy _).mem_iff.mp hp)
  unfold Fetched.fetched? at hp
  cases hresult : a.result with
  | error err =>
      rw [hresult] at hp
      cases hp
  | ok cs =>
      rw [hresult] at hp
      cases hp
      exact ⟨a, ha, cs, hresult, hc⟩

/-- A link gives one key. -/
lemma dedupKey_of_read {links : LinkLib} {c c' : Candidate} (h : Read links c)
    (h' : Read links c') (huri : c.uri = c'.uri) : c.dedupKey = c'.dedupKey := by
  obtain ⟨source, priority, hc⟩ := h
  obtain ⟨source', priority', hc'⟩ := h'
  unfold parseShareLink at hc hc'
  rw [← huri] at hc'
  cases hparse : links.parse c.uri with
  | error err =>
      rw [hparse] at hc
      cases hc
  | ok parsed =>
      rw [hparse] at hc hc'
      have hkey := congrArg Candidate.dedupKey (Except.ok.inj hc)
      have hkey' := congrArg Candidate.dedupKey (Except.ok.inj hc')
      exact hkey.symm.trans hkey'

/-- Candidates that were read, no two with one key, have no link in common. -/
lemma nodup_uris (links : LinkLib) {cs : List Candidate}
    (hkeys : (cs.map Candidate.dedupKey).Nodup) (hread : ∀ c ∈ cs, Read links c) :
    (cs.map Candidate.uri).Nodup := by
  refine List.Nodup.map_on (fun c hc c' hc' huri => ?_) (List.Nodup.of_map _ hkeys)
  exact List.inj_on_of_nodup_map hkeys hc hc' (dedupKey_of_read (hread c hc) (hread c' hc') huri)

lemma nodup_of_subperm {α : Type*} {l l' : List α} (h : l <+~ l') (hn : l'.Nodup) : l.Nodup := by
  obtain ⟨m, hperm, hsub⟩ := h
  exact hperm.nodup_iff.mp (hn.sublist hsub)

section Discovery

variable {engine : WorkerEngine O} {config : ProbeConfig} {schedule : Schedule}
  {answers : List Fetched} {input : DiscoveryInput}
  {results : List ProbeResult} {download : ℕ → Except String (List UInt8)}

/-- The run behind the answer. -/
lemma exists_ranked_of_runDiscovery
    (h : runDiscovery engine config schedule (.ok answers) input = some (.ok results)) :
    ∃ ranked, results = mapRankedResults ranked
      ∧ candidatesFromRanked ranked <+~ (fetchSources answers).candidates
      ∧ ranked.Pairwise (Le compareRanked)
      ∧ (input.scanAll = some true → schedule.Uncancelled →
        Covers engine.outbounds (fetchSources answers).candidates ranked) := by
  unfold runDiscovery at h
  cases hsources : input.sources with
  | none =>
      rw [hsources] at h
      cases h
  | some sources =>
      rw [hsources] at h
      dsimp only at h
      split_ifs at h with hempty
      · cases h
        rw [List.isEmpty_iff.mp hempty]
        exact ⟨[], rfl, .refl _, .nil, fun _ _ c hc => absurd hc List.not_mem_nil⟩
      · obtain ⟨ranked, hranked, hresults⟩ := Option.map_eq_some_iff.mp h
        cases hresults
        refine ⟨ranked, rfl, subperm_probeCandidates hranked, ?_, fun hscan => ?_⟩
        · exact pairwise_probeCandidates hranked
        · exact covers_probeCandidates hranked (by rw [discoveryPolicy, hscan]; rfl)

/-- The sources of a discovery are all asked, each in its place. -/
lemma mem_answersOf {fetch : ℕ → SubscriptionSource → Except String (List Candidate)}
    {sources : List InputSource} {a : Fetched}
    (h : a ∈ answersOf fetch (sources.map subscriptionSource)) :
    ∃ i s, sources[i]? = some s
      ∧ a = ⟨i, subscriptionSource s, fetch i (subscriptionSource s)⟩ := by
  have hall : (sources.map subscriptionSource).filter SubscriptionSource.enabled
      = sources.map subscriptionSource := by
    refine List.filter_eq_self.mpr fun source hsource => ?_
    obtain ⟨s, -, rfl⟩ := List.mem_map.mp hsource
    rfl
  rw [answersOf, hall] at h
  obtain ⟨⟨source, i⟩, hp, rfl⟩ := List.mem_map.mp h
  have hget := List.mem_zipIdx_iff_getElem?.mp hp
  rw [List.getElem?_map, Option.map_eq_some_iff] at hget
  obtain ⟨s, hs, rfl⟩ := hget
  exact ⟨i, s, hs, rfl⟩

/-- Where a candidate is from. -/
lemma mem_document (hanswers : answers ~ answersOf
      (fun i source => fetchSource engine.documents (download i) source)
      ((input.sources.getD []).map subscriptionSource)) {c : Candidate}
    (hc : c ∈ (fetchSources answers).candidates) :
    ∃ i s body, (input.sources.getD [])[i]? = some s ∧ download i = .ok body
      ∧ c ∈ parseSubscriptionDocument engine.documents s.name (s.priority.getD 100) body := by
  obtain ⟨a, ha, cs, hresult, hmem⟩ := mem_fetchSources hc
  obtain ⟨i, s, hs, rfl⟩ := mem_answersOf (hanswers.mem_iff.mp ha)
  dsimp only at hresult
  unfold fetchSource at hresult
  cases hbody : download i with
  | error err =>
      rw [hbody] at hresult
      cases hresult
  | ok body =>
      rw [hbody] at hresult
      cases hresult
      exact ⟨i, s, body, hs, hbody, hmem⟩

/-- Where a result is from. -/
lemma from_source (h : runDiscovery engine config schedule (.ok answers) input = some (.ok results))
    (hanswers : answers ~ answersOf
      (fun i source => fetchSource engine.documents (download i) source)
      ((input.sources.getD []).map subscriptionSource)) {r : ProbeResult} (hr : r ∈ results) :
    ∃ i s body, (input.sources.getD [])[i]? = some s ∧ download i = .ok body
      ∧ r.uri ∈ (parseSubscriptionDocument engine.documents s.name (s.priority.getD 100)
        body).map Candidate.uri := by
  obtain ⟨ranked, rfl, hsub, -⟩ := exists_ranked_of_runDiscovery h
  obtain ⟨item, hitem, rfl⟩ := List.mem_map.mp hr
  obtain ⟨i, s, body, hs, hbody, hmem⟩ := mem_document hanswers
    (hsub.subset (List.mem_map_of_mem hitem))
  exact ⟨i, s, body, hs, hbody, List.mem_map_of_mem hmem⟩

/-- **A discovery answers about links of its sources**, no link twice, the reachable ones first and
among these the fast ones; a scan of all of them that nobody cancels has an answer about each of the
links that were kept, or about one with its outbound key.  What a source answers depends on its
place: two sources with one address may get different bodies. -/
theorem discovery_answers
    (h : runDiscovery engine config schedule (.ok answers) input = some (.ok results))
    (hanswers : answers ~ answersOf
      (fun i source => fetchSource engine.documents (download i) source)
      ((input.sources.getD []).map subscriptionSource)) :
    (results.map ProbeResult.uri).Nodup
      ∧ (∀ r ∈ results, ∃ i s body, (input.sources.getD [])[i]? = some s ∧ download i = .ok body
        ∧ r.uri ∈ (parseSubscriptionDocument engine.documents s.name (s.priority.getD 100)
          body).map Candidate.uri)
      ∧ results.Pairwise (fun a b => (b.reachable = true → a.reachable = true)
        ∧ (a.reachable = b.reachable →
          a.latencyMs.getD latencyMax ≤ b.latencyMs.getD latencyMax))
      ∧ (input.scanAll = some true → schedule.Uncancelled →
        ∀ c ∈ (fetchSources answers).candidates, c.uri ∈ results.map ProbeResult.uri
          ∨ ∃ uri ∈ results.map ProbeResult.uri, engine.outbounds.Same c.uri uri) := by
  have hfrom := fun r hr => from_source h hanswers (r := r) hr
  obtain ⟨ranked, rfl, hsub, hsorted, hcovers⟩ := exists_ranked_of_runDiscovery h
  have huris : ((fetchSources answers).candidates.map Candidate.uri).Nodup :=
    nodup_uris engine.links (nodup_fetchSources answers) fun c hc => by
      obtain ⟨i, s, body, -, -, hmem⟩ := mem_document hanswers hc
      exact read_parseSubscriptionDocument hmem
  refine ⟨?_, hfrom, ?_, fun hscan hgo c hc => ?_⟩
  · rw [uris_mapRankedResults]
    exact nodup_of_subperm (subperm_map _ hsub) huris
  · exact List.pairwise_map.mpr (hsorted.imp fun hle =>
      ⟨fun hb => reachable_of_le hle hb, fun hsame => latency_le_of_le hle hsame⟩)
  · exact (hcovers hscan hgo).uris (List.mem_map_of_mem hc)

/-- Two sources with one address. -/
def sampleInput : DiscoveryInput :=
  ⟨some [⟨"first", "https://feed", none⟩, ⟨"second", "https://feed", none⟩], some true, none⟩

/-- The address answers each time with other links, one of them the same. -/
def sampleDownload (i : ℕ) : Except String (List UInt8) :=
  .ok (PyText.utf8 (if i = 0 then "vless://a\nvless://b" else "vless://b\nvless://c"))

/-- Every link has an outbound of its own. -/
def sampleEngine : WorkerEngine String :=
  ⟨sampleDocuments [], ⟨.ok, id⟩, sampleMachine⟩

/-- A wave of two batches and one of the last batch; one probe fails. -/
def sampleRounds : Schedule :=
  ⟨[], [.main, .main, .main, .main, .task 0 .poll, .task 1 .poll, .task 1 .ready, .task 0 .ready,
    .task 0 (.probed 0 (.ok ⟨9, 204, none⟩)), .task 1 (.probed 0 (.error "timeout")),
    .task 1 .closed, .task 0 .closed, .main, .main, .main, .task 0 .poll, .task 0 .ready,
    .task 0 (.probed 0 (.ok ⟨5, 204, none⟩)), .task 0 .closed, .main], fun _ => none⟩

def sampleAnswers : List Fetched :=
  answersOf (fun i source => fetchSource sampleEngine.documents (sampleDownload i) source)
    ((sampleInput.sources.getD []).map subscriptionSource)

/-- The fast link comes first and the dead one last, and the link of both sources is answered
once. -/
def sampleResults : List ProbeResult :=
  [⟨"vless://b", "vless", true, some 5, none, "active_http", none, "first"⟩,
    ⟨"vless://a", "vless", true, some 9, none, "active_http", none, "first"⟩,
    ⟨"vless://c", "vless", false, none, none, "active_http", some "timeout", "second"⟩]

theorem discovery_answers_sample :
    runDiscovery sampleEngine sampleConfig sampleRounds (.ok sampleAnswers) sampleInput
        = some (.ok sampleResults)
      ∧ (sampleResults.map ProbeResult.uri).Nodup
      ∧ sampleResults.Pairwise (fun a b => (b.reachable = true → a.reachable = true)
        ∧ (a.reachable = b.reachable → a.latencyMs.getD latencyMax ≤ b.latencyMs.getD latencyMax))
      ∧ ∀ c ∈ (fetchSources sampleAnswers).candidates, c.uri ∈ sampleResults.map ProbeResult.uri
        ∨ ∃ uri ∈ sampleResults.map ProbeResult.uri, sampleEngine.outbounds.Same c.uri uri := by
  have h : runDiscovery sampleEngine sampleConfig sampleRounds (.ok sampleAnswers) sampleInput
      = some (.ok sampleResults) := by
    decide +kernel
  have hgo : sampleRounds.Uncancelled := ⟨nofun, by decide⟩
  obtain ⟨hnodup, -, horder, hcovers⟩ := discovery_answers h (.refl _)
  exact ⟨h, hnodup, horder, hcovers rfl hgo⟩

end Discovery

end V2RayDar
