import V2raySub.Base.PyText
import V2raySub.V2RayDar.ActiveProbe

/-!
Early stop over whole runs (`probe.rs`, `probe_active_batched`): the batches of a wave share a flag,
and the first one that has found enough sets it.

* `Sys.Told`, `told_of_steps`: with one process at a time, what made the scan stop is still there.
* `race_wave`: a race between two batches.  The one that has found enough waits for its process to
  end, and the other one ends before it; then the scan does not wait for the first one.
* `early_stop_delivers_iff`: **a scan that stops early has found enough, if it runs one process at a
  time, and only then**.
-/

open scoped List

namespace V2RayDar

variable {O : Type*}

open Sys

/-! ### One process at a time -/

namespace Sys

variable {limits : ProbeLimits} {policy : ProbeStopPolicy} {s s' : Sys O} {e : Event}

/-- What made the scan stop is still there. -/
def Told (policy : ProbeStopPolicy) (s : Sys O) : Prop :=
  s.cancel = true → policy.topN ≤ s.reached

lemma told_waveEnd {previous : ℕ} (h : s.cancel = true → policy.topN ≤ reachableCount s.ranked) :
    Told policy (waveEnd policy previous s) := by
  rcases waveEnd_cases policy previous s with ⟨stop, heq⟩ | ⟨⟨stop, heq⟩, hmany, -⟩
  · rw [heq]
    exact h
  · rw [heq]
    exact fun _ => hmany

/-- One process at a time: no batch is given up beside the one that made the scan stop. -/
lemma told_of_steps (hone : limits.processes = 1) (hs : s.Inv limits policy) (htold : Told policy s)
    (h : Steps limits policy s e s') : Told policy s' := by
  cases h with
  | cancelled => exact htold
  | finish hphase =>
      intro hc
      have := htold hc
      rw [reached, hphase] at this
      exact this
  | begin hphase hhalted => exact fun hc => absurd (.inr (.inl hc)) hhalted
  | launch hphase =>
      rename_i more previous wave hend
      have hshape := hs.shape
      rw [Shape, hphase] at hshape
      have hgo := hshape.2
      rw [goOn]
      split_ifs
      · exact told_waveEnd fun hc => by rw [hgo] at hc; cases hc
      · exact fun hc => by rw [show s.cancel = true from hc] at hgo; cases hgo
  | drain hphase hhalted => exact fun hc => absurd (.inr (.inl hc)) hhalted
  | goes hphase ht hstep =>
      have hok := hs.tasks _ (by rw [hphase]; exact List.mem_of_getElem? ht)
      have hinv := inv_goes hs hphase ht (settled_step hok hstep)
      exact fun hc => hinv.enough hc _ _ rfl
  | ended hphase ht hstep =>
      rename_i previous place wave t e cancel outcome
      have hok := hs.tasks _ (by rw [hphase]; exact List.mem_of_getElem? ht)
      have hsettled := settled_step hok hstep
      have hshape := hs.shape
      rw [Shape, hphase, hone] at hshape
      -- the batch was the only one
      have hrest : wave.eraseIdx place = [] := by
        have := List.length_eraseIdx_add_one (List.getElem?_eq_some_iff.mp ht).1
        exact List.length_eq_zero_iff.mp (by have := hshape.2; omega)
      have hsum : waveReached (wave.eraseIdx place) + t.reached = waveReached wave :=
        sum_map_eraseIdx ht
      have hreached : t.reached ≤ reachableCount outcome.ranked := hsettled.reached
      have hall : cancel = true →
          policy.topN ≤ reachableCount (s.ranked ++ outcome.ranked) := fun hc => by
        rw [reachableCount_append]
        cases hcancel : s.cancel with
        | true =>
            have := htold hcancel
            rw [hrest] at hsum
            simp only [reached, hphase, Phase.wave, waveReached, List.map_nil, List.sum_nil] at *
            omega
        | false =>
            have := hsettled.reason hcancel hc
            simp only [Progress.reached] at this
            omega
      rcases consume_cases policy previous (wave.eraseIdx place) outcome { s with cancel := cancel }
        with ⟨heq, hmany, -⟩ | ⟨heq, -⟩ | ⟨heq, hgo⟩
      · rw [heq]
        exact told_waveEnd fun _ => hmany
      · rw [heq]
        exact told_waveEnd hall
      · rw [heq, hrest, goOn, List.isEmpty_nil, if_pos rfl]
        exact told_waveEnd hall

end Sys

/-- Every scan that is not cancelled reports every definition, or enough that are reachable. -/
def Delivers (limits : ProbeLimits) : Prop :=
  ∀ (O : Type) (lib : OutboundLib O) (numCpus : ℕ) (candidates : List Candidate)
    (policy : ProbeStopPolicy) (es : List Event) (s : Sys O),
    let preparation := prepareActiveCandidates lib numCpus candidates policy
    probeActive limits policy preparation es = some s → s.phase = .finished →
    s.external = false →
    candidatesFromRanked s.ranked ~ preparation.reported ∨ policy.topN ≤ reachableCount s.ranked

lemma delivers_of_one {limits : ProbeLimits} (hone : limits.processes = 1) : Delivers limits := by
  intro O lib numCpus candidates policy es s preparation hrun hfinished hexternal
  have htold : s.Inv limits policy ∧ Told policy s :=
    Guarded.run_inv (I := fun s => s.Inv limits policy ∧ Told policy s)
      (fun hstep hs => ⟨(stepped_of_step hstep hs.1).1,
        told_of_steps hone hs.1 hs.2 (steps_of_step hstep)⟩)
      hrun ⟨inv_init .., by simp [Told, Sys.init]⟩
  cases hcancel : s.cancel with
  | true =>
      have hmany := htold.2 hcancel
      rw [reached, hfinished] at hmany
      exact .inr hmany
  | false =>
      have hshape := htold.1.shape
      rw [Shape, hfinished] at hshape
      have hempty : s.prepared = [] := by
        rcases hshape with h | h | h
        · exact List.isEmpty_iff.mp h
        · rw [hcancel] at h
          cases h
        · rw [hexternal] at h
          cases h
      have hperm := perm_reported hrun hfinished hcancel
      rw [hempty] at hperm
      exact .inl (by simpa [representatives] using hperm)

/-! ### Two processes -/

/-- One working config is enough. -/
def samplePolicy : ProbeStopPolicy where
  scanAllConfigs := false
  topN := 1
  prioritizeStability := false
  previousWorkingKeys := []

section Race

variable (limits : ProbeLimits) (sizer : ActiveBatchSizer) (first last : PreparedActiveCandidate O)
  (rest : List (PreparedActiveCandidate O)) (previous : ℕ) (stop : ProbeStopState)

/-- The wave of the race: a batch that begins with `first`, and one with the last definition. -/
def sampleWave : Sys O where
  prepared := []
  ranked := []
  sizer := sizer
  stop := stop
  cancel := false
  external := false
  phase := .running previous [.new (first :: rest) samplePolicy, .new [last] samplePolicy]

/-- Where a batch of the race waits. -/
def sampleTask (entries : List (PreparedActiveCandidate O)) (stage : Stage O) : Task O :=
  { Task.new entries samplePolicy with pending := [], stage := stage }

/-- The probes of the first batch. -/
def sampleProbes : Stage O :=
  .probing (activeProbeHttpConcurrency limits.concurrency (rest.length + 1)) (first :: rest) []

/-- What it finds. -/
def sampleFound : List RankedConfig := [successfulConfig first.candidate ⟨100, 204, none⟩]

lemma step_probed_sample :
    (sampleTask (first :: rest) (sampleProbes limits first rest)).step limits samplePolicy false
        (.probed 0 (.ok ⟨100, 204, none⟩))
      = some (true, .goes (sampleTask (first :: rest) (.closing (sampleFound first)))) := by
  have hlimit := (httpConcurrency_bounds limits.concurrency (rest.length + 1)).1
  unfold Task.step
  simp only [sampleTask, sampleProbes, List.getElem?_cons_zero]
  rw [if_neg (by omega), if_neg Bool.false_ne_true]
  rfl

/-- The first batch finds a working config and waits for its process to end; the second one, which
is told to stop, ends before it. -/
lemma race_wave : ∃ s, Guarded.run (Sys.step limits samplePolicy)
    (sampleWave sizer first last rest previous stop)
    [.task 0 .poll, .task 1 .poll, .task 0 .ready, .task 0 (.probed 0 (.ok ⟨100, 204, none⟩)),
      .task 1 .ready, .task 1 .closed, .main] = some s
    ∧ s.phase = .finished ∧ s.external = false ∧ s.ranked = [] := by
  have hprobed := step_probed_sample limits first rest
  -- the two batches start, and the first has its probes under way
  have hstart : Guarded.run (Sys.step limits samplePolicy)
      (sampleWave sizer first last rest previous stop)
      [.task 0 .poll, .task 1 .poll, .task 0 .ready]
        = some { sampleWave sizer first last rest previous stop with
          phase := .running previous [sampleTask (first :: rest) (sampleProbes limits first rest),
            sampleTask [last] (.starting [last])] } := rfl
  have hfound : Sys.step limits samplePolicy { sampleWave sizer first last rest previous stop with
          phase := .running previous [sampleTask (first :: rest) (sampleProbes limits first rest),
            sampleTask [last] (.starting [last])] }
          (.task 0 (.probed 0 (.ok ⟨100, 204, none⟩)))
        = some { sampleWave sizer first last rest previous stop with
          cancel := true
          phase := .running previous [sampleTask (first :: rest) (.closing (sampleFound first)),
            sampleTask [last] (.starting [last])] } := by
    simp only [Sys.step, List.getElem?_cons_zero, sampleWave, hprobed, List.set_cons_zero]
  -- the second one stops, and the scan does not wait for the first
  have hlost : ∃ s, Guarded.run (Sys.step limits samplePolicy)
      { sampleWave sizer first last rest previous stop with
        cancel := true
        phase := .running previous [sampleTask (first :: rest) (.closing (sampleFound first)),
          sampleTask [last] (.starting [last])] }
      [.task 1 .ready, .task 1 .closed, .main] = some s
      ∧ s.phase = .finished ∧ s.external = false ∧ s.ranked = [] := ⟨_, rfl, rfl, rfl, rfl⟩
  obtain ⟨s, hrun, hs⟩ := hlost
  refine ⟨s, ?_, hs⟩
  exact Guarded.run_append_eq_some.mpr ⟨_, hstart, Guarded.run_cons_eq_some.mpr ⟨_, hfound, hrun⟩⟩

end Race

/-- A wave takes as large a batch as it may. -/
lemma step_drain (limits : ProbeLimits) (policy : ProbeStopPolicy) {s : Sys O}
    {more previous : ℕ} {wave : List (Task O)} {batch rest : List (PreparedActiveCandidate O)}
    (hphase : s.phase = .draining (more + 1) previous wave) (hgo : s.cancel = false)
    (hexternal : s.external = false) (hsplit : s.prepared = batch ++ rest) (hne : batch ≠ [])
    (hlen : s.sizer.nextLen (batch ++ rest).length = batch.length) :
    s.step limits policy .main = some { s with
      prepared := rest
      phase := .draining more (previous + previousWorkingEntryCount batch policy)
        (wave ++ [.new batch policy]) } := by
  have hhalted : ¬s.Halted := by
    rw [Halted, hsplit, hgo, hexternal]
    simp [hne]
  unfold Sys.step
  dsimp only
  rw [hphase]
  dsimp only
  rw [if_neg hhalted, drain, hsplit, hlen, List.take_left, List.drop_left]

/-- The two batches are taken, if the first is as large as may be. -/
lemma race_drain {limits : ProbeLimits} (htwo : 2 ≤ limits.processes)
    {preparation : ActivePreparation O} {first last : PreparedActiveCandidate O}
    {rest : List (PreparedActiveCandidate O)} (hranked : preparation.ranked = [])
    (hprepared : preparation.prepared = (first :: rest) ++ [last])
    (hlen : (first :: rest).length
      = (ActiveBatchSizer.new limits.concurrency limits.batchSize).current) :
    ∃ sizer previous stop, probeActive limits samplePolicy preparation [.main, .main, .main, .main]
      = some (sampleWave sizer first last rest previous stop) := by
  obtain ⟨more, hmore⟩ : ∃ more, limits.processes = more + 2 := ⟨limits.processes - 2, by omega⟩
  set s := Sys.init limits samplePolicy preparation with hs
  have hsizer : s.sizer.current = (first :: rest).length := hlen.symm
  have hbegin : s.step limits samplePolicy .main
      = some { s with phase := .draining (more + 2) 0 [] } := by
    unfold Sys.step
    rw [hmore]
    simp [hs, Sys.init, Halted, hprepared]
  have hfirst : Sys.step limits samplePolicy { s with phase := .draining (more + 2) 0 [] } .main
      = some { s with
        prepared := [last]
        phase := .draining (more + 1)
          (0 + previousWorkingEntryCount (first :: rest) samplePolicy)
          ([] ++ [.new (first :: rest) samplePolicy]) } :=
    step_drain limits samplePolicy rfl rfl rfl hprepared (by simp) (by
      rw [ActiveBatchSizer.nextLen, hsizer, List.length_append]
      exact Nat.min_eq_right (Nat.le_add_right _ _))
  have hsecond : Sys.step limits samplePolicy { s with
        prepared := [last]
        phase := .draining (more + 1)
          (0 + previousWorkingEntryCount (first :: rest) samplePolicy)
          ([] ++ [.new (first :: rest) samplePolicy]) } .main
      = some { s with
        prepared := []
        phase := .draining more (0 + previousWorkingEntryCount (first :: rest) samplePolicy
            + previousWorkingEntryCount [last] samplePolicy)
          ([] ++ [.new (first :: rest) samplePolicy] ++ [.new [last] samplePolicy]) } :=
    step_drain limits samplePolicy rfl rfl rfl (List.append_nil [last]).symm (by simp) (by
      rw [ActiveBatchSizer.nextLen, hsizer]
      exact Nat.min_eq_left (by simp))
  refine ⟨s.sizer, 0 + previousWorkingEntryCount (first :: rest) samplePolicy
    + previousWorkingEntryCount [last] samplePolicy, s.stop, ?_⟩
  refine Guarded.run_cons_eq_some.mpr ⟨_, hbegin, Guarded.run_cons_eq_some.mpr ⟨_, hfirst,
    Guarded.run_cons_eq_some.mpr ⟨_, hsecond, Guarded.run_cons_eq_some.mpr ⟨_, ?_, rfl⟩⟩⟩⟩
  cases more <;> simp [Sys.step, Halted, goOn, sampleWave, hs, Sys.init, hranked]

/-! ### A feed of distinct links -/

/-- A link of the feed. -/
def sampleLink (i : ℕ) : Candidate where
  id := toString i
  dedupKey := "trojan|a.example|" ++ toString i ++ "|tcp|tls"
  source := "FeedX"
  priority := 1
  protocol := "trojan"
  name := toString i
  endpoint := ⟨"a.example", i⟩
  uri := "trojan://pass@a.example:" ++ toString i

/-- Every link has an outbound of its own. -/
def sampleOutbounds : OutboundLib String where
  fromShareLink := .ok
  normalizedKey := id

/-- The feed. -/
def sampleFeed (size : ℕ) : List Candidate := (List.range size).map sampleLink

lemma keyOf_sampleOutbounds (c : Candidate) : sampleOutbounds.keyOf c = some c.uri := rfl

lemma sampleLink_injective : Function.Injective fun i => (sampleLink i).uri := by
  intro i j h
  refine PyText.toString_injective (String.toList_inj.mp ?_)
  have hlist := congrArg String.toList h
  simp only [sampleLink, String.toList_append] at hlist
  exact List.append_cancel_left hlist

/-- Each link of the feed is probed. -/
lemma prepare_sampleFeed (size numCpus : ℕ) :
    (prepareActiveCandidates sampleOutbounds numCpus (sampleFeed size) samplePolicy).ranked = []
      ∧ (prepareActiveCandidates sampleOutbounds numCpus (sampleFeed size)
        samplePolicy).prepared.length = size := by
  have hgroups := groups_prepareActiveCandidates sampleOutbounds numCpus (sampleFeed size)
    samplePolicy
  have hperm := perm_scheduleActiveCandidates (sampleFeed size) samplePolicy
  refine ⟨?_, ?_⟩
  · rw [ranked_prepareActiveCandidates]
    exact List.filterMap_eq_nil_iff.mpr fun c _ => rfl
  · -- there are as many keys as links
    have huris : ((sampleFeed size).map Candidate.uri).Nodup := by
      rw [sampleFeed, List.map_map]
      exact List.nodup_range.map sampleLink_injective
    have hkeys : sampleOutbounds.keys
        (prepareActiveCandidates sampleOutbounds numCpus (sampleFeed size) samplePolicy).prepared
          ~ (sampleFeed size).map Candidate.uri := by
      refine (List.perm_ext_iff_of_nodup hgroups.nodup huris).mpr fun uri => ⟨fun h => ?_,
        fun h => ?_⟩
      · obtain ⟨e, he, rfl⟩ := List.mem_map.mp h
        have hmem : e.candidate ∈ e.members := List.mem_cons_self
        rw [hgroups.members e he] at hmem
        refine List.mem_map.mpr ⟨e.candidate, ?_, ?_⟩
        · exact hperm.mem_iff.mp (List.mem_of_mem_filter hmem)
        · exact Option.some.inj (by simpa [keyOf_sampleOutbounds] using List.of_mem_filter hmem)
      · obtain ⟨c, hc, rfl⟩ := List.mem_map.mp h
        exact hgroups.all c (hperm.mem_iff.mpr hc) _ (keyOf_sampleOutbounds c)
    have hlen := hkeys.length_eq
    rw [OutboundLib.keys, List.length_map, List.length_map, sampleFeed, List.length_map,
      List.length_range] at hlen
    exact hlen

/-- **Early stop delivers with one process at a time, and only then**: with more of them a scan can
end with less than it was to find and without the results that made it stop. -/
theorem early_stop_delivers_iff (limits : ProbeLimits) :
    Delivers limits ↔ limits.processes = 1 := by
  refine ⟨fun h => ?_, delivers_of_one⟩
  by_contra hne
  have htwo : 2 ≤ limits.processes := by
    have := processes_pos limits
    omega
  set size := (ActiveBatchSizer.new limits.concurrency limits.batchSize).current with hsize
  have hpos : 0 < size := (ActiveBatchSizer.ok_new limits.concurrency limits.batchSize).pos
  -- a batch that is as large as can be, and one more definition
  obtain ⟨hranked, hlen⟩ := prepare_sampleFeed (size + 1) 1
  set preparation :=
    prepareActiveCandidates sampleOutbounds 1 (sampleFeed (size + 1)) samplePolicy with hprep
  obtain ⟨batch, last, hsplit⟩ : ∃ batch last, preparation.prepared = batch ++ [last] :=
    ⟨_, _, (List.dropLast_append_getLast (List.length_pos_iff.mp (by omega))).symm⟩
  have hbatch : batch.length = size := by
    rw [hsplit, List.length_append, List.length_singleton] at hlen
    omega
  obtain ⟨first, rest, rfl⟩ :=
    List.exists_cons_of_ne_nil (List.length_pos_iff.mp (hbatch.symm ▸ hpos))
  obtain ⟨sizer, previous, stop, hdrain⟩ := race_drain htwo hranked hsplit (hbatch.trans hsize)
  obtain ⟨s, hrun, hfinished, hexternal, hnone⟩ :=
    race_wave limits sizer first last rest previous stop
  have hwhole := Guarded.run_append_eq_some.mpr ⟨_, hdrain, hrun⟩
  rcases h String sampleOutbounds 1 (sampleFeed (size + 1)) samplePolicy _ s hwhole hfinished
    hexternal with hperm | hmany
  · have hsame := hperm.length_eq
    rw [hnone, ActivePreparation.reported, ← hprep, hsplit] at hsame
    simp [candidatesFromRanked, representatives] at hsame
  · rw [hnone] at hmany
    exact absurd hmany (by decide)

end V2RayDar
