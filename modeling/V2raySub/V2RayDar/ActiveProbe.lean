import V2raySub.V2RayDar.Probing

/-!
The active probe over whole runs (`probe.rs`, `probe_active_batched`), whatever the order its
batches and probes end in.

* `active_probe_reports`: **no result is made up or given twice, and a full scan reports every
  definition**; if it is cancelled, those of the batches it has begun.
* `active_probe_ends`: every run is bounded, and can be brought to its end.
* `active_probe_bounded`: how many processes and probes there are at once.
-/

open scoped List

namespace V2RayDar

variable {O : Type*}

/-- The candidates the probe of these entries reports. -/
def representatives (entries : List (PreparedActiveCandidate O)) : List Candidate :=
  entries.map PreparedActiveCandidate.candidate

/-- What is reported of a preparation that is probed in full. -/
def ActivePreparation.reported (preparation : ActivePreparation O) : List Candidate :=
  representatives preparation.prepared ++ candidatesFromRanked preparation.ranked

/-- The scan after these events. -/
def probeActive (limits : ProbeLimits) (policy : ProbeStopPolicy)
    (preparation : ActivePreparation O) (es : List Event) : Option (Sys O) :=
  Guarded.run (Sys.step limits policy) (Sys.init limits policy preparation) es

lemma representatives_append (l₁ l₂ : List (PreparedActiveCandidate O)) :
    representatives (l₁ ++ l₂) = representatives l₁ ++ representatives l₂ := List.map_append

/-- The entries stand for a candidate as often as they hold it. -/
lemma count_representatives (c : Candidate) (entries : List (PreparedActiveCandidate O)) :
    (representatives entries).count c = heldBy c entries := by
  rw [representatives, List.count_eq_countP, List.countP_map, heldBy]
  exact List.countP_congr fun e _ => by simp

/-- The results report a candidate as often as it was found. -/
lemma count_candidatesFromRanked (c : Candidate) (ranked : List RankedConfig) :
    (candidatesFromRanked ranked).count c = foundFor c ranked := by
  rw [candidatesFromRanked, List.count_eq_countP, List.countP_map, foundFor]
  exact List.countP_congr fun r _ => by simp

namespace Sys

variable {limits : ProbeLimits} {policy : ProbeStopPolicy} {preparation : ActivePreparation O}
  {es : List Event} {s s' : Sys O} {e : Event}

/-- The end of a wave does not cancel. -/
lemma external_waveEnd (policy : ProbeStopPolicy) (previous : ℕ) (s : Sys O) :
    (waveEnd policy previous s).external = s.external := by
  rw [waveEnd]
  split_ifs <;> rfl

/-- Going on with a wave does not cancel. -/
lemma external_goOn (policy : ProbeStopPolicy) (previous : ℕ) (wave : List (Task O)) (s : Sys O) :
    (goOn policy previous wave s).external = s.external := by
  rw [goOn]
  split_ifs
  · exact external_waveEnd policy previous s
  · rfl

/-- What an event keeps and does, in the terms of the invariant. -/
lemma stepped_of_step (h : s.step limits policy e = some s') (hs : s.Inv limits policy) :
    s'.Inv limits policy ∧ Stepped policy s s' := stepped_of_steps hs (steps_of_step h)

/-- The invariant holds at every moment of a run. -/
lemma inv_run (h : probeActive limits policy preparation es = some s) : s.Inv limits policy :=
  Guarded.run_inv (fun hstep hs => (stepped_of_step hstep hs).1) h (inv_init ..)

/-- What a run does to the scan. -/
lemma stepped_run (h : probeActive limits policy preparation es = some s) :
    Stepped policy (init limits policy preparation) s :=
  Guarded.run_rel Stepped.refl Stepped.trans (fun hstep hs => stepped_of_step hstep hs) h
    (inv_init ..)

/-- Only the policy sets its flag. -/
lemma external_of_steps (h : Steps limits policy s e s') (he : e ≠ .cancel) :
    s'.external = s.external := by
  cases h with
  | cancelled => exact absurd rfl he
  | finish => rfl
  | begin => rfl
  | launch => exact external_goOn ..
  | drain => rfl
  | goes => rfl
  | ended =>
      rw [consume, settle]
      split_ifs
      · exact external_waveEnd ..
      · exact external_waveEnd ..
      · exact external_goOn ..

/-- At the start the scan holds what it is to report. -/
lemma held_init (c : Candidate) :
    (init limits policy preparation).held c = preparation.reported.count c := by
  rw [ActivePreparation.reported, List.count_append, count_representatives,
    count_candidatesFromRanked]
  rfl

/-- What is left of the candidates when the scan is finished. -/
lemma held_finished (c : Candidate) (h : s.phase = .finished) :
    s.held c = (candidatesFromRanked s.ranked ++ representatives s.prepared).count c := by
  rw [List.count_append, count_representatives, count_candidatesFromRanked, held, h]
  simp only [Phase.wave, waveHeld, List.map_nil, List.sum_nil]
  omega

end Sys

/-! ### Two links in two processes -/

/-- Two links, each an entry of its own. -/
def samplePreparation : ActivePreparation Unit where
  prepared := [⟨sampleCandidate "a", [], ()⟩, ⟨sampleCandidate "b", [], ()⟩]
  ranked := []
  preparedCandidates := 2

/-- A batch has one link, and a wave two batches. -/
def sampleLimits : ProbeLimits := ⟨4, some 1, some 2, 4⟩

/-- All of the configs. -/
def sampleAll : ProbeStopPolicy := ⟨true, 1, false, []⟩

/-- Two batches are begun, and both processes are up. -/
def sampleBegun : List Event :=
  [.main, .main, .main, .main, .task 0 .poll, .task 1 .poll, .task 1 .ready, .task 0 .ready]

/-- The second link works, the first one does not. -/
def sampleEvents : List Event :=
  sampleBegun ++ [.task 1 (.probed 0 (.ok ⟨5, 204, none⟩)), .task 1 .closed,
    .task 0 (.probed 0 (.error "timeout")), .task 0 .closed, .main]

/-- The scan in the middle of its first wave. -/
def sampleMid : Sys Unit :=
  (probeActive sampleLimits sampleAll samplePreparation sampleBegun).get rfl

/-- The scan at its end. -/
def sampleEnd : Sys Unit :=
  (probeActive sampleLimits sampleAll samplePreparation sampleEvents).get rfl

lemma probeActive_begun :
    probeActive sampleLimits sampleAll samplePreparation sampleBegun = some sampleMid := rfl

lemma probeActive_sample :
    probeActive sampleLimits sampleAll samplePreparation sampleEvents = some sampleEnd := rfl

/-! ### Every run -/

open Sys

section Runs

variable {limits : ProbeLimits} {policy : ProbeStopPolicy} {preparation : ActivePreparation O}
  {es : List Event} {s : Sys O}

/-- What is left when the scan was not stopped early. -/
lemma perm_reported (hrun : probeActive limits policy preparation es = some s)
    (hfinished : s.phase = .finished) (hgo : s.cancel = false) :
    candidatesFromRanked s.ranked ++ representatives s.prepared ~ preparation.reported := by
  refine List.perm_iff_count.mpr fun c => ?_
  rw [← held_finished c hfinished, (stepped_run hrun).all hgo c, held_init]

/-- A finished scan reports no candidate that was not to be probed, and none twice. -/
lemma subperm_reported (hrun : probeActive limits policy preparation es = some s)
    (hfinished : s.phase = .finished) :
    (candidatesFromRanked s.ranked).Subperm preparation.reported := by
  refine List.subperm_ext_iff.mpr fun c _ => ?_
  have hkeeps := (stepped_run hrun).keeps c
  rw [held_finished c hfinished, held_init, List.count_append] at hkeeps
  omega

/-- A scan that is neither stopped nor cancelled leaves nothing. -/
lemma prepared_eq_nil (hrun : probeActive limits policy preparation es = some s)
    (hfinished : s.phase = .finished) (hgo : s.cancel = false) (hexternal : s.external = false) :
    s.prepared = [] := by
  have hshape := (inv_run hrun).shape
  rw [Shape, hfinished] at hshape
  rcases hshape with h | h | h
  · exact List.isEmpty_iff.mp h
  · rw [hgo] at h
    cases h
  · rw [hexternal] at h
    cases h

/-- A scan nobody cancels is not cancelled. -/
lemma external_run (hrun : probeActive limits policy preparation es = some s)
    (h : Event.cancel ∉ es) : s.external = false := by
  refine Guarded.run_inv_of_mem (I := fun s : Sys O => s.external = false)
    (fun {s e s'} he hstep hs => ?_) hrun rfl
  have hne : e ≠ .cancel := fun hcancel => h (hcancel ▸ he)
  rw [external_of_steps (steps_of_step hstep) hne, hs]

/-- **What a scan reports**: never a result that is made up, and never two of one definition.  A
scan of all the configs reports the definitions of the batches it has begun, and these are all of
them if it was not cancelled. -/
theorem active_probe_reports (hrun : probeActive limits policy preparation es = some s)
    (hfinished : s.phase = .finished) :
    (candidatesFromRanked s.ranked).Subperm preparation.reported
      ∧ (policy.scanAllConfigs = true → ∃ begun, preparation.prepared = begun ++ s.prepared
        ∧ candidatesFromRanked s.ranked
            ~ representatives begun ++ candidatesFromRanked preparation.ranked
        ∧ (s.external = false → s.prepared = [])) := by
  refine ⟨subperm_reported hrun hfinished, fun hscan => ?_⟩
  have hgo : s.cancel = false := (stepped_run hrun).scanAll hscan
  obtain ⟨begun, hsplit⟩ := (stepped_run hrun).suffix
  have hsplit : preparation.prepared = begun ++ s.prepared := hsplit.symm
  refine ⟨begun, hsplit, ?_, fun hexternal => ?_⟩
  · have hperm := perm_reported hrun hfinished hgo
    rw [ActivePreparation.reported, hsplit, representatives_append, List.append_assoc] at hperm
    -- what was not begun is on both sides
    refine (List.perm_append_right_iff (representatives s.prepared)).mp (hperm.trans ?_)
    rw [List.append_assoc]
    exact .append_left _ List.perm_append_comm
  · exact prepared_eq_nil hrun hfinished hgo hexternal

theorem active_probe_reports_sample : sampleEnd.phase = .finished
    ∧ (candidatesFromRanked sampleEnd.ranked).Subperm samplePreparation.reported
    ∧ ∃ begun, samplePreparation.prepared = begun ++ sampleEnd.prepared
      ∧ candidatesFromRanked sampleEnd.ranked
          ~ representatives begun ++ candidatesFromRanked samplePreparation.ranked
      ∧ sampleEnd.prepared = [] :=
  have hreports := active_probe_reports probeActive_sample rfl
  have ⟨begun, hbegun, hperm, hall⟩ := hreports.2 rfl
  ⟨rfl, hreports.1, begun, hbegun, hperm, hall rfl⟩

/-- **Every scan ends**: a run has a bounded number of steps, beside those that cancel it, and every
run can be continued to its end. -/
theorem active_probe_ends (hrun : probeActive limits policy preparation es = some s) :
    es.countP (fun e => e ≠ .cancel) ≤ 20 * preparation.prepared.length + 9
      ∧ ∃ es' s', probeActive limits policy preparation (es ++ es') = some s'
        ∧ s'.phase = .finished := by
  have hstep : ∀ {s : Sys O} {e : Event} {s' : Sys O}, s.step limits policy e = some s' →
      s.Inv limits policy → s'.Inv limits policy
        ∧ s'.work + (if decide (e ≠ .cancel) then 1 else 0) ≤ s.work := fun {s e s'} h hs => by
    refine ⟨(stepped_of_step h hs).1, ?_⟩
    have hwork := work_le_of_steps hs (steps_of_step h)
    by_cases he : e = .cancel <;> simpa [he] using hwork
  constructor
  · have hwork := Guarded.countP_le_of_run hstep hrun (inv_init ..)
    have hhead : (if (init limits policy preparation).Halted then 1 else 9) ≤ 9 := by
      split_ifs <;> omega
    calc es.countP (fun e => e ≠ .cancel)
        ≤ (init limits policy preparation).work := Nat.le_trans (Nat.le_add_left _ _) hwork
      _ ≤ 20 * preparation.prepared.length + 9 := Nat.add_le_add_left hhead _
  · have hgo : ∀ {s : Sys O}, s.Inv limits policy → s.phase ≠ .finished →
        ∃ e s', s.step limits policy e = some s' ∧ s'.Inv limits policy ∧ s'.work < s.work :=
      fun {s} hs hphase => by
        obtain ⟨e, s', hne, h⟩ := exists_step hs hphase
        obtain ⟨hs', hwork⟩ := hstep h hs
        rw [if_pos (by simpa using hne)] at hwork
        exact ⟨e, s', h, hs', hwork⟩
    obtain ⟨es', s', hrun', hfinished⟩ :=
      Guarded.exists_run_of_progress (fun s => s.phase = .finished) hgo (inv_run hrun)
    exact ⟨es', s', Guarded.run_append_eq_some.mpr ⟨s, hrun, hrun'⟩, hfinished⟩

theorem active_probe_ends_sample : sampleBegun.countP (fun e => e ≠ .cancel) ≤ 20 * 2 + 9
    ∧ ∃ es' s', probeActive sampleLimits sampleAll samplePreparation (sampleBegun ++ es') = some s'
      ∧ s'.phase = .finished :=
  active_probe_ends probeActive_begun

/-- The definitions a process has. -/
def Stage.definitions : Stage O → ℕ
  | .starting entries => entries.length
  | .probing _ left _ => left.length
  | _ => 0

/-- **The resources are bounded**: at every moment there are no more than `processes` processes, and
none has more definitions, or more probes under way, than fit. -/
theorem active_probe_bounded (hrun : probeActive limits policy preparation es = some s) :
    s.phase.wave.length ≤ limits.processes
      ∧ limits.processes ≤ activeProbeProcessMaxConcurrency
      ∧ (∀ t ∈ s.phase.wave, t.stage.definitions ≤ activeProbeBatchMaxSize
        ∧ ∀ limit left found, t.stage = .probing limit left found →
          limit ≤ activeProbeHttpMaxConcurrency) := by
  have hinv := inv_run hrun
  refine ⟨?_, processes_le limits, fun t ht => ?_⟩
  · have hshape := hinv.shape
    rw [Shape] at hshape
    rcases hphase : s.phase with _ | ⟨more, previous, wave⟩ | ⟨previous, wave⟩ | _
    · exact Nat.zero_le _
    · rw [hphase] at hshape
      have := hshape.1
      simp only [Phase.wave]
      omega
    · rw [hphase] at hshape
      exact hshape.2
    · exact Nat.zero_le _
  · have hstage := (hinv.tasks t ht).stage
    refine ⟨?_, fun limit left found hphase => ?_⟩
    · rcases hphase : t.stage with _ | entries | ⟨limit, left, found⟩ | found
      · exact Nat.zero_le _
      · rw [hphase] at hstage
        exact hstage.2
      · rw [hphase] at hstage
        exact hstage.2.2
      · exact Nat.zero_le _
    · rw [hphase] at hstage
      exact hstage.1.2

theorem active_probe_bounded_sample : sampleMid.phase.wave.length = 2
    ∧ sampleMid.phase.wave.length ≤ sampleLimits.processes
    ∧ ∀ t ∈ sampleMid.phase.wave, t.stage.definitions ≤ activeProbeBatchMaxSize :=
  have hbounded := active_probe_bounded probeActive_begun
  ⟨rfl, hbounded.1, fun t ht => (hbounded.2.2 t ht).1⟩

end Runs

end V2RayDar
