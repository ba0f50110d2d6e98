import V2raySub.Base.Guarded
import V2raySub.V2RayDar.Pieces

/-!
The active probe over whole runs (`probe.rs`, `probe_active_batched`).

* `Sys.Steps`: what a step of the scan is; the numbers of the scan are those of its wave and of what
  is around it (`Sys.held`, `Sys.reached`, `Sys.work`).
* `Stepped`, `Inv`, `work_lt_of_steps`: what a step does to them.
* `exists_step`: a scan that is not finished can go on.
-/

open scoped List

namespace V2RayDar

variable {O : Type*}

/-! ### Sums over a wave -/

section Sums

variable {α : Type*} {f : α → ℕ} {l : List α} {i : ℕ} {a : α}

/-- One summand changes. -/
lemma sum_map_set (h : l[i]? = some a) (b : α) :
    ((l.set i b).map f).sum + f a = (l.map f).sum + f b := by
  induction l generalizing i with
  | nil => cases h
  | cons x l ih =>
      cases i with
      | zero =>
          obtain rfl := Option.some.inj h
          simp only [List.set_cons_zero, List.map_cons, List.sum_cons]
          omega
      | succ i =>
          have := ih (i := i) h
          simp only [List.set_cons_succ, List.map_cons, List.sum_cons]
          omega

/-- One summand goes. -/
lemma sum_map_eraseIdx (h : l[i]? = some a) :
    ((l.eraseIdx i).map f).sum + f a = (l.map f).sum := by
  induction l generalizing i with
  | nil => cases h
  | cons x l ih =>
      cases i with
      | zero =>
          obtain rfl := Option.some.inj h
          simp only [List.eraseIdx_cons_zero, List.map_cons, List.sum_cons]
          omega
      | succ i =>
          have := ih (i := i) h
          simp only [List.eraseIdx_cons_succ, List.map_cons, List.sum_cons]
          omega

end Sums

/-! ### The numbers of a scan -/

/-- How often a candidate is in the batches of a wave. -/
def waveHeld (c : Candidate) (wave : List (Task O)) : ℕ := (wave.map (Task.held c)).sum

/-- The reachable results of these batches. -/
def waveReached (wave : List (Task O)) : ℕ := (wave.map Task.reached).sum

/-- The steps these batches still take. -/
def waveWork (wave : List (Task O)) : ℕ := (wave.map Task.work).sum

/-- The batches that are under way. -/
def Phase.wave : Phase O → List (Task O)
  | .draining _ _ wave => wave
  | .running _ wave => wave
  | _ => []

namespace Sys

/-- How often a candidate is in what is left, in what is under way and in the results. -/
def held (c : Candidate) (s : Sys O) : ℕ :=
  heldBy c s.prepared + foundFor c s.ranked + waveHeld c s.phase.wave

/-- The reachable results, those of the batches under way among them. -/
def reached (s : Sys O) : ℕ := reachableCount s.ranked + waveReached s.phase.wave

/-- A bound on the steps that are left: a wave takes its batches, has them run, and goes back to the
head of the loop. -/
def work (s : Sys O) : ℕ :=
  20 * s.prepared.length + waveWork s.phase.wave +
    match s.phase with
    | .head => if s.Halted then 1 else 9
    | .draining more _ wave => more + 2 + if wave.isEmpty = true then 0 else 10
    | .running _ _ => 10
    | .finished => 0

/-! ### The steps -/

/-- What a step is. -/
inductive Steps (limits : ProbeLimits) (policy : ProbeStopPolicy) (s : Sys O) :
    Event → Sys O → Prop where
  | cancelled : Steps limits policy s .cancel { s with external := true }
  | finish : s.phase = .head → s.Halted →
      Steps limits policy s .main { s with phase := .finished }
  | begin : s.phase = .head → ¬s.Halted →
      Steps limits policy s .main { s with phase := .draining limits.processes 0 [] }
  | launch {more previous : ℕ} {wave : List (Task O)} :
      s.phase = .draining more previous wave → more = 0 ∨ s.Halted →
      Steps limits policy s .main (goOn policy previous wave s)
  | drain {more previous : ℕ} {wave : List (Task O)} :
      s.phase = .draining (more + 1) previous wave → ¬s.Halted →
      Steps limits policy s .main (drain policy more previous wave s)
  | goes {previous place : ℕ} {wave : List (Task O)} {t t' : Task O} {e : TaskEvent}
      {cancel : Bool} : s.phase = .running previous wave → wave[place]? = some t →
      t.step limits policy s.cancel e = some (cancel, .goes t') →
      Steps limits policy s (.task place e)
        { s with cancel := cancel, phase := .running previous (wave.set place t') }
  | ended {previous place : ℕ} {wave : List (Task O)} {t : Task O} {e : TaskEvent} {cancel : Bool}
      {outcome : BatchProbeOutcome} : s.phase = .running previous wave → wave[place]? = some t →
      t.step limits policy s.cancel e = some (cancel, .ended outcome) →
      Steps limits policy s (.task place e)
        (consume policy previous (wave.eraseIdx place) outcome { s with cancel := cancel })

variable {limits : ProbeLimits} {policy : ProbeStopPolicy} {s s' : Sys O} {e : Event}

/-- There are no other steps. -/
lemma steps_of_step (h : s.step limits policy e = some s') : Steps limits policy s e s' := by
  cases e with
  | cancel =>
      cases h
      exact .cancelled
  | main =>
      unfold step at h
      rcases hphase : s.phase with _ | ⟨more, previous, wave⟩ | ⟨previous, wave⟩ | _
      · rw [hphase] at h
        dsimp only at h
        split_ifs at h with hhalted
        · cases h
          exact .finish hphase hhalted
        · cases h
          exact .begin hphase hhalted
      · rw [hphase] at h
        cases more with
        | zero =>
            cases h
            exact .launch hphase (.inl rfl)
        | succ more =>
            dsimp only at h
            split_ifs at h with hhalted
            · cases h
              exact .launch hphase (.inr hhalted)
            · cases h
              exact .drain hphase hhalted
      · rw [hphase] at h
        cases h
      · rw [hphase] at h
        cases h
  | task place e =>
      unfold step at h
      dsimp only at h
      split at h
      · rename_i previous wave hphase
        split at h
        · cases h
        · rename_i t ht
          split at h
          · cases h
          · rename_i cancel t' hstep
            cases h
            exact .goes hphase ht hstep
          · rename_i cancel outcome hstep
            cases h
            exact .ended hphase ht hstep
      · cases h

/-- The end of a wave: the scan is over because enough was found, or it goes back to the head. -/
lemma waveEnd_cases (policy : ProbeStopPolicy) (previous : ℕ) (s : Sys O) :
    (∃ stop, waveEnd policy previous s = { s with stop := stop, phase := .head })
      ∨ (∃ stop, waveEnd policy previous s
          = { s with stop := stop, cancel := true, phase := .finished })
        ∧ policy.topN ≤ reachableCount s.ranked ∧ policy.scanAllConfigs = false := by
  rw [waveEnd]
  split_ifs with hstop
  · exact .inr ⟨⟨_, rfl⟩, topN_le_of_probeStopReason hstop, scanAll_of_probeStopReason hstop⟩
  · exact .inl ⟨_, rfl⟩

/-- A batch is over: enough was found, or the scan was given up before, or it goes on. -/
lemma consume_cases (policy : ProbeStopPolicy) (previous : ℕ) (wave : List (Task O))
    (outcome : BatchProbeOutcome) (s : Sys O) :
    (consume policy previous wave outcome s
        = waveEnd policy previous { collect outcome s with cancel := true }
      ∧ policy.topN ≤ reachableCount (collect outcome s).ranked
      ∧ policy.scanAllConfigs = false)
    ∨ (consume policy previous wave outcome s = waveEnd policy previous (collect outcome s)
      ∧ s.cancel = true)
    ∨ (consume policy previous wave outcome s = goOn policy previous wave (collect outcome s)
      ∧ s.cancel = false) := by
  rw [consume, settle]
  split_ifs with hstop hcancel
  · exact .inl ⟨rfl, topN_le_of_probeStopReason hstop.2, scanAll_of_probeStopReason hstop.2⟩
  · exact .inr (.inl ⟨rfl, hcancel⟩)
  · exact .inr (.inr ⟨rfl, Bool.eq_false_of_not_eq_true hcancel⟩)

/-! ### What a step does to the candidates -/

/-- How two states of a run are related. -/
structure Stepped (policy : ProbeStopPolicy) (s s' : Sys O) : Prop where
  keeps : ∀ c, s'.held c ≤ s.held c
  all : s'.cancel = false → ∀ c, s'.held c = s.held c
  flag : s.cancel = true → s'.cancel = true
  external : s.external = true → s'.external = true
  scanAll : policy.scanAllConfigs = true → s'.cancel = s.cancel
  suffix : s'.prepared <:+ s.prepared

lemma Stepped.refl (s : Sys O) : Stepped policy s s :=
  ⟨fun _ => Nat.le_refl _, fun _ _ => rfl, id, id, fun _ => rfl, List.suffix_refl _⟩

lemma Stepped.trans {s₁ s₂ s₃ : Sys O} (h : Stepped policy s₁ s₂) (h' : Stepped policy s₂ s₃) :
    Stepped policy s₁ s₃ where
  keeps c := Nat.le_trans (h'.keeps c) (h.keeps c)
  all hgo c := by
    have hgo₂ : s₂.cancel = false := by
      by_contra hc
      rw [h'.flag (by simpa using hc)] at hgo
      cases hgo
    exact (h'.all hgo c).trans (h.all hgo₂ c)
  flag hc := h'.flag (h.flag hc)
  external he := h'.external (h.external he)
  scanAll hs := (h'.scanAll hs).trans (h.scanAll hs)
  suffix := h'.suffix.trans h.suffix

/-- After a wave the results are kept, and the rest is left or dropped for good. -/
lemma stepped_waveEnd (policy : ProbeStopPolicy) (previous : ℕ) {s : Sys O}
    (h : s.phase.wave = [] ∨ s.cancel = true) : Stepped policy s (waveEnd policy previous s) := by
  have hle : ∀ c, heldBy c s.prepared + foundFor c s.ranked ≤ s.held c := fun c =>
    Nat.le_add_right _ _
  have heq : s.phase.wave = [] → ∀ c, heldBy c s.prepared + foundFor c s.ranked = s.held c :=
    fun hw c => by
      rw [held, hw]
      rfl
  rcases waveEnd_cases policy previous s with ⟨stop, heq'⟩ | ⟨⟨stop, heq'⟩, -, hscan⟩
  · rw [heq']
    refine ⟨hle, fun hgo c => ?_, id, id, fun _ => rfl, List.suffix_refl _⟩
    rcases h with hw | hc
    · exact heq hw c
    · rw [show s.cancel = false from hgo] at hc
      cases hc
  · rw [heq']
    refine ⟨hle, by simp, fun _ => rfl, id, fun hs => ?_, List.suffix_refl _⟩
    rw [hscan] at hs
    cases hs

/-- So are they while the wave goes on. -/
lemma stepped_goOn (policy : ProbeStopPolicy) (previous : ℕ) {wave : List (Task O)} {s : Sys O}
    (h : s.phase.wave = wave) : Stepped policy s (goOn policy previous wave s) := by
  rw [goOn]
  split_ifs with hempty
  · exact stepped_waveEnd policy previous (.inl (h.trans (List.isEmpty_iff.mp hempty)))
  · refine ⟨fun c => ?_, fun _ c => ?_, id, id, fun _ => rfl, List.suffix_refl _⟩
    · rw [held, held, h]
      exact Nat.le_refl _
    · rw [held, held, h]
      rfl

/-- What becomes of a wave when one of its batches goes on. -/
lemma stepped_goes {previous place : ℕ} {wave : List (Task O)} {t t' : Task O} {cancel : Bool}
    (hphase : s.phase = .running previous wave) (ht : wave[place]? = some t)
    (h : t.Settles policy s.cancel (cancel, .goes t')) :
    Stepped policy s
      { s with cancel := cancel, phase := .running previous (wave.set place t') } := by
  have hsum : ∀ c, waveHeld c (wave.set place t') + t.held c = waveHeld c wave + t'.held c :=
    fun c => sum_map_set ht t'
  refine ⟨fun c => ?_, fun hgo c => ?_, h.flag, id, h.scanAll, List.suffix_refl _⟩
  · have hkeep := h.keeps c
    have := hsum c
    simp only [Progress.held] at hkeep
    simp only [held, hphase, Phase.wave]
    omega
  · have hall := h.all hgo c
    have := hsum c
    simp only [Progress.held] at hall
    simp only [held, hphase, Phase.wave]
    omega

/-- A batch leaves its wave, and its results stay. -/
lemma stepped_collect {previous place : ℕ} {wave : List (Task O)} {t : Task O} {cancel : Bool}
    {outcome : BatchProbeOutcome} (hphase : s.phase = .running previous wave)
    (ht : wave[place]? = some t)
    (h : t.Settles policy s.cancel (cancel, .ended outcome)) :
    Stepped policy s { collect outcome { s with cancel := cancel } with
      phase := .running previous (wave.eraseIdx place) } := by
  have hsum : ∀ c, waveHeld c (wave.eraseIdx place) + t.held c = waveHeld c wave :=
    fun c => sum_map_eraseIdx ht
  refine ⟨fun c => ?_, fun hgo c => ?_, h.flag, id, h.scanAll, List.suffix_refl _⟩
  · have hkeep := h.keeps c
    have := hsum c
    simp only [Progress.held] at hkeep
    simp only [held, hphase, Phase.wave, collect, foundFor_append]
    omega
  · have hall := h.all hgo c
    have := hsum c
    simp only [Progress.held] at hall
    simp only [held, hphase, Phase.wave, collect, foundFor_append]
    omega

/-- A wave that is given up. -/
lemma stepped_giveUp (policy : ProbeStopPolicy) (phase : Phase O) {s : Sys O}
    (hscan : s.cancel = true ∨ policy.scanAllConfigs = false) :
    Stepped policy { s with phase := phase } { s with cancel := true, phase := .head } where
  keeps _ := Nat.add_le_add_left (Nat.zero_le _) _
  all := by simp
  flag _ := rfl
  external := id
  scanAll hs := by
    rcases hscan with hc | hc
    · exact hc.symm
    · rw [hs] at hc
      cases hc
  suffix := List.suffix_refl _

/-- The end of a wave does not look at what the phase was. -/
lemma waveEnd_phase (policy : ProbeStopPolicy) (previous : ℕ) (s : Sys O) (phase : Phase O) :
    waveEnd policy previous { s with phase := phase } = waveEnd policy previous s := rfl

lemma goOn_phase (policy : ProbeStopPolicy) (previous : ℕ) (wave : List (Task O)) (s : Sys O)
    (phase : Phase O) :
    goOn policy previous wave { s with phase := phase } = goOn policy previous wave s := rfl

/-- The outcome of a batch takes the place of the batch. -/
lemma stepped_consume {previous place : ℕ} {wave : List (Task O)} {t : Task O} {cancel : Bool}
    {outcome : BatchProbeOutcome} (hphase : s.phase = .running previous wave)
    (ht : wave[place]? = some t)
    (h : t.Settles policy s.cancel (cancel, .ended outcome)) :
    Stepped policy s
      (consume policy previous (wave.eraseIdx place) outcome { s with cancel := cancel }) := by
  have hcollect := stepped_collect hphase ht h
  rcases consume_cases policy previous (wave.eraseIdx place) outcome { s with cancel := cancel }
    with ⟨heq, -, hscan⟩ | ⟨heq, hcancel⟩ | ⟨heq, -⟩
  · rw [heq, ← waveEnd_phase _ _ _ .head]
    exact hcollect.trans ((stepped_giveUp policy _ (.inr hscan)).trans
      (stepped_waveEnd policy previous (.inr rfl)))
  · rw [heq, ← waveEnd_phase _ _ _ (.running previous (wave.eraseIdx place))]
    exact hcollect.trans (stepped_waveEnd policy previous (.inr hcancel))
  · rw [heq, ← goOn_phase _ _ _ _ (.running previous (wave.eraseIdx place))]
    exact hcollect.trans (stepped_goOn policy previous rfl)

/-! ### What holds in every state -/

/-- What a phase says about the scan. -/
def Shape (limits : ProbeLimits) (s : Sys O) : Prop :=
  match s.phase with
  | .head => True
  | .draining more _ wave => wave.length + more = limits.processes ∧ s.cancel = false
  | .running _ wave => wave ≠ [] ∧ wave.length ≤ limits.processes
  | .finished => s.Halted

/-- What holds at every moment of a scan. -/
structure Inv (limits : ProbeLimits) (policy : ProbeStopPolicy) (s : Sys O) : Prop where
  sizer : s.sizer.Ok
  tasks : ∀ t ∈ s.phase.wave, t.Ok
  shape : s.Shape limits
  /-- The wave was told to stop because enough was found, and this is still there. -/
  enough : s.cancel = true → ∀ previous wave, s.phase = .running previous wave →
    policy.topN ≤ s.reached

/-- A scan begins like this, whatever was prepared. -/
lemma inv_init (limits : ProbeLimits) (policy : ProbeStopPolicy)
    (preparation : ActivePreparation O) : (init limits policy preparation).Inv limits policy where
  sizer := ActiveBatchSizer.ok_new _ _
  tasks := by simp [init, Phase.wave]
  shape := trivial
  enough := by simp [init]

/-- A scan is between two waves or has ended when a wave is over. -/
lemma inv_waveEnd (limits : ProbeLimits) (policy : ProbeStopPolicy) (previous : ℕ) {s : Sys O}
    (h : s.sizer.Ok) : (waveEnd policy previous s).Inv limits policy := by
  rcases waveEnd_cases policy previous s with ⟨stop, heq⟩ | ⟨⟨stop, heq⟩, -⟩
  · rw [heq]
    exact ⟨h, by simp [Phase.wave], trivial, fun _ _ _ hphase => by cases hphase⟩
  · rw [heq]
    exact ⟨h, by simp [Phase.wave], .inr (.inl rfl), fun _ _ _ hphase => by cases hphase⟩

/-- The batches left of a wave go on, or the wave is over. -/
lemma inv_goOn (policy : ProbeStopPolicy) (previous : ℕ) {wave : List (Task O)} {s : Sys O}
    (h : s.sizer.Ok) (htasks : ∀ t ∈ wave, t.Ok) (hlen : wave.length ≤ limits.processes)
    (hgo : s.cancel = false) : (goOn policy previous wave s).Inv limits policy := by
  rw [goOn]
  split_ifs with hempty
  · exact inv_waveEnd limits policy previous h
  · refine ⟨h, htasks, ⟨fun hw => hempty (by rw [hw]; rfl), hlen⟩, fun hc => ?_⟩
    rw [show s.cancel = true from hc] at hgo
    cases hgo

/-- The reachable candidates of a wave whose batch goes on. -/
lemma reached_goes {previous place : ℕ} {wave : List (Task O)} {t t' : Task O} {cancel : Bool}
    (hphase : s.phase = .running previous wave) (ht : wave[place]? = some t)
    (h : t.Settles policy s.cancel (cancel, .goes t')) :
    s.reached ≤ reached { s with cancel := cancel, phase := .running previous (wave.set place t') }
      ∧ t'.reached
        ≤ reached { s with cancel := cancel, phase := .running previous (wave.set place t') } := by
  have hsum : waveReached (wave.set place t') + t.reached = waveReached wave + t'.reached :=
    sum_map_set ht t'
  have hle : t.reached ≤ waveReached wave := by
    have := sum_map_eraseIdx (f := Task.reached) ht
    simp only [waveReached]
    omega
  have hreached : t.reached ≤ t'.reached := h.reached
  constructor
  · simp only [reached, hphase, Phase.wave]
    omega
  · simp only [reached, Phase.wave]
    omega

/-- A batch goes on. -/
lemma inv_goes {previous place : ℕ} {wave : List (Task O)} {t t' : Task O} {cancel : Bool}
    (hs : s.Inv limits policy) (hphase : s.phase = .running previous wave)
    (ht : wave[place]? = some t)
    (h : t.Settles policy s.cancel (cancel, .goes t')) :
    Inv limits policy
      { s with cancel := cancel, phase := .running previous (wave.set place t') } := by
  obtain ⟨hsizer, htasks, hshape, henough⟩ := hs
  rw [hphase] at htasks
  rw [Shape, hphase] at hshape
  obtain ⟨hold, hnew⟩ := reached_goes hphase ht h
  refine ⟨hsizer, fun t₁ ht₁ => ?_, ⟨?_, ?_⟩, fun hc previous' wave' _ => ?_⟩
  · rcases List.mem_or_eq_of_mem_set ht₁ with ht₁ | rfl
    · exact htasks t₁ ht₁
    · exact h.ok _ rfl
  · exact fun hw => hshape.1 ((List.set_eq_nil_iff ..).mp hw)
  · rw [List.length_set]
    exact hshape.2
  · cases hcancel : s.cancel with
    | true => exact Nat.le_trans (henough hcancel previous wave hphase) hold
    | false => exact Nat.le_trans (h.reason hcancel hc) hnew

/-- A batch has ended. -/
lemma inv_consume {previous place : ℕ} {wave : List (Task O)} {cancel : Bool}
    {outcome : BatchProbeOutcome} (hs : s.Inv limits policy)
    (hphase : s.phase = .running previous wave) :
    Inv limits policy
      (consume policy previous (wave.eraseIdx place) outcome { s with cancel := cancel }) := by
  obtain ⟨hsizer, htasks, hshape, -⟩ := hs
  rw [hphase] at htasks
  rw [Shape, hphase] at hshape
  have hsizer' : (s.sizer.observe outcome.stats).Ok := hsizer.observe outcome.stats
  rcases consume_cases policy previous (wave.eraseIdx place) outcome { s with cancel := cancel }
    with ⟨heq, -⟩ | ⟨heq, -⟩ | ⟨heq, hgo⟩
  · rw [heq]
    exact inv_waveEnd limits policy previous hsizer'
  · rw [heq]
    exact inv_waveEnd limits policy previous hsizer'
  · rw [heq]
    refine inv_goOn policy previous hsizer' (fun t ht => ?_) ?_ hgo
    · exact htasks t (List.mem_of_mem_eraseIdx ht)
    · exact Nat.le_trans (List.length_eraseIdx_le ..) hshape.2

/-- **What every step does, and keeps.** -/
theorem stepped_of_steps (hs : s.Inv limits policy) (h : Steps limits policy s e s') :
    s'.Inv limits policy ∧ Stepped policy s s' := by
  cases h with
  | cancelled =>
      refine ⟨⟨hs.sizer, hs.tasks, ?_, hs.enough⟩,
        ⟨fun _ => Nat.le_refl _, fun _ _ => rfl, id, fun _ => rfl, fun _ => rfl,
          List.suffix_refl _⟩⟩
      have hshape := hs.shape
      rw [Shape] at hshape ⊢
      cases hphase : s.phase <;> rw [hphase] at hshape
      · trivial
      · exact hshape
      · exact hshape
      · exact .inr (.inr rfl)
  | finish hphase hhalted =>
      refine ⟨⟨hs.sizer, by simp [Phase.wave], hhalted, fun _ _ _ h => by cases h⟩,
        ⟨fun c => ?_, fun _ c => ?_, id, id, fun _ => rfl, List.suffix_refl _⟩⟩ <;>
        simp [held, hphase, Phase.wave]
  | begin hphase hhalted =>
      have hgo : s.cancel = false := by
        by_contra hc
        exact hhalted (.inr (.inl (by simpa using hc)))
      refine ⟨⟨hs.sizer, by simp [Phase.wave], ⟨by simp, hgo⟩, fun _ _ _ h => by cases h⟩,
        ⟨fun c => ?_, fun _ c => ?_, id, id, fun _ => rfl, List.suffix_refl _⟩⟩ <;>
        simp [held, hphase, Phase.wave]
  | launch hphase =>
      rename_i more previous wave _
      obtain ⟨hsizer, htasks, hshape, -⟩ := hs
      rw [hphase] at htasks
      rw [Shape, hphase] at hshape
      refine ⟨inv_goOn policy previous hsizer htasks ?_ hshape.2,
        stepped_goOn policy previous (by rw [hphase]; rfl)⟩
      omega
  | drain hphase hhalted =>
      rename_i more previous wave
      obtain ⟨hsizer, htasks, hshape, -⟩ := hs
      rw [hphase] at htasks
      rw [Shape, hphase] at hshape
      have hheld : ∀ c, (drain policy more previous wave s).held c = s.held c := fun c => by
        have := heldBy_take_add_drop c s.prepared (s.sizer.nextLen s.prepared.length)
        simp only [held, hphase, drain, Phase.wave, waveHeld, List.map_append, List.map_singleton,
          List.sum_append, List.sum_singleton, Task.held, Task.new, Stage.held, pendingHeld_cons,
          pendingHeld_nil, foundFor_nil]
        omega
      refine ⟨⟨hsizer, fun t ht => ?_, ⟨?_, hshape.2⟩, fun _ _ _ h => by cases h⟩,
        ⟨fun c => (hheld c).le, fun _ => hheld, id, id, fun _ => rfl, List.drop_suffix _ _⟩⟩
      · rcases List.mem_append.mp ht with ht | ht
        · exact htasks t ht
        · rw [List.mem_singleton.mp ht]
          refine ⟨trivial, List.forall_mem_singleton.mpr ?_⟩
          exact Nat.le_trans (List.length_take_le _ _)
            (Nat.le_trans (Nat.min_le_right _ _) hsizer.le)
      · rw [List.length_append, List.length_singleton]
        omega
  | goes hphase ht hstep =>
      have hok := hs.tasks _ (by rw [hphase]; exact List.mem_of_getElem? ht)
      have hsettled := settled_step hok hstep
      exact ⟨inv_goes hs hphase ht hsettled, stepped_goes hphase ht hsettled⟩
  | ended hphase ht hstep =>
      have hok := hs.tasks _ (by rw [hphase]; exact List.mem_of_getElem? ht)
      exact ⟨inv_consume hs hphase, stepped_consume hphase ht (settled_step hok hstep)⟩

/-! ### How long it takes -/

/-- After a wave only the batches that were not begun are left to do. -/
lemma work_waveEnd_le (policy : ProbeStopPolicy) (previous : ℕ) (s : Sys O) :
    (waveEnd policy previous s).work
      ≤ 20 * s.prepared.length + if s.Halted then 1 else 9 := by
  rcases waveEnd_cases policy previous s with ⟨stop, heq⟩ | ⟨⟨stop, heq⟩, -⟩
  · rw [heq]
    exact Nat.le_refl _
  · rw [heq]
    exact Nat.le_add_right _ _

/-- Before it, those of the wave as well. -/
lemma work_goOn_le (policy : ProbeStopPolicy) (previous : ℕ) (wave : List (Task O)) (s : Sys O) :
    (goOn policy previous wave s).work ≤ 20 * s.prepared.length + waveWork wave + 10 := by
  rw [goOn]
  split_ifs
  · have := work_waveEnd_le policy previous s
    split_ifs at this <;> omega
  · exact Nat.le_refl _

/-- When a batch has ended, those that have not. -/
lemma work_consume_le (policy : ProbeStopPolicy) (previous : ℕ) (wave : List (Task O))
    (outcome : BatchProbeOutcome) (s : Sys O) :
    (consume policy previous wave outcome s).work
      ≤ 20 * s.prepared.length + waveWork wave + 10 := by
  have hend : ∀ s' : Sys O, s'.prepared = s.prepared →
      (waveEnd policy previous s').work ≤ 20 * s.prepared.length + waveWork wave + 10 :=
    fun s' hs' => by
      have := work_waveEnd_le policy previous s'
      rw [hs'] at this
      split_ifs at this <;> omega
  rcases consume_cases policy previous wave outcome s with ⟨heq, -⟩ | ⟨heq, -⟩ | ⟨heq, -⟩
  · rw [heq]
    exact hend _ rfl
  · rw [heq]
    exact hend _ rfl
  · rw [heq]
    exact work_goOn_le policy previous wave (collect outcome s)

/-- A batch that is new takes fewer steps than it costs. -/
lemma work_drain_lt (policy : ProbeStopPolicy) {more previous : ℕ} {wave : List (Task O)}
    (hsizer : s.sizer.Ok) (hne : ¬s.prepared.isEmpty = true)
    (hphase : s.phase = .draining (more + 1) previous wave) :
    (drain policy more previous wave s).work < s.work := by
  have hpos : 0 < s.prepared.length := List.length_pos_iff.mpr fun h => hne (by rw [h]; rfl)
  have hbatch : 0 < s.sizer.nextLen s.prepared.length := Nat.lt_min.mpr ⟨hpos, hsizer.pos⟩
  have hle : s.sizer.nextLen s.prepared.length ≤ s.prepared.length := Nat.min_le_left _ _
  have hwave : waveWork (wave ++ [Task.new (s.prepared.take (s.sizer.nextLen s.prepared.length))
      policy]) = waveWork wave + (6 * s.sizer.nextLen s.prepared.length - 2 + 1) := by
    simp only [waveWork, List.map_append, List.map_singleton, List.sum_append, List.sum_singleton,
      Task.work, Task.new, Stage.work, pendingWork, List.length_take, Nat.min_eq_left hle]
  have hnew : (wave ++ [Task.new (s.prepared.take (s.sizer.nextLen s.prepared.length))
      policy]).isEmpty = false := by simp
  simp only [work, drain, hphase, Phase.wave, hwave, hnew, List.length_drop]
  split_ifs <;> omega

/-- A scan that is cancelled at the head of its loop is over. -/
lemma work_external_le (s : Sys O) : work { s with external := true } ≤ s.work := by
  rcases hphase : s.phase with _ | ⟨more, previous, wave⟩ | ⟨previous, wave⟩ | _
  · simp only [work, hphase]
    split_ifs with hhalted
    · omega
    · omega
    · exact absurd (.inr (.inr rfl)) hhalted
    · exact absurd (.inr (.inr rfl)) hhalted
  all_goals simp only [work, hphase]; exact Nat.le_refl _

/-- **Every step but the cancellation has less work left.** -/
theorem work_le_of_steps (hs : s.Inv limits policy) (h : Steps limits policy s e s') :
    s'.work + (if e = .cancel then 0 else 1) ≤ s.work := by
  cases h with
  | cancelled =>
      rw [if_pos rfl]
      exact work_external_le s
  | finish hphase hhalted =>
      simp only [work, hphase, Phase.wave, if_pos hhalted]
      split_ifs <;> omega
  | begin hphase hhalted =>
      have hle := processes_le limits
      rw [activeProbeProcessMaxConcurrency] at hle
      simp only [work, hphase, Phase.wave, if_neg hhalted, List.isEmpty_nil, if_true]
      split_ifs <;> omega
  | launch hphase hend =>
      rename_i more previous wave
      obtain ⟨-, -, hshape, -⟩ := hs
      rw [Shape, hphase] at hshape
      have hpos := processes_pos limits
      rw [if_neg (by simp)]
      rw [goOn]
      split_ifs with hempty
      · -- without a batch the scan was halted in between
        have hmore : more ≠ 0 := by
          rw [List.isEmpty_iff.mp hempty] at hshape
          have := hshape.1
          rw [List.length_nil] at this
          omega
        have hhalted : s.Halted := hend.resolve_left hmore
        have hle := work_waveEnd_le policy previous s
        rw [if_pos hhalted] at hle
        simp only [work, hphase, Phase.wave] at hle ⊢
        omega
      · simp only [work, hphase, Phase.wave, if_neg hempty]
        omega
  | drain hphase hhalted =>
      have := work_drain_lt policy hs.sizer (fun h => hhalted (.inl h)) hphase
      rw [if_neg (by simp)]
      omega
  | goes hphase ht hstep =>
      rename_i previous place wave t t' e cancel
      have hok := hs.tasks _ (by rw [hphase]; exact List.mem_of_getElem? ht)
      have hlt : t'.work < t.work := (settled_step hok hstep).work
      have hsum : waveWork (wave.set place t') + t.work = waveWork wave + t'.work :=
        sum_map_set ht t'
      rw [if_neg (by simp)]
      simp only [work, hphase, Phase.wave]
      omega
  | ended hphase ht hstep =>
      rename_i previous place wave t e cancel outcome
      have hok := hs.tasks _ (by rw [hphase]; exact List.mem_of_getElem? ht)
      have hlt : 0 < t.work := (settled_step hok hstep).work
      have hsum : waveWork (wave.eraseIdx place) + t.work = waveWork wave := sum_map_eraseIdx ht
      have hle := work_consume_le policy previous (wave.eraseIdx place) outcome
        { s with cancel := cancel }
      rw [if_neg (by simp)]
      simp only [work, hphase, Phase.wave] at hle ⊢
      omega

/-- A batch that waits can be given what it waits for. -/
lemma exists_task_step (limits : ProbeLimits) (policy : ProbeStopPolicy) (cancel : Bool)
    {t : Task O} (h : t.Ok) : ∃ e, (t.step limits policy cancel e).isSome := by
  have hstage := h.stage
  rcases hphase : t.stage with _ | entries | ⟨limit, left, found⟩ | found
  · exact ⟨.poll, by unfold Task.step; rw [hphase]; rfl⟩
  · exact ⟨.unrecoverable "", by unfold Task.step; rw [hphase]; rfl⟩
  · rw [hphase] at hstage
    obtain ⟨entry, left, rfl⟩ := List.exists_cons_of_ne_nil hstage.2.1
    refine ⟨.probed 0 (.error ""), ?_⟩
    unfold Task.step
    rw [hphase]
    simp only [List.getElem?_cons_zero]
    rw [if_neg (by have := hstage.1.1; omega)]
    split_ifs <;> rfl
  · exact ⟨.closed, by unfold Task.step; rw [hphase]; rfl⟩

/-- The scan can go on until it is finished. -/
lemma exists_step (hs : s.Inv limits policy) (h : s.phase ≠ .finished) :
    ∃ e s', e ≠ .cancel ∧ s.step limits policy e = some s' := by
  have hsome : ∀ e, (s.step limits policy e).isSome → e ≠ .cancel →
      ∃ e s', e ≠ .cancel ∧ s.step limits policy e = some s' := fun e hstep hne => by
    obtain ⟨s', hs'⟩ := Option.isSome_iff_exists.mp hstep
    exact ⟨e, s', hne, hs'⟩
  rcases hphase : s.phase with _ | ⟨more, previous, wave⟩ | ⟨previous, wave⟩ | _
  · refine hsome .main ?_ (by simp)
    unfold step
    rw [hphase]
    dsimp only
    split_ifs <;> rfl
  · refine hsome .main ?_ (by simp)
    unfold step
    rw [hphase]
    cases more with
    | zero => rfl
    | succ more =>
        dsimp only
        split_ifs <;> rfl
  · have hshape := hs.shape
    rw [Shape, hphase] at hshape
    obtain ⟨t, wave, rfl⟩ := List.exists_cons_of_ne_nil hshape.1
    have hok : t.Ok := hs.tasks t (by rw [hphase]; exact List.mem_cons_self)
    obtain ⟨e, he⟩ := exists_task_step limits policy s.cancel hok
    refine hsome (.task 0 e) ?_ (by simp)
    unfold step
    rw [hphase]
    simp only [List.getElem?_cons_zero]
    split
    · rename_i hnone
      rw [hnone] at he
      cases he
    · rfl
    · rfl
  · exact absurd hphase h

end Sys

end V2RayDar
