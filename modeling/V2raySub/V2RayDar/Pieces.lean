import V2raySub.V2RayDar.Batches

/-!
What one batch of a wave keeps and loses (`probe.rs`, `probe_active_batch_with_fallback`).

* `Task.held`: how often a candidate is in the batch, to be probed or as a result; `Task.reached`:
  how many reachable ones it found; `Task.work`: a bound on the steps it has still to take.
* `Settled`: what a step of the batch does to these numbers.
* `settled_step`: every step of a batch is of this kind: **a candidate is lost only when the scan is
  given up, and the batch gives it up only when it has found enough**.
-/

open scoped List

namespace V2RayDar

variable {O : Type*}

/-! ### Counting -/

/-- How often a candidate is among these entries. -/
def heldBy (c : Candidate) (entries : List (PreparedActiveCandidate O)) : ℕ :=
  entries.countP fun entry => entry.candidate = c

/-- How often it is among these results. -/
def foundFor (c : Candidate) (ranked : List RankedConfig) : ℕ :=
  ranked.countP fun r => r.candidate = c

section Counting

variable (c : Candidate)

@[simp] lemma heldBy_nil : heldBy c ([] : List (PreparedActiveCandidate O)) = 0 := rfl

@[simp] lemma heldBy_append (l₁ l₂ : List (PreparedActiveCandidate O)) :
    heldBy c (l₁ ++ l₂) = heldBy c l₁ + heldBy c l₂ := List.countP_append

@[simp] lemma foundFor_nil : foundFor c [] = 0 := rfl

@[simp] lemma foundFor_append (l₁ l₂ : List RankedConfig) :
    foundFor c (l₁ ++ l₂) = foundFor c l₁ + foundFor c l₂ := List.countP_append

/-- Entries that failed are all reported. -/
@[simp] lemma foundFor_failedConfigs (entries : List (PreparedActiveCandidate O)) (err : String) :
    foundFor c (failedConfigs entries err) = heldBy c entries := by
  rw [foundFor, failedConfigs, List.countP_map]
  rfl

/-- An entry that was probed is reported, whatever came of it. -/
@[simp] lemma foundFor_singleton (entry : PreparedActiveCandidate O)
    (result : Except String ActiveProbeSuccess) :
    foundFor c [rankedConfigForActiveResult entry result] = heldBy c [entry] := by
  cases result <;> rfl

/-- A split loses nothing. -/
lemma heldBy_take_add_drop (entries : List (PreparedActiveCandidate O)) (n : ℕ) :
    heldBy c (entries.take n) + heldBy c (entries.drop n) = heldBy c entries := by
  rw [← heldBy_append, List.take_append_drop]

/-- What is taken out is what is missing afterwards. -/
lemma heldBy_eraseIdx {entries : List (PreparedActiveCandidate O)} {i : ℕ}
    {entry : PreparedActiveCandidate O} (h : entries[i]? = some entry) :
    heldBy c [entry] + heldBy c (entries.eraseIdx i) = heldBy c entries := by
  obtain ⟨hi, rfl⟩ := List.getElem?_eq_some_iff.mp h
  rw [← heldBy_append, List.singleton_append]
  exact (List.getElem_cons_eraseIdx_perm hi).countP_eq _

/-- What failed is not reachable. -/
@[simp] lemma reachableCount_failedConfigs (entries : List (PreparedActiveCandidate O))
    (err : String) : reachableCount (failedConfigs entries err) = 0 := by
  rw [reachableCount, failedConfigs, List.countP_map]
  exact List.countP_eq_zero.mpr fun _ _ => by simp

end Counting

/-! ### The numbers of a batch -/

/-- How often a candidate is in the piece at work and in what was found of it. -/
def Stage.held (c : Candidate) : Stage O → ℕ
  | .queued => 0
  | .starting entries => heldBy c entries
  | .probing _ left found => heldBy c left + foundFor c found
  | .closing found => foundFor c found

/-- What of this is reachable. -/
def Stage.reached : Stage O → ℕ
  | .queued => 0
  | .starting _ => 0
  | .probing _ _ found => reachableCount found
  | .closing found => reachableCount found

/-- The steps it still takes: what is started is probed one by one and closed, or it is split. -/
def Stage.work : Stage O → ℕ
  | .queued => 1
  | .starting entries => 6 * entries.length - 3
  | .probing _ left _ => left.length + 1
  | .closing _ => 1

/-- There is something to wait for, and it is not too much for one process. -/
def Stage.Ok : Stage O → Prop
  | .queued => True
  | .starting entries => entries ≠ [] ∧ entries.length ≤ activeProbeBatchMaxSize
  | .probing limit left _ => (0 < limit ∧ limit ≤ activeProbeHttpMaxConcurrency)
    ∧ left ≠ [] ∧ left.length ≤ activeProbeBatchMaxSize
  | .closing _ => True

/-- No piece on the stack is too large. -/
def Small (pending : List (List (PreparedActiveCandidate O))) : Prop :=
  ∀ piece ∈ pending, piece.length ≤ activeProbeBatchMaxSize

/-- How often a candidate is on the stack. -/
def pendingHeld (c : Candidate) (pending : List (List (PreparedActiveCandidate O))) : ℕ :=
  (pending.map (heldBy c)).sum

/-- The steps the pieces on the stack take: each but the last result of a piece may be the one that
has it split. -/
def pendingWork (pending : List (List (PreparedActiveCandidate O))) : ℕ :=
  (pending.map fun piece => 6 * piece.length - 2).sum

namespace Task

/-- How often a candidate is on the stack, in the piece at work and in the results. -/
def held (c : Candidate) (t : Task O) : ℕ :=
  pendingHeld c t.pending + t.stage.held c + foundFor c t.ranked

/-- The reachable results. -/
def reached (t : Task O) : ℕ := t.stage.reached + reachableCount t.ranked

/-- The steps the batch still takes. -/
def work (t : Task O) : ℕ := pendingWork t.pending + t.stage.work

/-- The pieces are none of them too large. -/
structure Ok (t : Task O) : Prop where
  stage : t.stage.Ok
  small : Small t.pending

end Task

namespace Progress

/-- The candidates of a batch that goes on, or of its outcome. -/
def held (c : Candidate) : Progress O → ℕ
  | .goes t => t.held c
  | .ended outcome => foundFor c outcome.ranked

/-- The reachable results of the one or the other. -/
def reached : Progress O → ℕ
  | .goes t => t.reached
  | .ended outcome => reachableCount outcome.ranked

/-- The steps that are left; an outcome takes none. -/
def work : Progress O → ℕ
  | .goes t => t.work
  | .ended _ => 0

end Progress

@[simp] lemma pendingHeld_nil (c : Candidate) :
    pendingHeld c ([] : List (List (PreparedActiveCandidate O))) = 0 := rfl

@[simp] lemma pendingHeld_cons (c : Candidate) (piece : List (PreparedActiveCandidate O))
    (pending : List (List (PreparedActiveCandidate O))) :
    pendingHeld c (piece :: pending) = heldBy c piece + pendingHeld c pending := rfl

@[simp] lemma pendingWork_cons (piece : List (PreparedActiveCandidate O))
    (pending : List (List (PreparedActiveCandidate O))) :
    pendingWork (piece :: pending) = (6 * piece.length - 2) + pendingWork pending := rfl

/-- What is done to these numbers: `out` is the flag and the batch afterwards. -/
structure Settled (policy : ProbeStopPolicy) (cancel : Bool) (held : Candidate → ℕ)
    (reached work : ℕ) (out : Bool × Progress O) : Prop where
  /-- No candidate comes from elsewhere. -/
  keeps : ∀ c, out.2.held c ≤ held c
  /-- None is lost while the scan goes on. -/
  all : out.1 = false → ∀ c, out.2.held c = held c
  flag : cancel = true → out.1 = true
  /-- The batch sets the flag only where it has found enough. -/
  reason : cancel = false → out.1 = true → policy.topN ≤ out.2.reached
  scanAll : policy.scanAllConfigs = true → out.1 = cancel
  reached : reached ≤ out.2.reached
  work : out.2.work < work
  ok : ∀ t, out.2 = .goes t → t.Ok

variable {policy : ProbeStopPolicy} {cancel : Bool} {t : Task O}

/-- The numbers may be given in another way. -/
lemma Settled.of_eq {held held' : Candidate → ℕ} {reached reached' work work' : ℕ}
    {out : Bool × Progress O} (h : Settled policy cancel held reached work out)
    (hheld : ∀ c, held c = held' c) (hreached : reached' ≤ reached) (hwork : work ≤ work') :
    Settled policy cancel held' reached' work' out where
  keeps c := hheld c ▸ h.keeps c
  all hgo c := hheld c ▸ h.all hgo c
  flag := h.flag
  reason := h.reason
  scanAll := h.scanAll
  reached := Nat.le_trans hreached h.reached
  work := Nat.lt_of_lt_of_le h.work hwork
  ok := h.ok

/-- The batch is given up with what it has found. -/
lemma settled_stop {held : Candidate → ℕ} {reached work : ℕ} {ranked : List RankedConfig}
    {stats : BatchProbeStats} (hheld : ∀ c, foundFor c ranked ≤ held c)
    (hreached : reached ≤ reachableCount ranked) (hwork : 0 < work)
    (h : cancel = true ∨ policy.topN ≤ reachableCount ranked ∧ policy.scanAllConfigs = false) :
    Settled policy cancel held reached work (O := O) (true, .ended ⟨ranked, stats⟩) where
  keeps := hheld
  all := by simp
  flag _ := rfl
  reason hc _ := by
    rcases h with h | h
    · rw [hc] at h
      cases h
    · exact h.1
  scanAll hs := by
    rcases h with h | h
    · exact h.symm
    · rw [hs] at h
      cases h.2
  reached := hreached
  work := hwork
  ok _ ht := by cases ht

/-- A scan of all configs never finds a reason to stop. -/
lemma scanAll_of_probeStopReason {ranked : List RankedConfig} {state : ProbeStopState}
    (h : (probeStopReason ranked policy state).isSome) : policy.scanAllConfigs = false := by
  cases hs : policy.scanAllConfigs with
  | false => rfl
  | true =>
      rw [probeStopReason_scanAll hs] at h
      cases h

/-- The loop from its head. -/
lemma settled_resume (t : Task O) {pending : List (List (PreparedActiveCandidate O))}
    (hsmall : Small pending) :
    Settled policy cancel (fun c => pendingHeld c pending + foundFor c t.ranked)
      (reachableCount t.ranked) (pendingWork pending + 1) (t.resume policy cancel pending) := by
  induction pending generalizing t with
  | nil =>
      rw [Task.resume]
      refine ⟨fun c => ?_, fun _ c => ?_, id, ?_, fun _ => rfl, Nat.le_refl _,
        by simp [Progress.work], by simp⟩
      · simp [Progress.held]
      · simp [Progress.held]
      · intro h h'
        rw [h] at h'
        cases h'
  | cons batch pending ih =>
      obtain ⟨hbatch, hrest⟩ := List.forall_mem_cons.mp hsmall
      rw [Task.resume]
      split_ifs with hcancel hempty hstop
      · exact settled_stop (fun c => Nat.le_add_left _ _) (Nat.le_refl _) (Nat.succ_pos _)
          (.inl hcancel)
      · exact settled_stop (fun c => Nat.le_add_left _ _) (Nat.le_refl _) (Nat.succ_pos _)
          (.inr ⟨topN_le_of_probeStopReason hstop, scanAll_of_probeStopReason hstop⟩)
      · -- an empty batch answers nothing
        rw [List.isEmpty_iff] at hempty
        refine (ih _ hrest).of_eq (fun c => ?_) (Nat.le_refl _) ?_
        · rw [hempty, pendingHeld_cons, heldBy_nil, Nat.zero_add]
        · rw [pendingWork_cons]
          omega
      · have hpos : 0 < batch.length := List.length_pos_iff.mpr fun h => hempty (by rw [h]; rfl)
        have hgo : cancel = false := by simpa using hcancel
        refine ⟨fun c => ?_, fun _ c => ?_, fun h => absurd h hcancel, by simp,
          fun _ => hgo.symm, ?_, ?_, fun t' ht' => ?_⟩
        · simp only [Progress.held, Task.held, Stage.held, pendingHeld_cons]
          omega
        · simp only [Progress.held, Task.held, Stage.held, pendingHeld_cons]
          omega
        · simp [Progress.reached, Task.reached, Stage.reached]
        · simp only [Progress.work, Task.work, Stage.work, pendingWork_cons]
          omega
        · cases ht'
          exact ⟨⟨fun h => hempty (by rw [h]; rfl), hbatch⟩, hrest⟩

/-- The rest of the loop. -/
lemma settled_settle (t : Task O) (hsmall : Small t.pending) :
    Settled policy cancel (fun c => pendingHeld c t.pending + foundFor c t.ranked)
      (reachableCount t.ranked) (pendingWork t.pending + 1) (t.settle policy cancel) := by
  rw [Task.settle]
  split_ifs with hstop
  · exact settled_stop (fun c => Nat.le_add_left _ _) (Nat.le_refl _) (Nat.succ_pos _)
      (.inr ⟨topN_le_of_probeStopReason hstop, scanAll_of_probeStopReason hstop⟩)
  · exact settled_resume t hsmall

/-! ### The steps -/

/-- What a batch does: the flag and the batch afterwards. -/
abbrev Task.Settles (policy : ProbeStopPolicy) (cancel : Bool) (t : Task O)
    (out : Bool × Progress O) : Prop := Settled policy cancel (t.held ·) t.reached t.work out

/-- The numbers after a piece failed. -/
lemma settled_fail (t : Task O) {entries : List (PreparedActiveCandidate O)}
    (hsmall : Small t.pending) (hne : entries ≠ []) (hstage : t.stage = .starting entries)
    (err : String) :
    t.Settles policy cancel ((t.fail entries err).settle policy cancel) := by
  have hpos := List.length_pos_iff.mpr hne
  refine (settled_settle (t.fail entries err) hsmall).of_eq (fun c => ?_) ?_ ?_
  · simp only [Task.fail, Task.held, hstage, Stage.held, foundFor_append,
      foundFor_failedConfigs]
    omega
  · simp [Task.fail, Task.reached, hstage, Stage.reached]
  · simp only [Task.fail, Task.work, hstage, Stage.work]
    omega

/-- The numbers after an entry was refused. -/
lemma settled_reject (t : Task O) {entries : List (PreparedActiveCandidate O)} {index : ℕ}
    {entry : PreparedActiveCandidate O} (hsmall : Small t.pending)
    (hlen : entries.length ≤ activeProbeBatchMaxSize) (hentry : entries[index]? = some entry)
    (hstage : t.stage = .starting entries) (err : String) :
    t.Settles policy cancel
      ((t.reject entry (entries.eraseIdx index) err).settle policy cancel) := by
  have hrest := List.length_eraseIdx_add_one (List.getElem?_eq_some_iff.mp hentry).1
  have hpending : (t.reject entry (entries.eraseIdx index) err).pending
      = if (entries.eraseIdx index).isEmpty = true then t.pending
        else entries.eraseIdx index :: t.pending := rfl
  have hranked : (t.reject entry (entries.eraseIdx index) err).ranked
      = t.ranked ++ failedConfigs [entry] err := rfl
  have hsmall' : Small (t.reject entry (entries.eraseIdx index) err).pending := by
    rw [hpending]
    split_ifs
    · exact hsmall
    · exact List.forall_mem_cons.mpr ⟨by omega, hsmall⟩
  refine (settled_settle _ hsmall').of_eq (fun c => ?_) ?_ ?_
  · have hheld := heldBy_eraseIdx c hentry
    rw [hpending, hranked, foundFor_append, foundFor_failedConfigs, Task.held, hstage, Stage.held]
    split_ifs with hempty
    · rw [List.isEmpty_iff.mp hempty, heldBy_nil] at hheld
      omega
    · rw [pendingHeld_cons]
      omega
  · rw [hranked, Task.reached, hstage, Stage.reached, reachableCount_append]
    omega
  · rw [hpending, Task.work, hstage, Stage.work]
    split_ifs with hempty
    · omega
    · have hpos : 0 < (entries.eraseIdx index).length :=
        List.length_pos_iff.mpr fun h => hempty (by rw [h]; rfl)
      rw [pendingWork_cons]
      omega

/-- The numbers after a piece was split. -/
lemma settled_split (t : Task O) {entries : List (PreparedActiveCandidate O)}
    (hsmall : Small t.pending) (hlen : entries.length ≤ activeProbeBatchMaxSize)
    (hmany : 1 < entries.length) (hstage : t.stage = .starting entries) :
    t.Settles policy cancel ((t.split entries).settle policy cancel) := by
  have hsmall' : Small (t.split entries).pending := by
    refine List.forall_mem_cons.mpr ⟨?_, List.forall_mem_cons.mpr ⟨?_, hsmall⟩⟩
    · rw [List.length_take]
      omega
    · rw [List.length_drop]
      omega
  refine (settled_settle _ hsmall').of_eq (fun c => ?_) ?_ ?_
  · have hheld := heldBy_take_add_drop c entries (entries.length / 2)
    simp only [Task.split, Task.held, hstage, Stage.held, pendingHeld_cons]
    omega
  · simp [Task.split, Task.reached, hstage, Stage.reached]
  · simp only [Task.split, Task.work, hstage, Stage.work, pendingWork_cons, List.length_take,
      List.length_drop]
    omega

/-- There is a probe under way, and not too many are. -/
lemma httpConcurrency_bounds (configured entries : ℕ) :
    0 < activeProbeHttpConcurrency configured entries
      ∧ activeProbeHttpConcurrency configured entries ≤ activeProbeHttpMaxConcurrency := by
  rw [activeProbeHttpConcurrency]
  refine ⟨Nat.lt_min.mpr ⟨Nat.le_max_left _ _, by omega⟩, ?_⟩
  exact Nat.le_trans (Nat.min_le_left _ _) (Nat.max_le.mpr ⟨by decide, Nat.min_le_right _ _⟩)

/-- The process is there, and the probes are started. -/
lemma settled_ready (limits : ProbeLimits) (t : Task O)
    {entries : List (PreparedActiveCandidate O)} (hsmall : Small t.pending) (hne : entries ≠ [])
    (hlen : entries.length ≤ activeProbeBatchMaxSize) (hstage : t.stage = .starting entries)
    (hgo : cancel = false) :
    t.Settles policy cancel (false, .goes { t with
      stage := .probing (activeProbeHttpConcurrency limits.concurrency entries.length)
        entries [] }) := by
  have hpos := List.length_pos_iff.mpr hne
  have hheld : ∀ c, Task.held c { t with
      stage := .probing (activeProbeHttpConcurrency limits.concurrency entries.length) entries [] }
        = t.held c := fun c => by
    simp [Task.held, hstage, Stage.held]
  refine ⟨fun c => (hheld c).le, fun _ => hheld, by simp [hgo], by simp, fun _ => hgo.symm, ?_, ?_,
    fun t' ht' => ?_⟩
  · simp [Progress.reached, Task.reached, hstage, Stage.reached]
  · simp only [Progress.work, Task.work, hstage, Stage.work]
    omega
  · cases ht'
    exact ⟨⟨httpConcurrency_bounds _ _, hne, hlen⟩, hsmall⟩

/-- The process is stopped, with what was found. -/
lemma settled_closing (t : Task O) {found : List RankedConfig} (hsmall : Small t.pending)
    (hheld : ∀ c, foundFor c found ≤ t.stage.held c)
    (hreached : t.stage.reached ≤ reachableCount found) (hwork : 1 < t.stage.work)
    (h : cancel = true ∨ policy.topN ≤ reachableCount (t.ranked ++ found)
      ∧ policy.scanAllConfigs = false) :
    t.Settles policy cancel (true, .goes { t with stage := .closing found }) where
  keeps c := Nat.add_le_add_right (Nat.add_le_add_left (hheld c) _) _
  all := by simp
  flag _ := rfl
  reason hc _ := by
    rcases h with h | ⟨h, -⟩
    · rw [hc] at h
      cases h
    · rw [reachableCount_append, Nat.add_comm] at h
      exact h
  scanAll hs := by
    rcases h with h | h
    · exact h.symm
    · rw [hs] at h
      cases h.2
  reached := Nat.add_le_add_right hreached _
  work := Nat.add_lt_add_left hwork _
  ok _ ht := by
    cases ht
    exact ⟨trivial, hsmall⟩

/-- A probe has ended. -/
lemma settled_probed (t : Task O) {limit : ℕ} {left : List (PreparedActiveCandidate O)}
    {found : List RankedConfig} {place : ℕ} {entry : PreparedActiveCandidate O}
    (hsmall : Small t.pending) (hleft : left.length ≤ activeProbeBatchMaxSize)
    (hentry : left[place]? = some entry)
    (hpos : 0 < limit ∧ limit ≤ activeProbeHttpMaxConcurrency)
    (hstage : t.stage = .probing limit left found) (result : Except String ActiveProbeSuccess)
    (hgo : cancel = false) :
    t.Settles policy cancel (false, .goes { t with
      stage := Task.afterProbe limit (left.eraseIdx place)
        (found ++ [rankedConfigForActiveResult entry result]) }) := by
  have hlen := List.length_eraseIdx_add_one (List.getElem?_eq_some_iff.mp hentry).1
  have hheld : ∀ c, Task.held c { t with
      stage := Task.afterProbe limit (left.eraseIdx place)
        (found ++ [rankedConfigForActiveResult entry result]) } = t.held c := fun c => by
    have hcount := heldBy_eraseIdx c hentry
    rw [Task.held, Task.held, hstage, Task.afterProbe]
    split_ifs with hempty
    · rw [List.isEmpty_iff.mp hempty, heldBy_nil] at hcount
      simp only [Stage.held, foundFor_append, foundFor_singleton]
      omega
    · simp only [Stage.held, foundFor_append, foundFor_singleton]
      omega
  refine ⟨fun c => (hheld c).le, fun _ => hheld, by simp [hgo], by simp, fun _ => hgo.symm, ?_, ?_,
    fun t' ht' => ?_⟩
  · simp only [Progress.reached, Task.reached, hstage, Task.afterProbe]
    split_ifs <;> simp only [Stage.reached, reachableCount_append] <;> omega
  · simp only [Progress.work, Task.work, hstage, Task.afterProbe]
    split_ifs <;> simp only [Stage.work] <;> omega
  · cases ht'
    refine ⟨?_, hsmall⟩
    rw [Task.afterProbe]
    split_ifs with hempty
    · trivial
    · exact ⟨hpos, fun h => hempty (by rw [h]; rfl), by omega⟩

/-- The numbers after a piece was closed. -/
lemma settled_close (t : Task O) {found : List RankedConfig} (hsmall : Small t.pending)
    (hstage : t.stage = .closing found) :
    t.Settles policy cancel ((t.close found).settle policy cancel) := by
  refine (settled_settle (t.close found) hsmall).of_eq (fun c => ?_) ?_ ?_
  · simp only [Task.close, Task.held, hstage, Stage.held, foundFor_append]
    omega
  · simp only [Task.close, Task.reached, hstage, Stage.reached, reachableCount_append]
    omega
  · simp only [Task.close, Task.work, hstage, Stage.work]
    omega

/-- **What a batch can do.** -/
theorem settled_step {limits : ProbeLimits} {e : TaskEvent} {out : Bool × Progress O}
    (hok : t.Ok) (h : t.step limits policy cancel e = some out) :
    t.Settles policy cancel out := by
  obtain ⟨hok, hsmall⟩ := hok
  rcases hstage : t.stage with _ | entries | ⟨limit, left, found⟩ | found
  · -- it was queued
    unfold Task.step at h
    rw [hstage] at h
    cases e <;> cases h
    refine (settled_resume t hsmall).of_eq (fun c => ?_) ?_ ?_
    · simp [Task.held, hstage, Stage.held]
    · simp [Task.reached, hstage, Stage.reached]
    · simp [Task.work, hstage, Stage.work]
  · -- its process starts
    rw [hstage] at hok
    have hpos := List.length_pos_iff.mpr hok.1
    unfold Task.step at h
    rw [hstage] at h
    cases e with
    | unrecoverable err =>
        cases h
        exact settled_fail t hsmall hok.1 hstage err
    | rejected index err =>
        dsimp only at h
        split at h
        · cases h
        · rename_i entry hentry
          cases h
          exact settled_reject t hsmall hok.2 hentry hstage err
    | notReady err =>
        dsimp only at h
        split_ifs at h with hmany
        · cases h
          exact settled_split t hsmall hok.2 hmany hstage
        · cases h
          exact settled_fail t hsmall hok.1 hstage err
    | ready =>
        dsimp only at h
        split_ifs at h with hcancel
        · cases h
          refine settled_closing t hsmall (fun c => Nat.zero_le _) ?_ ?_ (.inl hcancel)
          · rw [hstage]
            exact Nat.zero_le _
          · rw [hstage, Stage.work]
            omega
        · cases h
          exact settled_ready limits t hsmall hok.1 hok.2 hstage (by simpa using hcancel)
    | _ => cases h
  · -- its probes are under way
    rw [hstage] at hok
    have hpos := List.length_pos_iff.mpr hok.2.1
    unfold Task.step at h
    rw [hstage] at h
    cases e with
    | probed place result =>
        dsimp only at h
        split at h
        · cases h
        · rename_i entry hentry
          split_ifs at h with hplace hcancel hstop
          · cases h
            refine settled_closing t hsmall (fun c => ?_) ?_ ?_ (.inl hcancel)
            · rw [hstage]
              exact Nat.le_add_left _ _
            · rw [hstage]
              exact Nat.le_refl _
            · rw [hstage, Stage.work]
              omega
          · cases h
            refine settled_closing t hsmall (fun c => ?_) ?_ ?_ (.inr
              ⟨topN_le_of_probeStopReason hstop, scanAll_of_probeStopReason hstop⟩)
            · have := heldBy_eraseIdx c hentry
              rw [hstage, Stage.held, foundFor_append, foundFor_singleton]
              omega
            · rw [hstage, Stage.reached, reachableCount_append]
              exact Nat.le_add_right _ _
            · rw [hstage, Stage.work]
              omega
          · cases h
            exact settled_probed t hsmall hok.2.2 hentry hok.1 hstage result
              (by simpa using hcancel)
    | _ => cases h
  · -- its process ends
    unfold Task.step at h
    rw [hstage] at h
    cases e <;> cases h
    exact settled_close t hsmall hstage

end V2RayDar
