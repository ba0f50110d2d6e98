import V2raySub.Base.Guarded
import V2raySub.Base.SortBy
import V2raySub.V2RayDar.Batches
import V2raySub.V2RayDar.Rank

/-!
The two stages around the active probe (`probe.rs`): the TCP sweep that drops the endpoints nobody
listens on (`probe_active_with_tcp_prefilter`), and the speed test of the best results
(`enrich_top_speedtests`).

* `Sweep`, `Sweep.step`: connections are under way to the first `concurrency` candidates that are
  left; the deadline is looked at after each.
* `perm_sweep`: **no candidate is lost in a sweep**: each has a result or was not yet tried.
* `isUdpProtocol`: the candidates a TCP connection says nothing about.
* `enrichTopSpeedtests`; `map_enrichTopSpeedtests`: only the measured speed is written.
-/

open scoped List

namespace V2RayDar

open SortBy

/-! ### The sweep -/

/-- A connection ends: the place of its candidate among those that are left, what it came to, and
whether the deadline has passed by then. -/
structure Connected where
  place : ℕ
  outcome : TcpOutcome
  deadline : Bool

/-- The sweep: what was found, what is left, and whether it stopped. -/
structure Sweep where
  left : List Candidate
  found : List RankedConfig
  stopped : Bool

namespace Sweep

/-- The loop over the results as they come in (`buffer_unordered`); it is left when the deadline has
passed, if it looks at it. -/
def step (concurrency : ℕ) (watches : Bool) (s : Sweep) (e : Connected) : Option Sweep :=
  match s.left[e.place]? with
  | none => none
  | some c =>
    if s.stopped = true ∨ concurrency ≤ e.place then none
    else some {
      left := s.left.eraseIdx e.place
      found := s.found ++ [probeTcp c e.outcome]
      stopped := watches && e.deadline }

/-- The loop is over. -/
def isOver (s : Sweep) : Bool := s.left.isEmpty || s.stopped

end Sweep

/-- The sweep of these candidates, if these are all the connections that end before it is over. -/
def sweep (concurrency : ℕ) (watches : Bool) (candidates : List Candidate)
    (connections : List Connected) : Option Sweep :=
  (Guarded.run (Sweep.step concurrency watches) ⟨candidates, [], false⟩ connections).filter
    Sweep.isOver

section Sweep

variable {concurrency : ℕ} {watches : Bool} {candidates : List Candidate}
  {connections : List Connected} {s s' : Sweep} {e : Connected}

/-- No candidate is lost in a step. -/
lemma Sweep.perm_step (h : s.step concurrency watches e = some s') :
    candidatesFromRanked s'.found ++ s'.left ~ candidatesFromRanked s.found ++ s.left := by
  unfold Sweep.step at h
  cases hplace : s.left[e.place]? with
  | none =>
      rw [hplace] at h
      cases h
  | some c =>
      rw [hplace] at h
      dsimp only at h
      split_ifs at h
      cases h
      obtain ⟨hlt, hget⟩ := List.getElem?_eq_some_iff.mp hplace
      have hmove : c :: s.left.eraseIdx e.place ~ s.left := by
        rw [← hget]
        exact List.getElem_cons_eraseIdx_perm hlt
      calc candidatesFromRanked (s.found ++ [probeTcp c e.outcome]) ++ s.left.eraseIdx e.place
          = candidatesFromRanked s.found ++ (c :: s.left.eraseIdx e.place) := by
            simp [candidatesFromRanked]
        _ ~ candidatesFromRanked s.found ++ s.left := hmove.append_left _

lemma Sweep.stopped_step (h : s.step concurrency watches e = some s') :
    s'.stopped = (watches && e.deadline) := by
  unfold Sweep.step at h
  cases hplace : s.left[e.place]? with
  | none =>
      rw [hplace] at h
      cases h
  | some c =>
      rw [hplace] at h
      dsimp only at h
      split_ifs at h
      cases h
      rfl

/-- The sweep of `probe_tcp` keeps every candidate. -/
lemma perm_sweep (h : sweep concurrency watches candidates connections = some s) :
    candidatesFromRanked s.found ++ s.left ~ candidates := by
  obtain ⟨hrun, -⟩ := Option.filter_eq_some_iff.mp h
  exact Guarded.run_inv (I := fun s => candidatesFromRanked s.found ++ s.left ~ candidates)
    (fun hstep hs => (Sweep.perm_step hstep).trans hs) hrun (.refl _)

/-- A sweep that the deadline does not stop tries every candidate. -/
lemma left_sweep (h : sweep concurrency watches candidates connections = some s)
    (hgo : s.stopped = false) : s.left = [] := by
  obtain ⟨-, hover⟩ := Option.filter_eq_some_iff.mp h
  rw [Sweep.isOver, hgo, Bool.or_false] at hover
  exact List.isEmpty_iff.mp hover

/-- A sweep that nobody stops ends by itself. -/
lemma stopped_sweep (h : sweep concurrency watches candidates connections = some s)
    (hgo : ∀ e ∈ connections, (watches && e.deadline) = false) : s.stopped = false := by
  obtain ⟨hrun, -⟩ := Option.filter_eq_some_iff.mp h
  exact Guarded.run_inv_of_mem (I := fun s => s.stopped = false)
    (fun he hstep _ => (Sweep.stopped_step hstep).trans (hgo _ he)) hrun rfl

end Sweep

/-! ### What is swept -/

def tcpPrefilterConcurrencyMultiplier : ℕ := 8

def minTcpPrefilterConcurrency : ℕ := 256

def maxTcpPrefilterConcurrency : ℕ := 512

/-- `tcp_prefilter_concurrency`. -/
def tcpPrefilterConcurrency (concurrency : ℕ) : ℕ :=
  clamp (concurrency * tcpPrefilterConcurrencyMultiplier) minTcpPrefilterConcurrency
    maxTcpPrefilterConcurrency

/-- `char::is_whitespace`. -/
def isWhitespace (c : Char) : Bool :=
  (9 ≤ c.toNat && c.toNat ≤ 13) || c.toNat == 0x20 || c.toNat == 0x85 || c.toNat == 0xa0
    || c.toNat == 0x1680 || (0x2000 ≤ c.toNat && c.toNat ≤ 0x200a) || c.toNat == 0x2028
    || c.toNat == 0x2029 || c.toNat == 0x202f || c.toNat == 0x205f || c.toNat == 0x3000

/-- `str::trim`. -/
def trim (cs : List Char) : List Char :=
  ((cs.dropWhile isWhitespace).reverse.dropWhile isWhitespace).reverse

/-- `char::to_ascii_lowercase`. -/
def toAsciiLowercase (c : Char) : Char :=
  if 65 ≤ c.toNat ∧ c.toNat ≤ 90 then Char.ofNat (c.toNat + 32) else c

/-- `is_udp_protocol`. -/
def isUdpProtocol (protocol : String) : Bool :=
  ["hysteria2", "hysteria", "hy2", "tuic", "wireguard", "wg"].any fun name =>
    (trim protocol.toList).map toAsciiLowercase == name.toList

/-! ### The speed test -/

/-- What a speed test measured. -/
structure Measurement where
  mbps : ℚ
  bytes : ℕ
  deriving DecidableEq

/-- `speedtest_probe_limit`. -/
def speedtestProbeLimit (reachable : ℕ) (policy : ProbeStopPolicy) : ℕ :=
  min reachable (max policy.topN 1)

/-- The places of the results that are measured: the best of the reachable ones. -/
def speedtestPlaces (policy : ProbeStopPolicy) (ranked : List RankedConfig) : List ℕ :=
  let places := sortBy (fun l r : RankedConfig × ℕ => compareRanked l.1 r.1)
    (ranked.zipIdx.filter fun r => r.1.reachable)
  (places.take (speedtestProbeLimit places.length policy)).map Prod.snd

/-- What is written of a measurement. -/
def RankedConfig.measured (r : RankedConfig) : Option Measurement → RankedConfig
  | none => r
  | some m => { r with downloadMbps := some m.mbps, downloadBytes := some m.bytes }

/-- `enrich_top_speedtests`: `measure` is what the test of the result in each place comes to, or
`none` where it fails. -/
def enrichTopSpeedtests (downloadUrl : Option String) (policy : ProbeStopPolicy)
    (measure : ℕ → Option Measurement) (ranked : List RankedConfig) : List RankedConfig :=
  match (downloadUrl.map fun url => trim url.toList).filter fun url => !url.isEmpty with
  | none => ranked
  | some _ =>
    let places := speedtestPlaces policy ranked
    ranked.mapIdx fun i r => if i ∈ places then r.measured (measure i) else r

@[simp] lemma candidate_measured (r : RankedConfig) (m : Option Measurement) :
    (r.measured m).candidate = r.candidate := by
  cases m <;> rfl

@[simp] lemma validation_measured (r : RankedConfig) (m : Option Measurement) :
    (r.measured m).validation = r.validation := by
  cases m <;> rfl

/-- What the speed test leaves of every result it leaves of the list. -/
lemma map_enrichTopSpeedtests {β : Type*} {f : RankedConfig → β}
    (hf : ∀ r m, f (RankedConfig.measured r m) = f r) (downloadUrl : Option String)
    (policy : ProbeStopPolicy) (measure : ℕ → Option Measurement) (ranked : List RankedConfig) :
    (enrichTopSpeedtests downloadUrl policy measure ranked).map f = ranked.map f := by
  unfold enrichTopSpeedtests
  split
  · rfl
  · refine List.ext_getElem (by simp) fun i h _ => ?_
    rw [List.getElem_map, List.getElem_map, List.getElem_mapIdx]
    split_ifs
    · exact hf _ _
    · rfl

end V2RayDar
