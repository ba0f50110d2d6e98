import Mathlib.Data.List.Sort
import Mathlib.Data.Nat.Basic
import Mathlib.Data.String.Basic
import Mathlib.Order.Compare
import V2raySub.Base.RoundRobin
import V2raySub.Base.SortBy
import V2raySub.V2RayDar.Model

/-!
The order candidates are probed in (`probe.rs`, `schedule_active_candidates`,
`source_fair_candidates`): a queue for each source, from which candidates are taken in turn.

* `enqueue`, `queuesOf`, `Holds`: the queues after the candidates were put in, and what they hold.
* `takeRounds_eq`: the loop that empties them is `RoundRobin.rounds`.
* `perm_sourceFairCandidates`: every candidate is scheduled once.
* `filter_sourceFairCandidates`: those of one source keep their order, after its preferred ones.
* `fair_sourceFairCandidates`: **no source gets ahead**: at every moment, of two sources that have
  candidates left, the first has had as many turns as the second, or one more.
-/

open scoped List

namespace V2RayDar

/-! ### The queues -/

/-- What the queues are told apart by. -/
def Candidate.sourceKey (c : Candidate) : String × ℕ := (c.source, c.priority)

/-- `SourceCandidateQueue`: the candidates of one source, the preferred ones apart. -/
structure SourceCandidateQueue where
  source : String
  priority : ℕ
  firstIndex : ℕ
  preferred : List Candidate
  regular : List Candidate

namespace SourceCandidateQueue

def key (q : SourceCandidateQueue) : String × ℕ := (q.source, q.priority)

/-- `pop_front`: the preferred candidates go first. -/
def popFront (q : SourceCandidateQueue) : Option Candidate × SourceCandidateQueue :=
  match q.preferred with
  | c :: preferred => (some c, { q with preferred := preferred })
  | [] =>
    match q.regular with
    | c :: regular => (some c, { q with regular := regular })
    | [] => (none, q)

/-- A candidate is put at the end of its part of the queue. -/
def push (isPreferred : Candidate → Bool) (c : Candidate) (q : SourceCandidateQueue) :
    SourceCandidateQueue :=
  if isPreferred c then { q with preferred := q.preferred ++ [c] }
  else { q with regular := q.regular ++ [c] }

/-- The queues go by priority, then by the place of their first candidate. -/
def compareQueues (left right : SourceCandidateQueue) : Ordering :=
  (compare left.priority right.priority).then <|
  (compare left.firstIndex right.firstIndex).then <|
  compare left.source right.source

instance : Std.TransCmp compareQueues :=
  inferInstanceAs (Std.TransCmp (compareLex (compareOn priority) <| compareLex
    (compareOn firstIndex) (compareOn source)))

end SourceCandidateQueue

open SourceCandidateQueue SortBy

/-- The candidate with this index is put in the queue of its source, which is added if it is new. -/
def enqueue (isPreferred : Candidate → Bool) (index : ℕ) (c : Candidate) :
    List SourceCandidateQueue → List SourceCandidateQueue
  | [] => [push isPreferred c ⟨c.source, c.priority, index, [], []⟩]
  | q :: queues =>
    if q.key = c.sourceKey then push isPreferred c q :: queues
    else q :: enqueue isPreferred index c queues

/-- The queues of the candidates, the first with index `index`. -/
def queuesOf (isPreferred : Candidate → Bool) (queues : List SourceCandidateQueue) :
    ℕ → List Candidate → List SourceCandidateQueue
  | _, [] => queues
  | index, c :: cs => queuesOf isPreferred (enqueue isPreferred index c queues) (index + 1) cs

/-- The queues are gone through until `count` candidates were taken. -/
def takeRounds (count : ℕ) :
    ℕ → List SourceCandidateQueue → List Candidate → List Candidate
  | 0, _, scheduled => scheduled
  | fuel + 1, queues, scheduled =>
    if scheduled.length < count then
      takeRounds count fuel (queues.map fun q => q.popFront.2)
        (scheduled ++ queues.filterMap fun q => q.popFront.1)
    else scheduled

/-- `source_fair_candidates`; every round takes a candidate, so that there are no more of them than
candidates. -/
def sourceFairCandidates (candidates : List Candidate) (isPreferred : Candidate → Bool) :
    List Candidate :=
  if candidates.length ≤ 1 then candidates
  else
    takeRounds candidates.length candidates.length
      (sortBy compareQueues (queuesOf isPreferred [] 0 candidates)) []

/-- `schedule_active_candidates`. -/
def scheduleActiveCandidates (candidates : List Candidate) (policy : ProbeStopPolicy) :
    List Candidate :=
  if candidates.length ≤ 1 then candidates
  else
    let hasPrevious := policy.prioritizeStability && !policy.previousWorkingKeys.isEmpty
    sourceFairCandidates candidates fun c =>
      hasPrevious && policy.previousWorkingKeys.contains c.dedupKey

/-! ### What the queues hold -/

/-- The candidates of a source. -/
def ofSource (cs : List Candidate) (k : String × ℕ) : List Candidate :=
  cs.filter fun c => c.sourceKey = k

/-- The place of the first one. -/
def firstIndexOf (cs : List Candidate) (k : String × ℕ) : ℕ :=
  cs.findIdx fun c => c.sourceKey = k

/-- The queue of a source, when the candidates are those of `cs`. -/
def queueOf (isPreferred : Candidate → Bool) (cs : List Candidate) (k : String × ℕ) :
    SourceCandidateQueue where
  source := k.1
  priority := k.2
  firstIndex := firstIndexOf cs k
  preferred := (ofSource cs k).filter isPreferred
  regular := (ofSource cs k).filter fun c => !isPreferred c

/-- There is one queue for each source, with the candidates of this source. -/
structure Holds (isPreferred : Candidate → Bool) (cs : List Candidate)
    (queues : List SourceCandidateQueue) : Prop where
  nodup : (queues.map key).Nodup
  eq : ∀ q ∈ queues, q = queueOf isPreferred cs q.key
  used : ∀ q ∈ queues, q.key ∈ cs.map Candidate.sourceKey
  all : ∀ c ∈ cs, c.sourceKey ∈ queues.map key

section Queues

variable {isPreferred : Candidate → Bool} {cs : List Candidate}
  {queues : List SourceCandidateQueue} {c : Candidate}

@[simp] lemma key_queueOf (k : String × ℕ) : (queueOf isPreferred cs k).key = k := rfl

@[simp] lemma key_push (q : SourceCandidateQueue) : (push isPreferred c q).key = q.key := by
  rw [push]
  split_ifs <;> rfl

/-- A candidate of another source changes nothing. -/
lemma queueOf_append_of_ne {k : String × ℕ} (hne : c.sourceKey ≠ k)
    (hused : k ∈ cs.map Candidate.sourceKey) :
    queueOf isPreferred (cs ++ [c]) k = queueOf isPreferred cs k := by
  obtain ⟨c', hc', hk⟩ := List.mem_map.mp hused
  have hsource : ofSource (cs ++ [c]) k = ofSource cs k := by
    simp [ofSource, hne]
  have hfirst : firstIndexOf (cs ++ [c]) k = firstIndexOf cs k := by
    rw [firstIndexOf, List.findIdx_append, if_pos]
    · rfl
    · exact List.findIdx_lt_length_of_exists ⟨c', hc', by simpa using hk⟩
  rw [queueOf, hsource, hfirst]
  rfl

/-- One of the source itself is pushed. -/
lemma queueOf_append_self (hused : c.sourceKey ∈ cs.map Candidate.sourceKey) :
    queueOf isPreferred (cs ++ [c]) c.sourceKey
      = push isPreferred c (queueOf isPreferred cs c.sourceKey) := by
  obtain ⟨c', hc', hk⟩ := List.mem_map.mp hused
  have hsource : ofSource (cs ++ [c]) c.sourceKey = ofSource cs c.sourceKey ++ [c] := by
    simp [ofSource]
  have hfirst : firstIndexOf (cs ++ [c]) c.sourceKey = firstIndexOf cs c.sourceKey := by
    rw [firstIndexOf, List.findIdx_append, if_pos]
    · rfl
    · exact List.findIdx_lt_length_of_exists ⟨c', hc', by simpa using hk⟩
  rw [queueOf, hsource, hfirst, push]
  by_cases hp : isPreferred c <;> simp [queueOf, hp]

/-- The first one of its source has a queue of its own. -/
lemma queueOf_append_new (hnew : c.sourceKey ∉ cs.map Candidate.sourceKey) :
    queueOf isPreferred (cs ++ [c]) c.sourceKey
      = push isPreferred c ⟨c.source, c.priority, cs.length, [], []⟩ := by
  have hnone : ∀ c' ∈ cs, c'.sourceKey ≠ c.sourceKey := fun c' hc' he =>
    hnew (List.mem_map.mpr ⟨c', hc', he⟩)
  have hsource : ofSource (cs ++ [c]) c.sourceKey = [c] := by
    rw [ofSource, List.filter_append, List.filter_eq_nil_iff.mpr (by simpa using hnone)]
    simp
  have hfirst : firstIndexOf (cs ++ [c]) c.sourceKey = cs.length := by
    have hlen : List.findIdx (fun c' => decide (c'.sourceKey = c.sourceKey)) cs = cs.length :=
      List.findIdx_eq_length.mpr (by simpa using hnone)
    rw [firstIndexOf, List.findIdx_append, hlen, if_neg (lt_irrefl _)]
    simp
  rw [queueOf, hsource, hfirst, push]
  by_cases hp : isPreferred c <;> simp [hp, Candidate.sourceKey]

/-- A candidate of a new source opens a queue. -/
lemma keys_enqueue (index : ℕ) : (enqueue isPreferred index c queues).map key
    = if c.sourceKey ∈ queues.map key then queues.map key
      else queues.map key ++ [c.sourceKey] := by
  induction queues with
  | nil =>
      rw [enqueue, List.map_singleton, key_push]
      rfl
  | cons q queues ih =>
      rw [enqueue]
      by_cases hk : q.key = c.sourceKey
      · simp [hk]
      · rw [if_neg hk, List.map_cons, ih, List.map_cons]
        by_cases hmem : c.sourceKey ∈ queues.map key
        · rw [if_pos hmem, if_pos (List.mem_cons_of_mem _ hmem)]
        · rw [if_neg hmem, if_neg]
          · rfl
          · exact fun h => (List.mem_cons.mp h).elim (fun he => hk he.symm) hmem

/-- What is in a queue afterwards. -/
lemma mem_enqueue {index : ℕ} {q : SourceCandidateQueue} (hn : (queues.map key).Nodup)
    (h : q ∈ enqueue isPreferred index c queues) :
    (q ∈ queues ∧ q.key ≠ c.sourceKey)
      ∨ (∃ q' ∈ queues, q'.key = c.sourceKey ∧ q = push isPreferred c q')
      ∨ (c.sourceKey ∉ queues.map key
        ∧ q = push isPreferred c ⟨c.source, c.priority, index, [], []⟩) := by
  induction queues with
  | nil => exact .inr (.inr ⟨by simp, by simpa [enqueue] using h⟩)
  | cons q' queues ih =>
      rw [List.map_cons, List.nodup_cons] at hn
      rw [enqueue] at h
      by_cases hk : q'.key = c.sourceKey
      · rw [if_pos hk, List.mem_cons] at h
        rcases h with rfl | h
        · exact .inr (.inl ⟨q', List.mem_cons_self, hk, rfl⟩)
        · refine .inl ⟨List.mem_cons_of_mem _ h, fun hq => hn.1 ?_⟩
          exact List.mem_map.mpr ⟨q, h, hq.trans hk.symm⟩
      · rw [if_neg hk, List.mem_cons] at h
        rcases h with rfl | h
        · exact .inl ⟨List.mem_cons_self, hk⟩
        · rcases ih hn.2 h with ⟨hq, hne⟩ | ⟨q₀, hq₀, hkey, he⟩ | ⟨hnew, he⟩
          · exact .inl ⟨List.mem_cons_of_mem _ hq, hne⟩
          · exact .inr (.inl ⟨q₀, List.mem_cons_of_mem _ hq₀, hkey, he⟩)
          · refine .inr (.inr ⟨fun hmem => ?_, he⟩)
            rcases List.mem_cons.mp hmem with hmem | hmem
            · exact hk hmem.symm
            · exact hnew hmem

/-- One more candidate. -/
lemma Holds.enqueue (h : Holds isPreferred cs queues) :
    Holds isPreferred (cs ++ [c]) (enqueue isPreferred cs.length c queues) := by
  have hkeys : ∀ k ∈ cs.map Candidate.sourceKey, k ∈ queues.map key := by
    intro k hk
    obtain ⟨c', hc', rfl⟩ := List.mem_map.mp hk
    exact h.all c' hc'
  refine ⟨?_, fun q hq => ?_, fun q hq => ?_, fun c' hc' => ?_⟩
  · rw [keys_enqueue]
    split_ifs with hmem
    · exact h.nodup
    · exact List.nodup_append.mpr ⟨h.nodup, List.nodup_singleton _, fun k hk k' hk' => by
        rw [List.mem_singleton.mp hk']
        exact fun he => hmem (he ▸ hk)⟩
  · rcases mem_enqueue h.nodup hq with ⟨hq, hne⟩ | ⟨q', hq', hkey, rfl⟩ | ⟨hnew, rfl⟩
    · rw [queueOf_append_of_ne hne.symm (h.used q hq)]
      exact h.eq q hq
    · have hused : c.sourceKey ∈ cs.map Candidate.sourceKey := hkey ▸ h.used q' hq'
      rw [key_push, hkey, queueOf_append_self hused, ← hkey, ← h.eq q' hq']
    · have hk : key (push isPreferred c ⟨c.source, c.priority, cs.length, [], []⟩) = c.sourceKey :=
        key_push _
      rw [hk, queueOf_append_new fun hmem => hnew (hkeys _ hmem)]
  · rw [List.map_append, List.mem_append, List.map_singleton, List.mem_singleton]
    rcases mem_enqueue h.nodup hq with ⟨hq, -⟩ | ⟨q', -, hkey, rfl⟩ | ⟨-, rfl⟩
    · exact .inl (h.used q hq)
    · exact .inr (by rw [key_push, hkey])
    · exact .inr (by rw [key_push]; rfl)
  · rw [keys_enqueue]
    rcases List.mem_append.mp hc' with hc' | hc'
    · split_ifs
      · exact h.all c' hc'
      · exact List.mem_append_left _ (h.all c' hc')
    · obtain rfl := List.mem_singleton.mp hc'
      split_ifs with hmem
      · exact hmem
      · exact List.mem_append_right _ (List.mem_singleton_self _)

/-- All the candidates. -/
lemma Holds.queuesOf (h : Holds isPreferred cs queues) (cs' : List Candidate) :
    Holds isPreferred (cs ++ cs') (queuesOf isPreferred queues cs.length cs') := by
  induction cs' generalizing cs queues with
  | nil => rwa [List.append_nil]
  | cons c cs' ih =>
      have hstep := ih (h.enqueue (c := c))
      rw [List.length_append, List.length_singleton, List.append_assoc,
        List.singleton_append] at hstep
      exact hstep

/-- At the start there is no queue. -/
lemma holds_nil : Holds isPreferred [] [] :=
  ⟨List.nodup_nil, by simp, by simp, by simp⟩

/-- The order of the queues does not matter. -/
lemma Holds.perm {queues' : List SourceCandidateQueue} (h : Holds isPreferred cs queues)
    (hp : queues ~ queues') : Holds isPreferred cs queues' where
  nodup := ((hp.map key).nodup_iff).mp h.nodup
  eq q hq := h.eq q (hp.mem_iff.mpr hq)
  used q hq := h.used q (hp.mem_iff.mpr hq)
  all c hc := ((hp.map key).mem_iff).mp (h.all c hc)

end Queues

/-! ### The turns -/

/-- What a queue still gives, in order. -/
def SourceCandidateQueue.contents (q : SourceCandidateQueue) : List Candidate :=
  q.preferred ++ q.regular

/-- A turn gives the first of what a queue still gives. -/
lemma popFront_fst (q : SourceCandidateQueue) : q.popFront.1 = q.contents.head? := by
  rcases q with ⟨source, priority, firstIndex, _ | ⟨c, preferred⟩, _ | ⟨c', regular⟩⟩ <;> rfl

/-- A turn leaves the others. -/
lemma contents_popFront (q : SourceCandidateQueue) :
    q.popFront.2.contents = q.contents.tail := by
  rcases q with ⟨source, priority, firstIndex, _ | ⟨c, preferred⟩, _ | ⟨c', regular⟩⟩ <;> rfl

/-- The queues take turns. -/
lemma takeRounds_eq (count fuel : ℕ) (queues : List SourceCandidateQueue)
    (scheduled : List Candidate) :
    takeRounds count fuel queues scheduled
      = RoundRobin.loop count fuel (queues.map contents) scheduled := by
  induction fuel generalizing queues scheduled with
  | zero => rfl
  | succ fuel ih =>
      have hheads : queues.filterMap (fun q => q.popFront.1)
          = RoundRobin.heads (queues.map contents) := by
        rw [RoundRobin.heads, List.filterMap_map]
        exact List.filterMap_congr fun q _ => popFront_fst q
      have htails : (queues.map fun q => q.popFront.2).map contents
          = RoundRobin.tails (queues.map contents) := by
        rw [RoundRobin.tails, List.map_map, List.map_map]
        exact List.map_congr_left fun q _ => contents_popFront q
      rw [takeRounds, RoundRobin.loop, ih, hheads, htails]

section Turns

variable (isPreferred : Candidate → Bool) (cs : List Candidate)

/-- The queues in the order they have their turns. -/
def sourceQueues : List SourceCandidateQueue :=
  sortBy compareQueues (queuesOf isPreferred [] 0 cs)

lemma holds_sourceQueues : Holds isPreferred cs (sourceQueues isPreferred cs) :=
  (holds_nil.queuesOf cs).perm (perm_sortBy _).symm

/-- A queue holds what was put in. -/
lemma contents_push (c : Candidate) (q : SourceCandidateQueue) :
    (push isPreferred c q).contents ~ c :: q.contents := by
  rw [push]
  split_ifs
  · rw [contents, contents, List.append_assoc]
    exact List.perm_middle
  · rw [contents, contents, ← List.append_assoc]
    exact List.perm_append_singleton _ _

/-- The queues hold what was put in. -/
lemma perm_enqueue (index : ℕ) (c : Candidate) (queues : List SourceCandidateQueue) :
    ((enqueue isPreferred index c queues).map contents).flatten
      ~ c :: (queues.map contents).flatten := by
  induction queues with
  | nil =>
      rw [enqueue, List.map_singleton, List.flatten_singleton]
      exact contents_push isPreferred c _
  | cons q queues ih =>
      rw [enqueue]
      split_ifs
      · exact (contents_push isPreferred c q).append_right _
      · exact (ih.append_left _).trans List.perm_middle

/-- The queues hold all candidates. -/
lemma perm_queuesOf (index : ℕ) (queues : List SourceCandidateQueue) :
    ((queuesOf isPreferred queues index cs).map contents).flatten
      ~ (queues.map contents).flatten ++ cs := by
  induction cs generalizing index queues with
  | nil => rw [queuesOf, List.append_nil]
  | cons c cs ih =>
      calc ((queuesOf isPreferred queues index (c :: cs)).map contents).flatten
          ~ ((enqueue isPreferred index c queues).map contents).flatten ++ cs := ih _ _
        _ ~ c :: (queues.map contents).flatten ++ cs := (perm_enqueue ..).append_right cs
        _ ~ (queues.map contents).flatten ++ c :: cs := List.perm_middle.symm

/-- The queues hold the candidates, each once. -/
lemma perm_contents : ((sourceQueues isPreferred cs).map contents).flatten ~ cs :=
  ((perm_sortBy _).map contents).flatten.trans (perm_queuesOf isPreferred cs 0 [])

lemma length_contents_le {q : SourceCandidateQueue} (hq : q ∈ sourceQueues isPreferred cs) :
    q.contents.length ≤ cs.length := by
  rw [← (perm_contents isPreferred cs).length_eq]
  exact (List.sublist_flatten_of_mem (List.mem_map_of_mem hq)).length_le

/-- **The loop is a round robin.** -/
theorem sourceFairCandidates_eq : sourceFairCandidates cs isPreferred
    = RoundRobin.rounds cs.length ((sourceQueues isPreferred cs).map contents) := by
  rw [sourceFairCandidates]
  split_ifs with hfew
  · match cs, hfew with
    | [], _ => rfl
    | [c], _ =>
        by_cases hp : isPreferred c <;>
          simp [sourceQueues, queuesOf, enqueue, push, hp, contents, RoundRobin.rounds]
  · rw [takeRounds_eq, RoundRobin.loop_eq_rounds, List.nil_append]
    · rfl
    · rw [List.length_nil, Nat.zero_add]
      exact (perm_contents isPreferred cs).length_eq

/-- Every candidate is scheduled once. -/
theorem perm_sourceFairCandidates : sourceFairCandidates cs isPreferred ~ cs := by
  rw [sourceFairCandidates_eq]
  refine (RoundRobin.perm_rounds fun l hl => ?_).trans (perm_contents isPreferred cs)
  obtain ⟨q, hq, rfl⟩ := List.mem_map.mp hl
  exact length_contents_le isPreferred cs hq

/-! ### One source -/

variable {isPreferred cs}

/-- A queue gives the preferred candidates of its source, then the others. -/
lemma contents_queueOf (k : String × ℕ) : (queueOf isPreferred cs k).contents
    = (ofSource cs k).filter isPreferred ++ (ofSource cs k).filter fun c => !isPreferred c := rfl

/-- The candidates in a queue are of its source. -/
lemma sourceKey_of_mem_contents {q : SourceCandidateQueue} (hq : q ∈ sourceQueues isPreferred cs)
    {c : Candidate} (hc : c ∈ q.contents) : c.sourceKey = q.key := by
  rw [(holds_sourceQueues isPreferred cs).eq q hq, contents_queueOf] at hc
  have hsource : c ∈ ofSource cs q.key := by
    rcases List.mem_append.mp hc with hc | hc
    · exact List.mem_of_mem_filter hc
    · exact List.mem_of_mem_filter hc
  simpa using List.of_mem_filter hsource

/-- The queue of a source among the others. -/
lemma picks_contents {q : SourceCandidateQueue} {l₁ l₂ : List SourceCandidateQueue}
    (h : sourceQueues isPreferred cs = l₁ ++ q :: l₂) :
    RoundRobin.Picks (fun c => c.sourceKey = q.key) q.contents
      (l₁.map contents ++ l₂.map contents) where
  all c hc := sourceKey_of_mem_contents (by rw [h]; simp) hc
  none l hl c hc he := by
    rw [← List.map_append] at hl
    obtain ⟨q', hq', rfl⟩ := List.mem_map.mp hl
    have hmem : q' ∈ sourceQueues isPreferred cs := by
      rw [h]
      rcases List.mem_append.mp hq' with hq' | hq'
      · exact List.mem_append_left _ hq'
      · exact List.mem_append_right _ (List.mem_cons_of_mem _ hq')
    -- two queues do not have one key
    have hnodup := (holds_sourceQueues isPreferred cs).nodup
    rw [h, List.map_append, List.map_cons] at hnodup
    have hout := (List.nodup_cons.mp (List.nodup_middle.mp hnodup)).1
    rw [← List.map_append] at hout
    exact hout (List.mem_map.mpr ⟨q', hq', (sourceKey_of_mem_contents hmem hc).symm.trans he⟩)

/-- A source without candidates, or its queue among the others. -/
lemma exists_split (isPreferred : Candidate → Bool) (cs : List Candidate) (k : String × ℕ) :
    ofSource cs k = [] ∨ ∃ q l₁ l₂, sourceQueues isPreferred cs = l₁ ++ q :: l₂ ∧ q.key = k := by
  by_cases hk : k ∈ (sourceQueues isPreferred cs).map key
  · obtain ⟨q, hq, hkey⟩ := List.mem_map.mp hk
    obtain ⟨l₁, l₂, h⟩ := List.append_of_mem hq
    exact .inr ⟨q, l₁, l₂, h, hkey⟩
  · refine .inl (List.filter_eq_nil_iff.mpr fun c hc he => hk ?_)
    have he : c.sourceKey = k := by simpa using he
    exact he ▸ (holds_sourceQueues isPreferred cs).all c hc

/-- The candidates of a source keep their order, after those of them that are preferred. -/
theorem filter_sourceFairCandidates (isPreferred : Candidate → Bool) (cs : List Candidate)
    (k : String × ℕ) : ofSource (sourceFairCandidates cs isPreferred) k
      = (ofSource cs k).filter isPreferred
        ++ (ofSource cs k).filter fun c => !isPreferred c := by
  rcases exists_split isPreferred cs k with hnone | ⟨q, l₁, l₂, h, rfl⟩
  · rw [hnone, List.filter_nil, List.filter_nil, List.append_nil]
    refine List.filter_eq_nil_iff.mpr fun c hc => List.filter_eq_nil_iff.mp hnone c ?_
    exact (perm_sourceFairCandidates isPreferred cs).mem_iff.mp hc
  · have hq : q ∈ sourceQueues isPreferred cs := by simp [h]
    rw [ofSource, sourceFairCandidates_eq, h, List.map_append, List.map_cons,
      RoundRobin.filter_rounds (picks_contents h),
      List.take_of_length_le (length_contents_le isPreferred cs hq), ← contents_queueOf,
      ← (holds_sourceQueues isPreferred cs).eq q hq]

/-! ### Fairness -/

/-- How many turns a source had. -/
def turns (taken : List Candidate) (k : String × ℕ) : ℕ := taken.countP fun c => c.sourceKey = k

/-- The sources have their turns by priority, and then by the place of their first candidate. -/
def Before (cs : List Candidate) (k k' : String × ℕ) : Prop :=
  k.2 < k'.2 ∨ k.2 = k'.2 ∧ firstIndexOf cs k < firstIndexOf cs k'

/-- Sources are in one order only. -/
lemma not_le_of_before {k k' : String × ℕ} (h : Before cs k k') :
    ¬Le compareQueues (queueOf isPreferred cs k') (queueOf isPreferred cs k) := by
  apply not_le_of_eq_gt
  rw [compareQueues]
  rcases h with h | ⟨heq, h⟩
  · exact Ordering.then_eq_gt.mpr (.inl (compare_gt_iff_gt.mpr h))
  · refine Ordering.then_eq_gt.mpr (.inr ⟨compare_eq_iff_eq.mpr heq.symm, ?_⟩)
    exact Ordering.then_eq_gt.mpr (.inl (compare_gt_iff_gt.mpr h))

lemma pairwise_sourceQueues (isPreferred : Candidate → Bool) (cs : List Candidate) :
    (sourceQueues isPreferred cs).Pairwise (Le compareQueues) := pairwise_sortBy _

/-- Two queues in the order of their turns. -/
lemma exists_split_of_before {q q' : SourceCandidateQueue}
    (hq : q ∈ sourceQueues isPreferred cs) (hq' : q' ∈ sourceQueues isPreferred cs)
    (h : Before cs q.key q'.key) : ∃ l₁ l₂ l₃,
      sourceQueues isPreferred cs = l₁ ++ q :: (l₂ ++ q' :: l₃) := by
  obtain ⟨l₁, l₂, hsplit⟩ := List.append_of_mem hq
  have hne : q' ≠ q := by
    rintro rfl
    rcases h with h | ⟨-, h⟩ <;> exact lt_irrefl _ h
  have hnot : ¬Le compareQueues q' q := by
    rw [(holds_sourceQueues isPreferred cs).eq q hq, (holds_sourceQueues isPreferred cs).eq q' hq']
    exact not_le_of_before h
  rw [hsplit, List.mem_append, List.mem_cons] at hq'
  rcases hq' with hq' | hq' | hq'
  · have hpair := pairwise_sourceQueues isPreferred cs
    rw [hsplit] at hpair
    exact absurd ((List.pairwise_append.mp hpair).2.2 q' hq' q List.mem_cons_self) hnot
  · exact absurd hq' hne
  · obtain ⟨l₃, l₄, rfl⟩ := List.append_of_mem hq'
    exact ⟨l₁, l₃, l₄, hsplit⟩

/-- A source without candidates has no turn. -/
lemma turns_of_nil {k : String × ℕ} (h : ofSource cs k = []) (m : ℕ) :
    turns ((sourceFairCandidates cs isPreferred).take m) k = 0 := by
  refine List.countP_eq_zero.mpr fun c hc => List.filter_eq_nil_iff.mp h c ?_
  exact (perm_sourceFairCandidates isPreferred cs).mem_iff.mp (List.mem_of_mem_take hc)

/-- In the end a source had a turn for each of its candidates. -/
lemma turns_eq_length (k : String × ℕ) : turns cs k = (ofSource cs k).length :=
  List.countP_eq_length_filter

lemma length_contents {q : SourceCandidateQueue} (hq : q ∈ sourceQueues isPreferred cs) :
    min cs.length q.contents.length = turns cs q.key := by
  have hlen : q.contents.length = turns cs q.key := by
    rw [(holds_sourceQueues isPreferred cs).eq q hq, contents_queueOf, turns_eq_length,
      ← filter_sourceFairCandidates, key_queueOf, ← turns_eq_length, ← turns_eq_length]
    exact (perm_sourceFairCandidates isPreferred cs).countP_eq _
  rw [← hlen]
  exact min_eq_right (length_contents_le isPreferred cs hq)

/-- Of the candidates `cs` those in `taken` were taken: the first source has had as many turns as
the second, or all it can have; and at most one more, or the second has had all it can have. -/
def Fair (cs taken : List Candidate) (k k' : String × ℕ) : Prop :=
  (turns taken k' ≤ turns taken k ∨ turns taken k = turns cs k)
    ∧ (turns taken k ≤ turns taken k' + 1 ∨ turns taken k' = turns cs k')

/-- **The sources take turns**, at every moment. -/
theorem fair_sourceFairCandidates (isPreferred : Candidate → Bool) {cs : List Candidate}
    {k k' : String × ℕ} (h : Before cs k k') (m : ℕ) :
    Fair cs ((sourceFairCandidates cs isPreferred).take m) k k' := by
  set taken := (sourceFairCandidates cs isPreferred).take m with htaken
  rcases exists_split isPreferred cs k with hnone | ⟨q, l₁, l₂, hsplit, rfl⟩
  · -- the one before has no candidates
    have hk : turns taken k = 0 := turns_of_nil hnone m
    have hall : turns cs k = 0 := by rw [turns_eq_length, hnone, List.length_nil]
    constructor <;> omega
  rcases exists_split isPreferred cs k' with hnone | ⟨q', l₁', l₂', hsplit', rfl⟩
  · -- the one behind has none
    have hk : turns taken k' = 0 := turns_of_nil hnone m
    have hall : turns cs k' = 0 := by rw [turns_eq_length, hnone, List.length_nil]
    constructor <;> omega
  have hq : q ∈ sourceQueues isPreferred cs := by simp [hsplit]
  have hq' : q' ∈ sourceQueues isPreferred cs := by simp [hsplit']
  obtain ⟨m₁, m₂, m₃, hsplit⟩ := exists_split_of_before hq hq' h
  have ha := picks_contents hsplit
  have hsplit' : sourceQueues isPreferred cs = (m₁ ++ q :: m₂) ++ q' :: m₃ := by simp [hsplit]
  have hb := picks_contents hsplit'
  simp only [List.map_append, List.map_cons] at ha hb
  have hfair := RoundRobin.fair_rounds ha hb cs.length m
  rw [length_contents hq, length_contents hq'] at hfair
  simpa only [Fair, htaken, sourceFairCandidates_eq, hsplit, List.map_append, List.map_cons,
    turns] using hfair

end Turns

/-! ### The schedule -/

/-- Worked in the previous run, and the policy looks for those that did. -/
def ProbeStopPolicy.prefers (policy : ProbeStopPolicy) (c : Candidate) : Bool :=
  policy.prioritizeStability && policy.previousWorkingKeys.contains c.dedupKey

/-- Both branches of the schedule take turns by source. -/
lemma scheduleActiveCandidates_eq (candidates : List Candidate) (policy : ProbeStopPolicy) :
    scheduleActiveCandidates candidates policy
      = sourceFairCandidates candidates policy.prefers := by
  rw [scheduleActiveCandidates]
  split_ifs with hfew
  · rw [sourceFairCandidates, if_pos hfew]
  · refine congrArg (sourceFairCandidates candidates) (funext fun c => ?_)
    cases hkeys : policy.previousWorkingKeys <;> simp [ProbeStopPolicy.prefers, hkeys]

/-- The schedule has every candidate once. -/
lemma perm_scheduleActiveCandidates (candidates : List Candidate) (policy : ProbeStopPolicy) :
    scheduleActiveCandidates candidates policy ~ candidates := by
  rw [scheduleActiveCandidates_eq]
  exact perm_sourceFairCandidates _ candidates

/-- **The schedule is fair**: every candidate is in it once, the candidates of a source come in
their order, after those of them that worked in the previous run, and at every moment no source has
had two turns more than another that still has candidates. -/
theorem scheduleActiveCandidates_fair (candidates : List Candidate) (policy : ProbeStopPolicy) :
    scheduleActiveCandidates candidates policy ~ candidates
      ∧ (∀ k, ofSource (scheduleActiveCandidates candidates policy) k
          = (ofSource candidates k).filter policy.prefers
            ++ (ofSource candidates k).filter fun c => !policy.prefers c)
      ∧ ∀ k k', Before candidates k k' → ∀ m,
          Fair candidates ((scheduleActiveCandidates candidates policy).take m) k k' := by
  refine ⟨perm_scheduleActiveCandidates candidates policy, fun k => ?_, fun k k' h m => ?_⟩
  · rw [scheduleActiveCandidates_eq]
    exact filter_sourceFairCandidates _ candidates k
  · rw [scheduleActiveCandidates_eq]
    exact fair_sourceFairCandidates _ h m

end V2RayDar
