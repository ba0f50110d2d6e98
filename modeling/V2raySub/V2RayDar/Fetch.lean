import V2raySub.Base.SortBy
import V2raySub.V2RayDar.Model

/-!
The candidates of the subscriptions (`subscription.rs`, `load_candidates_with_cache`,
`fetch_sources_with_client`): the sources are fetched side by side, and what they give is put in
their order.

* `retainNew`: the candidates whose key was not seen before; `find_retainNew`: of those with one key
  it keeps the first.
* `fetchSources`: what is made of the answers in the order they come in.
* `fetchSources_of_perm`: **the candidates do not depend on which source answers first**: they are
  the same as if the sources were fetched one after the other.
-/

open scoped List

namespace V2RayDar

open SortBy

/-! ### The definitions -/

structure SubscriptionSource where
  name : String
  url : String
  enabled : Bool
  priority : ℕ
  deriving DecidableEq

structure FetchFailure where
  source : SubscriptionSource
  error : String
  deriving DecidableEq

structure FetchOutcome where
  candidates : List Candidate
  errors : List String
  failures : List FetchFailure
  successes : List SubscriptionSource

/-- The answer of a source, with its place: the candidates, or the error. -/
structure Fetched where
  index : ℕ
  source : SubscriptionSource
  result : Except String (List Candidate)

/-- The candidates whose key is not among `seen`, each key once (`retain` with `HashSet::insert`),
and the keys seen then. -/
def retainNew : List String → List Candidate → List Candidate × List String
  | seen, [] => ([], seen)
  | seen, c :: cs =>
    if c.dedupKey ∈ seen then retainNew seen cs
    else
      let (kept, seen') := retainNew (c.dedupKey :: seen) cs
      (c :: kept, seen')

/-- What the sources gave, one after the other. -/
def retainAll : List String → List (ℕ × List Candidate) → List Candidate
  | _, [] => []
  | seen, (_, fetched) :: rest =>
    (retainNew seen fetched).1 ++ retainAll (retainNew seen fetched).2 rest

/-- What the loop over the answers has collected. -/
structure Collected where
  fetchedSources : List (ℕ × List Candidate)
  seenKeys : List String
  uniqueCount : ℕ
  errors : List String
  failures : List (ℕ × FetchFailure)
  successes : List SubscriptionSource

def Collected.add (s : Collected) (answer : Fetched) : Collected :=
  match answer.result with
  | .ok candidates =>
    { s with
      seenKeys := (retainNew s.seenKeys candidates).2
      uniqueCount := s.uniqueCount + (retainNew s.seenKeys candidates).1.length
      successes := s.successes ++ [answer.source]
      fetchedSources := s.fetchedSources ++ [(answer.index, candidates)] }
  | .error err =>
    { s with
      errors := s.errors ++ [err]
      failures := s.failures ++ [(answer.index, ⟨answer.source, err⟩)] }

/-- The loop. -/
def collect (answers : List Fetched) : Collected :=
  answers.foldl Collected.add ⟨[], [], 0, [], [], []⟩

/-- `fetch_sources_with_client`, on the answers in the order they come in. -/
def fetchSources (answers : List Fetched) : FetchOutcome :=
  let s := collect answers
  { candidates := retainAll [] (sortBy (compareOn Prod.fst) s.fetchedSources)
    errors := s.errors
    failures := (sortBy (compareOn Prod.fst) s.failures).map Prod.snd
    successes := s.successes }

/-- `load_candidates_with_cache` asks the enabled sources: their answers, in their order. -/
def answersOf (fetch : ℕ → SubscriptionSource → Except String (List Candidate))
    (subscriptions : List SubscriptionSource) : List Fetched :=
  (subscriptions.filter SubscriptionSource.enabled).zipIdx.map fun (source, index) =>
    ⟨index, source, fetch index source⟩

/-! ### What is kept -/

lemma sublist_retainNew (seen : List String) (cs : List Candidate) :
    List.Sublist (retainNew seen cs).1 cs := by
  induction cs generalizing seen with
  | nil => exact .slnil
  | cons c cs ih =>
      rw [retainNew]
      split_ifs
      · exact (ih seen).cons c
      · exact (ih _).cons_cons c

/-- Two lists, one after the other. -/
lemma retainNew_append (seen : List String) (cs cs' : List Candidate) :
    retainNew seen (cs ++ cs')
      = ((retainNew seen cs).1 ++ (retainNew (retainNew seen cs).2 cs').1,
        (retainNew (retainNew seen cs).2 cs').2) := by
  induction cs generalizing seen with
  | nil => rfl
  | cons c cs ih =>
      rw [List.cons_append, retainNew, retainNew]
      split_ifs
      · exact ih seen
      · rw [ih]
        rfl

/-- The candidates of all sources are kept as if they came from one. -/
lemma retainAll_eq (seen : List String) (l : List (ℕ × List Candidate)) :
    retainAll seen l = (retainNew seen (l.map Prod.snd).flatten).1 := by
  induction l generalizing seen with
  | nil => rfl
  | cons p l ih =>
      rw [retainAll, ih, List.map_cons, List.flatten_cons, retainNew_append]

/-- Of the candidates with one key the first is kept, unless the key was seen. -/
lemma find_retainNew (seen : List String) (cs : List Candidate) (k : String) :
    (retainNew seen cs).1.filter (fun c => c.dedupKey = k)
      = if k ∈ seen then [] else (cs.find? fun c => c.dedupKey = k).toList := by
  induction cs generalizing seen with
  | nil => simp [retainNew]
  | cons c cs ih =>
      rw [retainNew]
      by_cases hk : c.dedupKey = k
      · by_cases hseen : c.dedupKey ∈ seen
        · rw [if_pos hseen, ih, if_pos (hk ▸ hseen), if_pos (hk ▸ hseen)]
        · have hrest := ih (c.dedupKey :: seen)
          rw [if_pos (by rw [hk]; exact List.mem_cons_self)] at hrest
          rw [if_neg hseen, if_neg (hk ▸ hseen), List.filter_cons_of_pos (by simpa using hk), hrest,
            List.find?_cons_of_pos (by simpa using hk)]
          rfl
      · have hmem : k ∈ c.dedupKey :: seen ↔ k ∈ seen := by
          rw [List.mem_cons, or_iff_right (Ne.symm hk)]
        rw [List.find?_cons_of_neg (by simpa using hk)]
        by_cases hseen : c.dedupKey ∈ seen
        · rw [if_pos hseen, ih]
        · rw [if_neg hseen, List.filter_cons_of_neg (by simpa using hk), ih]
          simp only [hmem]

/-- No two of the kept ones have one key. -/
lemma nodup_retainNew (seen : List String) (cs : List Candidate) :
    ((retainNew seen cs).1.map Candidate.dedupKey).Nodup := by
  refine List.nodup_iff_count_le_one.mpr fun k => ?_
  calc ((retainNew seen cs).1.map Candidate.dedupKey).count k
      = (retainNew seen cs).1.countP fun c => c.dedupKey = k := by
        rw [List.count_eq_countP, List.countP_map]
        exact List.countP_congr fun c _ => by simp
    _ = ((retainNew seen cs).1.filter fun c => c.dedupKey = k).length :=
        List.countP_eq_length_filter
    _ ≤ 1 := by
        rw [find_retainNew]
        split_ifs
        · exact Nat.zero_le 1
        · exact Option.length_toList_le

/-! ### The order of the answers -/

/-- The candidates of an answer. -/
def Fetched.fetched? (a : Fetched) : Option (ℕ × List Candidate) :=
  match a.result with
  | .ok candidates => some (a.index, candidates)
  | .error _ => none

/-- The failure of an answer. -/
def Fetched.failure? (a : Fetched) : Option (ℕ × FetchFailure) :=
  match a.result with
  | .ok _ => none
  | .error err => some (a.index, ⟨a.source, err⟩)

/-- What the loop has collected: what is put in order is that of all the answers. -/
lemma foldl_add (answers : List Fetched) (s : Collected) :
    (answers.foldl Collected.add s).fetchedSources
        = s.fetchedSources ++ answers.filterMap Fetched.fetched?
      ∧ (answers.foldl Collected.add s).failures
        = s.failures ++ answers.filterMap Fetched.failure?
      ∧ (answers.foldl Collected.add s).errors
        = s.errors ++ (answers.filterMap Fetched.failure?).map fun f => f.2.error := by
  induction answers generalizing s with
  | nil => simp
  | cons a answers ih =>
      obtain ⟨hfetched, hfailures, herrors⟩ := ih (s.add a)
      rw [List.foldl_cons, hfetched, hfailures, herrors]
      cases ha : a.result with
      | ok candidates =>
          simp [Collected.add, ha, Fetched.fetched?, Fetched.failure?]
      | error err =>
          simp [Collected.add, ha, Fetched.fetched?, Fetched.failure?]

lemma fetchedSources_collect (answers : List Fetched) :
    (collect answers).fetchedSources = answers.filterMap Fetched.fetched? :=
  (foldl_add answers _).1

lemma failures_collect (answers : List Fetched) :
    (collect answers).failures = answers.filterMap Fetched.failure? := (foldl_add answers _).2.1

/-- The candidates of some answers. -/
def gathered (answers : List Fetched) : List Candidate :=
  ((answers.filterMap Fetched.fetched?).map Prod.snd).flatten

/-- The progress the loop shows: the candidates that are kept if the answers count in this order. -/
lemma uniqueCount_foldl (answers : List Fetched) (s : Collected) :
    (answers.foldl Collected.add s).uniqueCount
      = s.uniqueCount + (retainNew s.seenKeys (gathered answers)).1.length := by
  induction answers generalizing s with
  | nil => rfl
  | cons a answers ih =>
      rw [List.foldl_cons, ih]
      cases ha : a.result with
      | ok candidates =>
          have hgathered : gathered (a :: answers) = candidates ++ gathered answers := by
            simp [gathered, Fetched.fetched?, ha]
          rw [hgathered, retainNew_append, List.length_append, Collected.add, ha]
          exact Nat.add_assoc _ _ _
      | error err =>
          have hgathered : gathered (a :: answers) = gathered answers := by
            simp [gathered, Fetched.fetched?, ha]
          rw [hgathered, Collected.add, ha]

/-- How many are kept does not depend on their order. -/
lemma length_retainNew_of_perm {cs cs' : List Candidate} (h : cs ~ cs') :
    (retainNew [] cs).1.length = (retainNew [] cs').1.length := by
  have hmem : ∀ (l : List Candidate) k,
      k ∈ (retainNew [] l).1.map Candidate.dedupKey ↔ k ∈ l.map Candidate.dedupKey := fun l k => by
    have hfind := find_retainNew [] l k
    rw [if_neg List.not_mem_nil] at hfind
    constructor
    · intro hk
      exact ((sublist_retainNew [] l).map _).subset hk
    · intro hk
      obtain ⟨c, hc, hkey⟩ := List.mem_map.mp hk
      have hsome : (l.find? fun c => c.dedupKey = k).isSome :=
        List.find?_isSome.mpr ⟨c, hc, by simpa using hkey⟩
      obtain ⟨c', hc'⟩ := Option.isSome_iff_exists.mp hsome
      rw [hc'] at hfind
      have hkept : c' ∈ (retainNew [] l).1.filter fun c => c.dedupKey = k := by
        rw [hfind]
        exact List.mem_singleton_self c'
      exact List.mem_map.mpr ⟨c', List.mem_of_mem_filter hkept, by
        simpa using List.of_mem_filter hkept⟩
  have hperm : (retainNew [] cs).1.map Candidate.dedupKey
      ~ (retainNew [] cs').1.map Candidate.dedupKey :=
    (List.perm_ext_iff_of_nodup (nodup_retainNew [] cs) (nodup_retainNew [] cs')).mpr fun k => by
      rw [hmem, hmem, (h.map _).mem_iff]
  simpa using hperm.length_eq

variable {fetch : ℕ → SubscriptionSource → Except String (List Candidate)}
  {subscriptions : List SubscriptionSource}

/-- The answers have their places in order. -/
lemma pairwise_answersOf :
    (answersOf fetch subscriptions).Pairwise fun a b => a.index < b.index := by
  rw [answersOf, List.pairwise_map]
  have hsnd : ((subscriptions.filter SubscriptionSource.enabled).zipIdx.map Prod.snd).Pairwise
      (· < ·) := by
    rw [List.zipIdx_map_snd]
    exact List.pairwise_lt_range'
  exact List.pairwise_map.mp hsnd

/-- What is put in order by its place is in the order of the sources. -/
lemma sortBy_filterMap {β : Type*} {f : Fetched → Option (ℕ × β)}
    (hf : ∀ a p, f a = some p → p.1 = a.index) {answers : List Fetched}
    (h : answers ~ answersOf fetch subscriptions) :
    sortBy (compareOn Prod.fst) (answers.filterMap f)
      = (answersOf fetch subscriptions).filterMap f := by
  have hpair : ((answersOf fetch subscriptions).filterMap f).Pairwise fun p q => p.1 < q.1 := by
    refine List.pairwise_filterMap.mpr (pairwise_answersOf.imp fun {a b} hlt p hp q hq => ?_)
    rw [hf a p hp, hf b q hq]
    exact hlt
  have hsorted : ((answersOf fetch subscriptions).filterMap f).Pairwise
      (Le (compareOn Prod.fst)) := hpair.imp fun hlt => by
    rw [Le, compareOn, compare_lt_iff_lt.mpr hlt]
    rfl
  have hperm : answers.filterMap f ~ (answersOf fetch subscriptions).filterMap f :=
    h.filterMap f
  rw [← sortBy_of_pairwise hsorted]
  refine sortBy_of_perm hperm fun p hp q hq heq => ?_
  -- two with one place are the same
  have hnodup : (((answersOf fetch subscriptions).filterMap f).map Prod.fst).Nodup :=
    List.pairwise_map.mpr (hpair.imp fun hlt => Nat.ne_of_lt hlt)
  exact List.inj_on_of_nodup_map hnodup (hperm.mem_iff.mp hp) (hperm.mem_iff.mp hq)
    (compare_eq_iff_eq.mp heq)

/-- **The order of the answers does not matter**: the candidates are those of the sources one after
the other, the first one of each key; the failures are in the order of the sources; and the
progress that was shown ends at the number of the candidates. -/
theorem fetchSources_of_perm (answers : List Fetched)
    (h : answers ~ answersOf fetch subscriptions) :
    let loaded := gathered (answersOf fetch subscriptions)
    (fetchSources answers).candidates = (retainNew [] loaded).1
      ∧ (∀ k, (fetchSources answers).candidates.filter (fun c => c.dedupKey = k)
        = (loaded.find? fun c => c.dedupKey = k).toList)
      ∧ (fetchSources answers).failures
        = ((answersOf fetch subscriptions).filterMap Fetched.failure?).map Prod.snd
      ∧ (fetchSources answers).errors ~ (fetchSources answers).failures.map FetchFailure.error
      ∧ (collect answers).uniqueCount = (fetchSources answers).candidates.length := by
  intro loaded
  have hfetched : sortBy (compareOn Prod.fst) (answers.filterMap Fetched.fetched?)
      = (answersOf fetch subscriptions).filterMap Fetched.fetched? := by
    refine sortBy_filterMap (fun a p hp => ?_) h
    rw [Fetched.fetched?] at hp
    cases ha : a.result with
    | ok candidates =>
        rw [ha] at hp
        exact (congrArg Prod.fst (Option.some.inj hp)).symm
    | error err =>
        rw [ha] at hp
        cases hp
  have hfailures : sortBy (compareOn Prod.fst) (answers.filterMap Fetched.failure?)
      = (answersOf fetch subscriptions).filterMap Fetched.failure? := by
    refine sortBy_filterMap (fun a p hp => ?_) h
    rw [Fetched.failure?] at hp
    cases ha : a.result with
    | ok candidates =>
        rw [ha] at hp
        cases hp
    | error err =>
        rw [ha] at hp
        exact (congrArg Prod.fst (Option.some.inj hp)).symm
  have hcandidates : (fetchSources answers).candidates = (retainNew [] loaded).1 := by
    simp only [fetchSources, fetchedSources_collect, hfetched, retainAll_eq]
    rfl
  have hfailed : (fetchSources answers).failures
      = ((answersOf fetch subscriptions).filterMap Fetched.failure?).map Prod.snd := by
    simp only [fetchSources, failures_collect, hfailures]
  refine ⟨hcandidates, fun k => ?_, hfailed, ?_, ?_⟩
  · rw [hcandidates, find_retainNew, if_neg List.not_mem_nil]
  · have herrors : (fetchSources answers).errors
        = (answers.filterMap Fetched.failure?).map fun f => f.2.error := (foldl_add answers _).2.2
    rw [herrors, hfailed, List.map_map]
    exact (h.filterMap _).map _
  · have hgathered : gathered answers ~ loaded := ((h.filterMap _).map _).flatten
    rw [hcandidates, ← length_retainNew_of_perm hgathered, collect, uniqueCount_foldl]
    exact Nat.zero_add _

/-- The first feed has two links with one key, and the second one does not answer. -/
def sampleFetch (index : ℕ) (_ : SubscriptionSource) : Except String (List Candidate) :=
  if index = 0 then .ok [sampleCandidate "a", { sampleCandidate "b" with dedupKey := "key-a" }]
  else .error "timeout"

def sampleFeeds : List SubscriptionSource := [⟨"x", "u", true, 1⟩, ⟨"y", "v", true, 2⟩]

/-- The second answer comes first. -/
theorem fetchSources_of_perm_sample :
    (fetchSources (answersOf sampleFetch sampleFeeds).reverse).candidates
      = (retainNew [] (gathered (answersOf sampleFetch sampleFeeds))).1 :=
  (fetchSources_of_perm _ (List.reverse_perm _)).1

end V2RayDar
