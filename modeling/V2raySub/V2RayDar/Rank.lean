import Mathlib.Algebra.Order.Ring.Rat
import Mathlib.Data.List.Sort
import Mathlib.Data.Nat.Basic
import Mathlib.Data.String.Basic
import Mathlib.Order.Compare
import V2raySub.Base.SortBy
import V2raySub.V2RayDar.Model

/-!
The ranking of the results (`probe.rs`, `compare_ranked`, `rank_configs`).

* `compareRanked`: the order, a chain of comparisons; it is a total preorder (`TransCmp`), and
  results it does not tell apart have one uri (`uri_eq_of_compareRanked`).
* `rankConfigs`: the results in this order, numbered from 1; `perm_rankConfigs`,
  `pairwise_rankConfigs`, `rank_rankConfigs`.
* `rankConfigs_of_perm`: **the ranked list does not depend on the order the probes end in**, as long
  as no two results have one uri.
-/

open scoped List

namespace V2RayDar

open SortBy

/-- The latency a result without one is compared by (`u128::MAX`). -/
def latencyMax : ℕ := 340282366920938463463374607431768211455

def compareRanked (left right : RankedConfig) : Ordering :=
  (compare right.reachable left.reachable).then <|
  (compare (left.latencyMs.getD latencyMax) (right.latencyMs.getD latencyMax)).then <|
  (compare right.downloadMbps left.downloadMbps).then <|
  (compare left.priority right.priority).then <|
  (compare left.protocol right.protocol).then <|
  (compare left.name right.name).then <|
  compare left.uri right.uri

instance : Std.TransCmp compareRanked :=
  inferInstanceAs (Std.TransCmp (compareLex
    (fun l r : RankedConfig => compareOn RankedConfig.reachable r l) <| compareLex
    (compareOn fun r => r.latencyMs.getD latencyMax) <| compareLex
    (fun l r => compareOn RankedConfig.downloadMbps r l) <| compareLex
    (compareOn RankedConfig.priority) <| compareLex
    (compareOn RankedConfig.protocol) <| compareLex
    (compareOn RankedConfig.name)
    (compareOn RankedConfig.uri)))

def rankConfigs (ranked : List RankedConfig) : List RankedConfig :=
  (sortBy compareRanked ranked).mapIdx fun index item => { item with rank := index + 1 }

/-! ### The order -/

/-- Two results that are not told apart have one uri. -/
lemma uri_eq_of_compareRanked {left right : RankedConfig} (h : compareRanked left right = .eq) :
    left.uri = right.uri := by
  simp only [compareRanked, Ordering.then_eq_eq] at h
  exact compare_eq_iff_eq.mp h.2.2.2.2.2.2

/-- The reachable ones come first. -/
lemma reachable_of_le {left right : RankedConfig} (h : Le compareRanked left right)
    (hr : right.reachable = true) : left.reachable = true := by
  have hfirst : (compare right.reachable left.reachable).isLE = true :=
    Ordering.isLE_left_of_isLE_then h
  rw [hr] at hfirst
  cases hl : left.reachable with
  | true => rfl
  | false =>
      rw [hl] at hfirst
      exact absurd hfirst (by decide)

/-- Among these the fast ones come first. -/
lemma latency_le_of_le {left right : RankedConfig} (h : Le compareRanked left right)
    (hsame : left.reachable = right.reachable) :
    left.latencyMs.getD latencyMax ≤ right.latencyMs.getD latencyMax := by
  have heq : compare right.reachable left.reachable = .eq := compare_eq_iff_eq.mpr hsame.symm
  rw [Le, compareRanked, heq, Ordering.eq_then] at h
  exact compare_le_iff_le.mp (Ordering.isLE_iff_ne_gt.mp (Ordering.isLE_left_of_isLE_then h))

/-! ### The ranked list -/

/-- A result without its rank. -/
def RankedConfig.unranked (r : RankedConfig) : RankedConfig := { r with rank := 0 }

lemma le_unranked_iff {left right : RankedConfig} :
    Le compareRanked left.unranked right.unranked ↔ Le compareRanked left right := Iff.rfl

@[simp] lemma length_rankConfigs (ranked : List RankedConfig) :
    (rankConfigs ranked).length = ranked.length := by
  rw [rankConfigs, List.length_mapIdx, length_sortBy]

/-- The numbers are those of the places. -/
lemma rank_rankConfigs (ranked : List RankedConfig) :
    (rankConfigs ranked).map RankedConfig.rank
      = (List.range ranked.length).map (· + 1) := by
  refine List.ext_getElem (by simp) fun i h _ => ?_
  simp [rankConfigs]

lemma unranked_rankConfigs (ranked : List RankedConfig) :
    (rankConfigs ranked).map RankedConfig.unranked
      = (sortBy compareRanked ranked).map RankedConfig.unranked := by
  refine List.ext_getElem (by simp) fun i h _ => ?_
  simp [rankConfigs, RankedConfig.unranked]

/-- Every result is in the ranked list once. -/
theorem perm_rankConfigs (ranked : List RankedConfig) :
    (rankConfigs ranked).map RankedConfig.unranked ~ ranked.map RankedConfig.unranked := by
  rw [unranked_rankConfigs]
  exact (perm_sortBy ranked).map _

theorem pairwise_rankConfigs (ranked : List RankedConfig) :
    (rankConfigs ranked).Pairwise (Le compareRanked) := by
  have hunranked : ((rankConfigs ranked).map RankedConfig.unranked).Pairwise
      (Le compareRanked) := by
    rw [unranked_rankConfigs]
    exact List.pairwise_map.mpr ((pairwise_sortBy ranked).imp le_unranked_iff.mpr)
  exact (List.pairwise_map.mp hunranked).imp le_unranked_iff.mp

/-- **The order the results came in does not matter**: the ranked list is the same, if no two of
them have one uri. -/
theorem rankConfigs_of_perm {ranked ranked' : List RankedConfig} (h : ranked ~ ranked')
    (huri : (ranked.map RankedConfig.uri).Nodup) : rankConfigs ranked = rankConfigs ranked' := by
  rw [rankConfigs, rankConfigs, sortBy_of_perm h fun a ha b hb hab =>
    List.inj_on_of_nodup_map huri ha hb (uri_eq_of_compareRanked hab)]

/-- A failure and a success, whichever came in first. -/
theorem rankConfigs_of_perm_sample :
    rankConfigs [failedConfig (sampleCandidate "a") "tcp_connect" "refused",
        probeTcp (sampleCandidate "b") (.ok (12, none))]
      = rankConfigs [probeTcp (sampleCandidate "b") (.ok (12, none)),
        failedConfig (sampleCandidate "a") "tcp_connect" "refused"] :=
  rankConfigs_of_perm (.swap ..) (by decide)

end V2RayDar
