import V2raySub.Automation.EarlyStop
import V2raySub.Base.Exchange

/-!
What an import trades (`ConfigImporter.import_discovered_configs`).

* `additionPass_eq`, `replacementPass_eq`: the two passes as insertions of the new candidates and as
  an exchange of the others against the slowest discovered configs.
* `Grows`: what insertions and swaps leave of the table, kept together by `Grows.trans`.
* `replacement_improves`: every retired row is paired with **a row of its own that was inserted and
  is faster by more than 50 ms**, no inserted row is retired, and with budget left **no candidate is
  left that would gain as much against any discovered row still served**.
-/

namespace V2raySub
namespace ConfigImporter

/-! ### The passes as insertions and swaps -/

/-- The insertion of a candidate, if its scheme is one the pool holds. -/
def insertItem (k : Scan) (s : Progress) (item : ProbeResult) : Progress :=
  match detectConfigType item.uri with
  | none => s
  | some protocol => insertDiscovered k s item protocol

/-- A swap: the displaced config is retired, and the candidate is inserted. -/
def swapItem (k : Scan) (policy : CleanupPolicy) (s : Progress)
    (swap : ProbeResult × (ℕ × ConfigRow)) : Progress :=
  insertItem k { s with configs := s.configs.set swap.2.1 (retire policy) } swap.1

/-- The latency of a candidate, as a whole number of milliseconds. -/
def cost (item : ProbeResult) : ℤ := latencyOf item

/-- The latency of a row. -/
def worth (r : ℕ × ConfigRow) : ℤ := lat r.2

/-- The candidates of a pass that are new. -/
def novelItems (k : Scan) (s : Progress) (items : List ProbeResult) : List ProbeResult :=
  Exchange.novel (identity? k.lib) s.identities items

variable {k : Scan} {policy : CleanupPolicy} {s : Progress} {item : ProbeResult}
  {items : List ProbeResult} {protocol : ConfigType}

lemma identity?_of_detect (hp : detectConfigType item.uri = some protocol) :
    identity? k.lib item = some (getConfigIdentity k.lib item.uri protocol) := by
  rw [identity?, hp, Option.map_some]

lemma detect_of_identity? {identity : Identity} (h : identity? k.lib item = some identity) :
    ∃ protocol, detectConfigType item.uri = some protocol
      ∧ getConfigIdentity k.lib item.uri protocol = identity :=
  Option.map_eq_some_iff.mp h

lemma insertItem_of_detect (hp : detectConfigType item.uri = some protocol) :
    insertItem k s item = insertDiscovered k s item protocol := by
  rw [insertItem, hp]

/-- The first pass inserts the first new candidates, up to the limit. -/
lemma additionPass_eq (k : Scan) (limit : ℤ) (items : List ProbeResult) (s : Progress)
    (added duplicates : ℕ) :
    (additionPass k limit items s added duplicates).progress
        = ((novelItems k s items).take (limit - added).toNat).foldl (insertItem k) s
      ∧ (additionPass k limit items s added duplicates).added
        = added + ((novelItems k s items).take (limit - added).toNat).length := by
  induction items generalizing s added duplicates with
  | nil => simp [additionPass, novelItems, Exchange.novel]
  | cons item items ih =>
      rw [additionPass]
      cases hp : detectConfigType item.uri with
      | none =>
          have hskip : novelItems k s (item :: items) = novelItems k s items :=
            Exchange.novel_cons_of_none (by rw [identity?, hp, Option.map_none])
          rw [hskip]
          exact ih s added duplicates
      | some protocol =>
          have hid := identity?_of_detect (k := k) hp
          by_cases hdup : getConfigIdentity k.lib item.uri protocol ∈ s.identities
          · have hskip : novelItems k s (item :: items) = novelItems k s items :=
              Exchange.novel_cons_of_mem hid hdup
            simp only [hdup, if_true]
            rw [hskip]
            exact ih s added (duplicates + 1)
          · have htake : novelItems k s (item :: items)
                = item :: novelItems k (insertDiscovered k s item protocol) items :=
              Exchange.novel_cons_of_notMem hid hdup
            simp only [hdup, if_false]
            rw [htake]
            by_cases hlim : limit ≤ added
            · have hzero : (limit - added).toNat = 0 := by omega
              rw [if_pos hlim, hzero]
              exact ⟨rfl, rfl⟩
            · have hsucc : (limit - added).toNat = (limit - (added + 1 : ℕ)).toNat + 1 := by omega
              obtain ⟨hprogress, hadded⟩ :=
                ih (insertDiscovered k s item protocol) (added + 1) duplicates
              rw [if_neg hlim, hsucc, List.take_succ_cons, List.foldl_cons,
                insertItem_of_detect hp]
              refine ⟨hprogress, ?_⟩
              rw [hadded, List.length_cons]
              omega

/-- The second pass is the exchange of the new candidates. -/
lemma replacementPass_eq (k : Scan) (policy : CleanupPolicy) (items : List ProbeResult)
    (worsts : List (ℕ × ConfigRow)) (budget : ℤ) (s : Progress) (replaced : ℕ) :
    replacementPass k policy items worsts budget s replaced
      = ((Exchange.swaps cost worth minImprovementMs budget.toNat (novelItems k s items)
            worsts).foldl (swapItem k policy) s,
          replaced + (Exchange.swaps cost worth minImprovementMs budget.toNat
            (novelItems k s items) worsts).length) := by
  induction items generalizing worsts budget s replaced with
  | nil =>
      rw [replacementPass, novelItems, Exchange.novel, Exchange.swaps_nil_left]
      rfl
  | cons item items ih =>
      cases worsts with
      | nil =>
          rw [replacementPass, Exchange.swaps_nil_right]
          rfl
      | cons worst worsts =>
          rw [replacementPass]
          by_cases hbudget : budget ≤ 0
          · have hzero : budget.toNat = 0 := by omega
            rw [if_pos hbudget, hzero, Exchange.swaps_zero]
            rfl
          · rw [if_neg hbudget]
            cases hp : detectConfigType item.uri with
            | none =>
                have hskip : novelItems k s (item :: items) = novelItems k s items :=
                  Exchange.novel_cons_of_none (by rw [identity?, hp, Option.map_none])
                rw [hskip]
                exact ih (worst :: worsts) budget s replaced
            | some protocol =>
                have hid := identity?_of_detect (k := k) hp
                by_cases hdup : getConfigIdentity k.lib item.uri protocol ∈ s.identities
                · have hskip : novelItems k s (item :: items) = novelItems k s items :=
                    Exchange.novel_cons_of_mem hid hdup
                  simp only [hdup, if_true]
                  rw [hskip]
                  exact ih (worst :: worsts) budget s replaced
                · have htake : novelItems k s (item :: items) = item :: novelItems k
                      (insertDiscovered k { s with
                        configs := s.configs.set worst.1 (retire policy) } item protocol) items :=
                    Exchange.novel_cons_of_notMem hid hdup
                  have hsucc : budget.toNat = (budget - 1).toNat + 1 := by omega
                  simp only [hdup, if_false]
                  rw [htake, hsucc]
                  by_cases hslow : lat worst.2 ≤ latencyOf item + minImprovementMs
                  · have hle : worth worst ≤ cost item + minImprovementMs := hslow
                    rw [if_pos hslow, Exchange.swaps_cons_of_le hle]
                    rfl
                  · have hlt : cost item + minImprovementMs < worth worst := not_le.mp hslow
                    rw [if_neg hslow, Exchange.swaps_cons_of_lt hlt, ih, List.foldl_cons,
                      List.length_cons, swapItem, insertItem_of_detect hp]
                    refine Prod.ext rfl ?_
                    dsimp only
                    omega

/-! ### What is left of the table -/

/-- The table has grown by the candidates `new`, in order, and the rows `old` are retired. -/
structure Grows (k : Scan) (policy : CleanupPolicy) (s s' : Progress) (new : List ProbeResult)
    (old : List ℕ) : Prop where
  next : s'.configs.next = s.configs.next + new.length
  inserted : ∀ n item, new[n]? = some item → ∃ protocol sortOrder,
    detectConfigType item.uri = some protocol
      ∧ s'.configs.get (s.configs.next + n) = some (discovered k item protocol sortOrder)
  kept : ∀ i, i < s.configs.next → i ∉ old → s'.configs.get i = s.configs.get i
  retired : ∀ i ∈ old, s'.configs.get i = (s.configs.get i).map (retire policy)
  identities : ∀ identity, identity ∈ s'.identities
    ↔ identity ∈ s.identities ∨ ∃ item ∈ new, identity? k.lib item = some identity

lemma Grows.refl (k : Scan) (policy : CleanupPolicy) (s : Progress) :
    Grows k policy s s [] [] where
  next := rfl
  inserted := fun n item h => by simp at h
  kept := fun _ _ _ => rfl
  retired := fun i h => by cases h
  identities := fun identity => by simp

/-- One swap, or one insertion. -/
lemma grows_insertDiscovered (hp : detectConfigType item.uri = some protocol) (i? : Option ℕ)
    (hi : ∀ i ∈ i?, i < s.configs.next) :
    Grows k policy s
      (insertDiscovered k { s with
        configs := i?.elim s.configs fun i => s.configs.set i (retire policy) } item protocol)
      [item] i?.toList := by
  set t := i?.elim s.configs fun i => s.configs.set i (retire policy) with ht
  have hnext : t.next = s.configs.next := by
    rw [ht]
    cases i? <;> rfl
  have hget : ∀ j, j < s.configs.next → (insertDiscovered k { s with configs := t } item
      protocol).configs.get j = t.get j := by
    intro j hj
    rw [insertDiscovered, AutoTable.get_insert, if_neg (by rw [hnext]; exact hj.ne)]
  refine ⟨congrArg (· + 1) hnext, fun n item' hn => ?_, fun j hj hout => ?_, fun j hj => ?_,
    fun identity => ?_⟩
  · cases n with
    | succ n => simp at hn
    | zero =>
        obtain rfl : item = item' := by simpa using hn
        refine ⟨protocol, ConfigService.maxSortOrder t + 1, hp, ?_⟩
        rw [Nat.add_zero, insertDiscovered, AutoTable.get_insert, if_pos hnext.symm]
  · rw [hget j hj, ht]
    cases hi? : i? with
    | none => rfl
    | some i =>
        rw [hi?] at hout
        exact AutoTable.get_set_of_ne _ _ fun he => hout (by simp [he])
  · obtain rfl : i? = some j := Option.mem_toList.mp hj
    rw [hget j (hi j rfl), ht]
    exact AutoTable.get_set_self _ _ _
  · rw [insertDiscovered, List.mem_cons, or_comm]
    simp only [List.mem_singleton, exists_eq_left, identity?_of_detect hp, Option.some.injEq]
    exact or_congr_right eq_comm

lemma Grows.trans {s₁ s₂ : Progress} {new new' : List ProbeResult} {old old' : List ℕ}
    (h : Grows k policy s s₁ new old) (h' : Grows k policy s₁ s₂ new' old')
    (hold : ∀ i ∈ old, i < s.configs.next) (hold' : ∀ i ∈ old', i < s.configs.next)
    (hdisjoint : ∀ i ∈ old, i ∉ old') :
    Grows k policy s s₂ (new ++ new') (old ++ old') where
  next := by
    rw [h'.next, h.next, List.length_append]
    omega
  inserted := fun n item hn => by
    by_cases hlt : n < new.length
    · rw [List.getElem?_append_left hlt] at hn
      obtain ⟨protocol, sortOrder, hp, hget⟩ := h.inserted n item hn
      refine ⟨protocol, sortOrder, hp, ?_⟩
      rw [h'.kept _ (by rw [h.next]; omega) fun hmem => ?_, hget]
      have hbound := hold' _ hmem
      omega
    · rw [List.getElem?_append_right (not_lt.mp hlt)] at hn
      obtain ⟨protocol, sortOrder, hp, hget⟩ := h'.inserted _ item hn
      refine ⟨protocol, sortOrder, hp, ?_⟩
      rw [← hget, h.next]
      congr 1
      omega
  kept := fun i hi hout => by
    rw [List.mem_append, not_or] at hout
    rw [h'.kept i (by rw [h.next]; omega) hout.2, h.kept i hi hout.1]
  retired := fun i hi => by
    rcases List.mem_append.mp hi with hi | hi
    · have hbound := hold i hi
      rw [h'.kept i (by rw [h.next]; omega) (hdisjoint i hi), h.retired i hi]
    · rw [h'.retired i hi, h.kept i (hold' i hi) fun hmem => hdisjoint i hmem hi]
  identities := fun identity => by
    rw [h'.identities, h.identities]
    simp only [List.mem_append, or_and_right, exists_or, or_assoc]

/-- The first pass only grows the table. -/
lemma grows_insertItems {new : List ProbeResult}
    (hnew : ∀ item ∈ new, ∃ identity, identity? k.lib item = some identity) :
    Grows k policy s (new.foldl (insertItem k) s) new [] := by
  induction new generalizing s with
  | nil => exact .refl k policy s
  | cons item new ih =>
      obtain ⟨⟨identity, hid⟩, hrest⟩ := List.forall_mem_cons.mp hnew
      obtain ⟨protocol, hp, -⟩ := detect_of_identity? hid
      rw [List.foldl_cons, insertItem_of_detect hp]
      have hone : Grows k policy s (insertDiscovered k s item protocol) [item] [] :=
        grows_insertDiscovered hp none nofun
      have htrans := hone.trans (ih hrest) nofun nofun nofun
      exact htrans

/-- The second pass grows the table by its candidates and retires the rows they displace. -/
lemma grows_swapItems {swaps : List (ProbeResult × (ℕ × ConfigRow))}
    (hnew : ∀ swap ∈ swaps, ∃ identity, identity? k.lib swap.1 = some identity)
    (hold : ∀ swap ∈ swaps, swap.2.1 < s.configs.next)
    (hnodup : (swaps.map fun swap => swap.2.1).Nodup) :
    Grows k policy s (swaps.foldl (swapItem k policy) s) (swaps.map Prod.fst)
      (swaps.map fun swap => swap.2.1) := by
  induction swaps generalizing s with
  | nil => exact .refl k policy s
  | cons swap swaps ih =>
      obtain ⟨⟨identity, hid⟩, hrest⟩ := List.forall_mem_cons.mp hnew
      obtain ⟨hfirst, hold⟩ := List.forall_mem_cons.mp hold
      rw [List.map_cons, List.nodup_cons] at hnodup
      obtain ⟨protocol, hp, -⟩ := detect_of_identity? hid
      rw [List.foldl_cons, swapItem, insertItem_of_detect hp]
      have hone : Grows k policy s (insertDiscovered k { s with
          configs := s.configs.set swap.2.1 (retire policy) } swap.1 protocol)
          [swap.1] [swap.2.1] :=
        grows_insertDiscovered hp (some swap.2.1) fun i hi => by
          rw [← Option.some.inj hi]
          exact hfirst
      have hlater : ∀ other ∈ swaps, other.2.1 < (insertDiscovered k { s with
          configs := s.configs.set swap.2.1 (retire policy) } swap.1 protocol).configs.next := by
        intro other hother
        rw [hone.next]
        exact Nat.lt_add_right _ (hold other hother)
      refine hone.trans (ih hrest hlater hnodup.2) ?_ ?_ ?_
      · intro i hi
        rw [List.mem_singleton.mp hi]
        exact hfirst
      · intro i hi
        obtain ⟨other, hother, rfl⟩ := List.mem_map.mp hi
        exact hold other hother
      · intro i hi
        rw [List.mem_singleton.mp hi]
        exact hnodup.1

/-! ### The trade of one call -/

/-- The sorted candidates split: those that are taken are as fast as those that are left. -/
lemma cost_le_of_take_drop {l : List ProbeResult} (hl : l.Pairwise fun a b => cost a ≤ cost b)
    {n : ℕ} {a b : ProbeResult} (ha : a ∈ l.take n) (hb : b ∈ l.drop n) : cost a ≤ cost b := by
  rw [← List.take_append_drop n l, List.pairwise_append] at hl
  exact hl.2.2 a ha b hb

lemma lat_discovered (k : Scan) (item : ProbeResult) (protocol : ConfigType) (n : ℤ) :
    lat (discovered k item protocol n) = cost item := by
  rw [lat, discovered, Option.getD_some, cost]

lemma isReplaceable_retire (policy : CleanupPolicy) (c : ConfigRow) :
    isReplaceable (retire policy c) = false := by
  rw [isReplaceable, isServed_retire, Bool.false_and]

/-- What a call has traded: the candidates `added` for free places, and `swaps` for rows that were
there. -/
structure Traded (k : Scan) (policy : CleanupPolicy) (s s' : Progress)
    (added : List ProbeResult) (swaps : List (ProbeResult × (ℕ × ConfigRow))) : Prop where
  grows : Grows k policy s s' (added ++ swaps.map Prod.fst) (swaps.map fun swap => swap.2.1)
  old : ∀ swap ∈ swaps, s.configs.get swap.2.1 = some swap.2.2 ∧ isReplaceable swap.2.2
  nodup : (swaps.map fun swap => swap.2.1).Nodup
  gain : ∀ swap ∈ swaps, cost swap.1 + minImprovementMs < lat swap.2.2

section

variable {n : ℕ}

lemma grows_addition : Grows k policy s
    (((novelItems k s items).take n).foldl (insertItem k) s) ((novelItems k s items).take n) [] :=
  grows_insertItems fun _ hitem => Exchange.key_of_mem_novel (List.mem_of_mem_take hitem)

/-- After the additions, the new candidates are the ones behind them. -/
lemma novelItems_of_added :
    novelItems k (((novelItems k s items).take n).foldl (insertItem k) s) items
      = (novelItems k s items).drop n :=
  Exchange.novel_of_taken n (@grows_addition k .other s items n).identities

lemma pairwise_novelItems (hitems : items.Pairwise fun a b => cost a ≤ cost b) :
    (novelItems k s items).Pairwise fun a b => cost a ≤ cost b :=
  hitems.sublist (Exchange.novel_sublist _ _)

variable {order : OrderBy (ℕ × ConfigRow) Slower} {budget : ℕ} {s₁ : Progress}
  {swaps : List (ProbeResult × (ℕ × ConfigRow))}
  (hswaps : swaps = Exchange.swaps cost worth minImprovementMs budget
    ((novelItems k s items).drop n) (worstActives order s₁.configs))
include hswaps

/-- The candidates of the swaps are the first ones left, and the rows the slowest. -/
lemma swaps_parts :
    swaps.map Prod.fst = ((novelItems k s items).drop n).take swaps.length
      ∧ swaps.map Prod.snd = (worstActives order s₁.configs).take swaps.length := by
  rw [hswaps]
  exact Exchange.swaps_take.2

lemma nodup_swaps : (swaps.map fun swap => swap.2.1).Nodup := by
  obtain ⟨-, hsnd⟩ := swaps_parts hswaps
  have hids : (swaps.map fun swap => swap.2.1) = (swaps.map Prod.snd).map Prod.fst := by
    rw [List.map_map]
    rfl
  rw [hids, hsnd, List.map_take]
  exact (displaceable_worstActives order s₁.configs).distinct.sublist (List.take_sublist _ _)

variable (hs₁ : s₁ = ((novelItems k s items).take n).foldl (insertItem k) s)
  (hitems : items.Pairwise fun a b => cost a ≤ cost b)
include hs₁ hitems

/-- A swap displaces a row that was there before the call. -/
lemma old_of_swap {swap : ProbeResult × (ℕ × ConfigRow)} (hswap : swap ∈ swaps) :
    s.configs.get swap.2.1 = some swap.2.2 ∧ isReplaceable swap.2.2 := by
  have hadded : Grows k .other s s₁ ((novelItems k s items).take n) [] := hs₁ ▸ grows_addition
  obtain ⟨hfst, hsnd⟩ := swaps_parts hswaps
  have hworst : swap.2 ∈ worstActives order s₁.configs :=
    List.mem_of_mem_take (hsnd ▸ List.mem_map_of_mem hswap)
  have hcandidate : swap.1 ∈ (novelItems k s items).drop n :=
    List.mem_of_mem_take (hfst ▸ List.mem_map_of_mem hswap)
  obtain ⟨hget, hreplaceable⟩ := (displaceable_worstActives order s₁.configs).served _ hworst
  refine ⟨?_, hreplaceable⟩
  by_cases hlt : swap.2.1 < s.configs.next
  · rw [← hget, hadded.kept _ hlt List.not_mem_nil]
  · -- a row added in this call is at least as fast as every candidate that is left
    have hnext : swap.2.1 < s.configs.next + ((novelItems k s items).take n).length := by
      rw [← hadded.next]
      exact AutoTable.lt_next_of_get hget
    have hindex : swap.2.1 - s.configs.next < ((novelItems k s items).take n).length := by omega
    obtain ⟨protocol, sortOrder, -, hnew⟩ := hadded.inserted _ _
      (List.getElem?_eq_getElem hindex)
    rw [Nat.add_sub_cancel' (not_lt.mp hlt), hget, Option.some.injEq] at hnew
    have hgain : cost swap.1 + minImprovementMs < worth swap.2 :=
      Exchange.swaps_gain (hswaps ▸ hswap)
    have hfast := cost_le_of_take_drop (pairwise_novelItems hitems) (List.getElem_mem hindex)
      hcandidate
    rw [worth, hnew, lat_discovered, minImprovementMs] at hgain
    omega

/-- What the second pass leaves of the table of the first. -/
lemma grows_exchange : Grows k policy s₁ (swaps.foldl (swapItem k policy) s₁)
    (swaps.map Prod.fst) (swaps.map fun swap => swap.2.1) := by
  have hadded : Grows k policy s s₁ ((novelItems k s items).take n) [] := hs₁ ▸ grows_addition
  obtain ⟨hfst, -⟩ := swaps_parts hswaps
  refine grows_swapItems (fun swap hswap => ?_) (fun swap hswap => ?_)
    (nodup_swaps hswaps)
  · have hcandidate : swap.1 ∈ (novelItems k s items).drop n :=
      List.mem_of_mem_take (hfst ▸ List.mem_map_of_mem hswap)
    exact Exchange.key_of_mem_novel (List.mem_of_mem_drop hcandidate)
  · rw [hadded.next]
    exact Nat.lt_add_right _
      (AutoTable.lt_next_of_get (old_of_swap hswaps hs₁ hitems hswap).1)

/-- What the two passes trade. -/
lemma traded_passes :
    Traded k policy s (swaps.foldl (swapItem k policy) s₁) ((novelItems k s items).take n)
      swaps := by
  have hadded : Grows k policy s s₁ ((novelItems k s items).take n) [] := hs₁ ▸ grows_addition
  refine ⟨hadded.trans (grows_exchange hswaps hs₁ hitems) nofun (fun i hi => ?_) nofun,
    fun swap hswap => old_of_swap hswaps hs₁ hitems hswap, nodup_swaps hswaps,
    fun swap hswap => Exchange.swaps_gain (hswaps ▸ hswap)⟩
  obtain ⟨swap, hswap, rfl⟩ := List.mem_map.mp hi
  exact AutoTable.lt_next_of_get (old_of_swap hswaps hs₁ hitems hswap).1

/-- A candidate whose identity is not known afterwards stands behind one that is left. -/
lemma exists_left (hitem : item ∈ items) {identity : Identity}
    (hid : identity? k.lib item = some identity)
    (hout : identity ∉ (swaps.foldl (swapItem k policy) s₁).identities) :
    ∃ b ∈ ((novelItems k s items).drop n).drop swaps.length, cost b ≤ cost item := by
  obtain ⟨hfst, -⟩ := swaps_parts hswaps
  rw [(traded_passes hswaps hs₁ hitems).grows.identities, not_or] at hout
  obtain ⟨b, hb, hbid, hfast⟩ := Exchange.exists_novel (R := fun a b => cost a ≤ cost b)
    (fun _ => le_refl _) hitems hitem hid hout.1
  have hnot : b ∉ (novelItems k s items).take n ++ swaps.map Prod.fst := fun h =>
    hout.2 ⟨b, h, hbid⟩
  rw [List.mem_append, not_or, hfst] at hnot
  have hmem : b ∈ (novelItems k s items).take n ++ (novelItems k s items).drop n := by
    rw [List.take_append_drop]
    exact hb
  have hdrop := (List.mem_append.mp hmem).resolve_left hnot.1
  rw [← List.take_append_drop swaps.length ((novelItems k s items).drop n)] at hdrop
  exact ⟨b, (List.mem_append.mp hdrop).resolve_left hnot.2, hfast⟩

/-- With budget left, no candidate that is left would gain against a discovered row still served. -/
lemma maximal_passes (hbudget : swaps.length < budget) (hitem : item ∈ items)
    {identity : Identity} (hid : identity? k.lib item = some identity)
    (hout : identity ∉ (swaps.foldl (swapItem k policy) s₁).identities) {j : ℕ} {d : ConfigRow}
    (hd : (swaps.foldl (swapItem k policy) s₁).configs.get j = some d) (hserved : isReplaceable d) :
    lat d ≤ cost item + minImprovementMs := by
  obtain ⟨b, hb, hfast⟩ := exists_left hswaps hs₁ hitems hitem hid hout
  obtain ⟨hfst, hsnd⟩ := swaps_parts hswaps
  have hgrows : Grows k policy s₁ (swaps.foldl (swapItem k policy) s₁) (swaps.map Prod.fst)
      (swaps.map fun swap => swap.2.1) := grows_exchange hswaps hs₁ hitems
  have hsorted : ((novelItems k s items).drop n).Pairwise fun a b => cost a ≤ cost b :=
    (pairwise_novelItems hitems).sublist (List.drop_sublist _ _)
  have hgoal : lat d ≤ cost b + minImprovementMs := by
    by_cases hretired : j ∈ swaps.map fun swap => swap.2.1
    · rw [hgrows.retired j hretired, Option.map_eq_some_iff] at hd
      obtain ⟨c, -, rfl⟩ := hd
      rw [isReplaceable_retire] at hserved
      cases hserved
    · by_cases hlt : j < s₁.configs.next
      · -- a row the exchange found and left
        rw [hgrows.kept j hlt hretired] at hd
        have hlisted : (j, d) ∈ worstActives order s₁.configs := by
          rw [worstActives, OrderBy.mem_sort, List.mem_filter]
          exact ⟨AutoTable.get_eq_some_iff.mp hd, hserved⟩
        rw [← List.take_append_drop swaps.length (worstActives order s₁.configs), ← hsnd] at hlisted
        have hkept := (List.mem_append.mp hlisted).resolve_left fun h => by
          obtain ⟨swap, hswap, he⟩ := List.mem_map.mp h
          exact hretired (List.mem_map.mpr ⟨swap, hswap, by rw [he]⟩)
        have hslow : (worstActives order s₁.configs).Pairwise fun b b' => worth b' ≤ worth b :=
          order.sorted _
        rw [hswaps] at hb hkept hbudget
        exact Exchange.swaps_maximal hsorted hslow hbudget b hb (j, d) hkept
      · -- a row inserted by a swap
        have hnext := AutoTable.lt_next_of_get hd
        rw [hgrows.next] at hnext
        have hindex : j - s₁.configs.next < (swaps.map Prod.fst).length := by omega
        obtain ⟨protocol, sortOrder, -, hnew⟩ := hgrows.inserted _ _
          (List.getElem?_eq_getElem hindex)
        rw [Nat.add_sub_cancel' (not_lt.mp hlt), hd, Option.some.injEq] at hnew
        have htaken : (swaps.map Prod.fst)[j - s₁.configs.next]
            ∈ ((novelItems k s items).drop n).take swaps.length :=
          hfst ▸ List.getElem_mem hindex
        rw [hnew, lat_discovered, minImprovementMs]
        have hle := cost_le_of_take_drop hsorted htaken hb
        omega
  rw [minImprovementMs] at hgoal ⊢
  omega

end

/-! ### One call -/

/-- The tables one call starts from. -/
def startOf (k : Scan) (db : PanelDb) : Progress :=
  ⟨db.configs, db.configHealthHistory, ConfigService.existingIdentities k.lib db.configs⟩

lemma pairwise_healthyConfigs (results : List ProbeResult) :
    (healthyConfigs results).Pairwise fun a b => cost a ≤ cost b := by
  have hsorted : (healthyConfigs results).Pairwise fun a b => latencyOf a ≤ latencyOf b := by
    rw [healthyConfigs]
    exact @List.pairwise_insertionSort _ _ _ ⟨fun a b => le_total (latencyOf a) (latencyOf b)⟩
      ⟨fun _ _ _ => le_trans⟩ _
  exact hsorted.imp fun h => Int.ofNat_le.mpr h

/-- A row that was served before the call and is not afterwards. -/
def RetiredIn (db db' : PanelDb) (i : ℕ) : Prop :=
  ∃ c, db.configs.get i = some c ∧ c.isServed
    ∧ ∀ c', db'.configs.get i = some c' → c'.isServed = false

/-- A row of the call. -/
def InsertedIn (db db' : PanelDb) (i : ℕ) : Prop :=
  db.configs.get i = none ∧ (db'.configs.get i).isSome

/-- How many rows the call has inserted. -/
def insertedCount (db db' : PanelDb) : ℕ :=
  db'.configs.rows.countP fun r => (db.configs.get r.1).isNone

/-- The row `j` is faster than the row `i` was, by more than the margin. -/
def Improves (db db' : PanelDb) (i j : ℕ) : Prop :=
  ∃ c d l, db.configs.get i = some c ∧ db'.configs.get j = some d ∧ d.latency = some l
    ∧ l + minImprovementMs < lat c

/-- A call that is not rolled back trades the candidates it adds and swaps in. -/
lemma import_traded {env : Env} {db : PanelDb} {results : List ProbeResult} {maxActive maxNew : ℤ}
    (hA : intSetting? db.toDb "max_active_configs" "100" = some maxActive)
    (hN : intSetting? db.toDb "max_new_configs_per_scan" "10" = some maxNew)
    (hr : env.raised = false) :
    ∃ s' added swaps, Traded k (cleanupPolicy db.toDb) (startOf k db) s' added swaps
      ∧ (importDiscoveredConfigs env k db results).1.configs = s'.configs
      ∧ (importDiscoveredConfigs env k db results).2.1 = added.length
      ∧ (importDiscoveredConfigs env k db results).2.2.2 = swaps.length
      ∧ (getSetting db.toDb "discovery_replace_when_full" "1" = "1" →
        (added.length + swaps.length : ℤ) < maxNew →
        ∀ item ∈ healthyConfigs results, ∀ identity, identity? k.lib item = some identity →
          identity ∉ s'.identities → ∀ j d, s'.configs.get j = some d → isReplaceable d →
            lat d ≤ cost item + minImprovementMs) := by
  set limit := min maxNew (max 0 (maxActive - (db.configs.count ConfigRow.isServed : ℤ)))
    with hlimit
  set new := novelItems k (startOf k db) (healthyConfigs results) with hnew
  obtain ⟨hprogress, hadded⟩ := additionPass_eq k limit (healthyConfigs results) (startOf k db) 0 0
  rw [Nat.cast_zero, sub_zero, ← hnew] at hprogress hadded
  rw [Nat.zero_add] at hadded
  set first := additionPass k limit (healthyConfigs results) (startOf k db) 0 0 with hfirst
  have hafter : afterAddition k db results maxActive maxNew = first := rfl
  set on := getSetting db.toDb "discovery_replace_when_full" "1" = "1"
    ∧ 0 < maxNew - first.added with hon
  set budget := if on then (maxNew - first.added).toNat else 0 with hbudget
  set swaps := Exchange.swaps cost worth minImprovementMs budget (new.drop limit.toNat)
    (worstActives env.order first.progress.configs) with hswaps
  have hleft : novelItems k first.progress (healthyConfigs results) = new.drop limit.toNat := by
    rw [hprogress]
    exact novelItems_of_added
  have hsecond : afterReplacement env k db results maxNew first
      = (swaps.foldl (swapItem k (cleanupPolicy db.toDb)) first.progress, swaps.length) := by
    rw [afterReplacement]
    by_cases h : on
    · rw [if_pos h, replacementPass_eq, hleft, hswaps, hbudget, if_pos h, Nat.zero_add]
    · rw [if_neg h, hswaps, hbudget, if_neg h, Exchange.swaps_zero]
      rfl
  have himport : importDiscoveredConfigs env k db results
      = ({ db with
          configs := (swaps.foldl (swapItem k (cleanupPolicy db.toDb)) first.progress).configs
          configHealthHistory :=
            (swaps.foldl (swapItem k (cleanupPolicy db.toDb)) first.progress).history },
        first.added, first.duplicates, swaps.length) := by
    rw [importDiscoveredConfigs, hA, hN]
    simp only [hr, Bool.false_eq_true, if_false, hafter, hsecond]
  rw [himport]
  have hitems := pairwise_healthyConfigs results
  refine ⟨_, new.take limit.toNat, swaps, traded_passes hswaps hprogress hitems, rfl, hadded, rfl,
    fun hset hleftover item hitem identity hid hout j d hd hserved => ?_⟩
  refine maximal_passes hswaps hprogress hitems ?_ hitem hid hout hd hserved
  have hopen : on := ⟨hset, by omega⟩
  rw [hbudget, if_pos hopen]
  omega

section

variable {s' : Progress} {added : List ProbeResult}
  {swaps : List (ProbeResult × (ℕ × ConfigRow))} {db db' : PanelDb}
  (h : Traded k policy (startOf k db) s' added swaps) (hdb' : db'.configs = s'.configs)
include h hdb'

/-- The rows of the call are the candidates. -/
lemma Traded.insertedIn_iff {j : ℕ} : InsertedIn db db' j ↔ db.configs.next ≤ j
    ∧ j < db.configs.next + (added ++ swaps.map Prod.fst).length := by
  constructor
  · rintro ⟨hnone, hsome⟩
    rw [hdb'] at hsome
    obtain ⟨d, hd⟩ := Option.isSome_iff_exists.mp hsome
    have hbound : j < s'.configs.next := AutoTable.lt_next_of_get hd
    rw [h.grows.next] at hbound
    refine ⟨not_lt.mp fun hlt => ?_, hbound⟩
    by_cases hold : j ∈ swaps.map fun swap => swap.2.1
    · rw [h.grows.retired j hold] at hd
      have hnone' : (startOf k db).configs.get j = none := hnone
      rw [hnone'] at hd
      cases hd
    · rw [h.grows.kept j hlt hold] at hd
      exact absurd (hnone.symm.trans hd) nofun
  · rintro ⟨hle, hlt⟩
    refine ⟨?_, ?_⟩
    · cases hget : db.configs.get j with
      | none => rfl
      | some c => exact absurd (AutoTable.lt_next_of_get hget) (not_lt.mpr hle)
    · have hindex : j - db.configs.next < (added ++ swaps.map Prod.fst).length := by omega
      obtain ⟨protocol, sortOrder, -, hnew⟩ := h.grows.inserted _ _
        (List.getElem?_eq_getElem hindex)
      rw [hdb']
      have hj : (startOf k db).configs.next + (j - db.configs.next) = j :=
        Nat.add_sub_cancel' hle
      rw [hj] at hnew
      exact Option.isSome_of_eq_some hnew

/-- There is a row for each candidate, and no other. -/
lemma Traded.insertedCount_eq : insertedCount db db' = added.length + swaps.length := by
  set new := db'.configs.rows.filter fun r => (db.configs.get r.1).isNone with hnew
  have hnodup : (new.map Prod.fst).Nodup := db'.configs.keyed.sublist (List.filter_sublist.map _)
  have hmem : ∀ j, j ∈ new.map Prod.fst ↔ InsertedIn db db' j := by
    intro j
    rw [List.mem_map, InsertedIn, Option.isSome_iff_exists]
    constructor
    · rintro ⟨⟨i, d⟩, hd, rfl⟩
      obtain ⟨hrow, hnone⟩ := List.mem_filter.mp hd
      exact ⟨Option.isNone_iff_eq_none.mp hnone, d, AutoTable.get_eq_some_iff.mpr hrow⟩
    · rintro ⟨hnone, d, hd⟩
      have hrow := AutoTable.get_eq_some_iff.mp hd
      exact ⟨(j, d), List.mem_filter.mpr ⟨hrow, Option.isNone_iff_eq_none.mpr hnone⟩, rfl⟩
  have hperm : (new.map Prod.fst).Perm
      (List.range' db.configs.next (added ++ swaps.map Prod.fst).length) := by
    refine (List.perm_ext_iff_of_nodup hnodup List.nodup_range').mpr fun j => ?_
    rw [hmem, h.insertedIn_iff hdb', List.mem_range'_1]
  calc insertedCount db db'
      = (new.map Prod.fst).length := by rw [insertedCount, List.countP_eq_length_filter,
          List.length_map]
    _ = (added ++ swaps.map Prod.fst).length := by rw [hperm.length_eq, List.length_range']
    _ = added.length + swaps.length := by rw [List.length_append, List.length_map]

/-- The retired rows are those displaced. -/
lemma Traded.retiredIn_iff {i : ℕ} :
    i ∈ (swaps.map fun swap => swap.2.1) ↔ RetiredIn db db' i := by
  constructor
  · intro hi
    obtain ⟨swap, hswap, rfl⟩ := List.mem_map.mp hi
    obtain ⟨hget, hreplaceable⟩ := h.old swap hswap
    refine ⟨swap.2.2, hget, ?_, fun c' hc' => ?_⟩
    · rw [isReplaceable, Bool.and_eq_true] at hreplaceable
      exact hreplaceable.1
    · rw [hdb', h.grows.retired _ hi, hget, Option.map_some, Option.some.injEq] at hc'
      rw [← hc']
      exact isServed_retire policy _
  · rintro ⟨c, hc, hserved, hgone⟩
    by_contra hout
    have hkept := h.grows.kept i (AutoTable.lt_next_of_get hc) hout
    have hsame := hgone c (by rw [hdb', hkept]; exact hc)
    rw [hserved] at hsame
    cases hsame

/-- The pairing: each swap's row and the row inserted for it. -/
lemma Traded.forall₂_improves :
    List.Forall₂ (Improves db db') (swaps.map fun swap => swap.2.1)
      (List.range' (db.configs.next + added.length) swaps.length) := by
  refine List.forall₂_iff_get.mpr ⟨by simp, fun n hn _ => ?_⟩
  rw [List.length_map] at hn
  have hcandidate : (added ++ swaps.map Prod.fst)[added.length + n]? = some (swaps[n]).1 := by
    rw [List.getElem?_append_right (Nat.le_add_right _ _), Nat.add_sub_cancel_left,
      List.getElem?_map, List.getElem?_eq_getElem hn, Option.map_some]
  obtain ⟨protocol, sortOrder, -, hnew⟩ := h.grows.inserted _ _ hcandidate
  obtain ⟨hold, -⟩ := h.old _ (List.getElem_mem hn)
  simp only [List.get_eq_getElem, List.getElem_map, List.getElem_range', Nat.one_mul]
  refine ⟨_, discovered k (swaps[n]).1 protocol sortOrder, cost (swaps[n]).1, hold, ?_, rfl,
    h.gain _ (List.getElem_mem hn)⟩
  rw [hdb', Nat.add_assoc]
  exact hnew

/-- A row of the call is one of the candidates traded. -/
lemma Traded.discovered_of_insertedIn {j : ℕ} {d : ConfigRow} (hj : InsertedIn db db' j)
    (hd : db'.configs.get j = some d) :
    ∃ item protocol sortOrder, detectConfigType item.uri = some protocol
      ∧ d = discovered k item protocol sortOrder := by
  obtain ⟨hle, hlt⟩ := (h.insertedIn_iff hdb').mp hj
  have hindex : j - db.configs.next < (added ++ swaps.map Prod.fst).length := by omega
  obtain ⟨protocol, sortOrder, hp, hnew⟩ := h.grows.inserted _ _ (List.getElem?_eq_getElem hindex)
  have hback : (startOf k db).configs.next + (j - db.configs.next) = j := Nat.add_sub_cancel' hle
  rw [hback, ← hdb', hd, Option.some.injEq] at hnew
  exact ⟨_, protocol, sortOrder, hp, hnew⟩

/-- An identity the call knows at its end is one of an active config, or of a row of the call. -/
lemma Traded.seen_of_mem_identities {identity : Identity} (hmem : identity ∈ s'.identities) :
    (∃ i c, db.configs.get i = some c ∧ c.isActive ∧ c.identity k.lib = identity)
      ∨ ∃ j d, InsertedIn db db' j ∧ db'.configs.get j = some d ∧ d.identity k.lib = identity := by
  rcases (h.grows.identities identity).mp hmem with hknown | ⟨item, hitem, hid⟩
  · have hlisted : identity ∈ ConfigService.existingIdentities k.lib db.configs := hknown
    rw [ConfigService.existingIdentities, List.mem_map] at hlisted
    obtain ⟨r, hr, he⟩ := hlisted
    obtain ⟨hrow, hactive⟩ := List.mem_filter.mp hr
    exact .inl ⟨r.1, r.2, AutoTable.get_eq_some_iff.mpr hrow, hactive, he⟩
  · obtain ⟨n, hn, he⟩ := List.mem_iff_getElem.mp hitem
    obtain ⟨protocol, sortOrder, hp, hnew⟩ := h.grows.inserted n item
      (List.getElem?_eq_some_iff.mpr ⟨hn, he⟩)
    obtain ⟨protocol', hp', hkey⟩ := detect_of_identity? hid
    obtain rfl : protocol = protocol' := Option.some.inj (hp.symm.trans hp')
    have hnext : (startOf k db).configs.next = db.configs.next := rfl
    rw [hnext, ← hdb'] at hnew
    exact .inr ⟨_, _, (h.insertedIn_iff hdb').mpr ⟨Nat.le_add_right _ _, by omega⟩, hnew, hkey⟩

end

/-- A call that leaves the tables alone neither retires nor inserts. -/
lemma not_retiredIn_self (db : PanelDb) (i : ℕ) : ¬ RetiredIn db db i := by
  rintro ⟨c, hc, hserved, hgone⟩
  rw [hgone c hc] at hserved
  cases hserved

lemma not_insertedIn_self (db : PanelDb) (j : ℕ) : ¬ InsertedIn db db j := by
  rintro ⟨hnone, hsome⟩
  rw [hnone] at hsome
  cases hsome

lemma insertedCount_self (db : PanelDb) : insertedCount db db = 0 := by
  rw [insertedCount, List.countP_eq_zero]
  intro r hr hnone
  rw [AutoTable.get_eq_some_iff.mpr hr] at hnone
  cases hnone

/-- A call is rolled back, or it has read its limits. -/
lemma import_cases (env : Env) (k : Scan) (db : PanelDb) (results : List ProbeResult) :
    importDiscoveredConfigs env k db results = (db, 0, 0, 0)
      ∨ env.raised = false
        ∧ (∃ maxActive, intSetting? db.toDb "max_active_configs" "100" = some maxActive)
        ∧ ∃ maxNew, intSetting? db.toDb "max_new_configs_per_scan" "10" = some maxNew := by
  cases hr : env.raised with
  | true => exact .inl (importDiscoveredConfigs_of_raised (.inl hr))
  | false =>
      cases hA : intSetting? db.toDb "max_active_configs" "100" with
      | none => exact .inl (importDiscoveredConfigs_of_raised (.inr (.inl hA)))
      | some maxActive =>
          cases hN : intSetting? db.toDb "max_new_configs_per_scan" "10" with
          | none => exact .inl (importDiscoveredConfigs_of_raised (.inr (.inr hN)))
          | some maxNew => exact .inr ⟨rfl, ⟨maxActive, rfl⟩, maxNew, rfl⟩

/-- The counters of a call count its rows. -/
lemma insertedCount_import (env : Env) (k : Scan) (db : PanelDb) (results : List ProbeResult) :
    insertedCount db (importDiscoveredConfigs env k db results).1
      = (importDiscoveredConfigs env k db results).2.1
        + (importDiscoveredConfigs env k db results).2.2.2 := by
  rcases import_cases env k db results with hsame | ⟨hr, ⟨maxActive, hA⟩, maxNew, hN⟩
  · rw [hsame]
    exact insertedCount_self db
  · obtain ⟨s', added, swaps, h, hdb', hadded, hswaps, -⟩ :=
      @import_traded k env db results maxActive maxNew hA hN hr
    rw [hadded, hswaps, h.insertedCount_eq hdb']

/-- With the switch on and budget left, no candidate the call has not met would gain. -/
lemma maximal_import {env : Env} {db : PanelDb} {results : List ProbeResult} {maxActive maxNew : ℤ}
    (hA : intSetting? db.toDb "max_active_configs" "100" = some maxActive)
    (hN : intSetting? db.toDb "max_new_configs_per_scan" "10" = some maxNew)
    (hr : env.raised = false)
    (hset : getSetting db.toDb "discovery_replace_when_full" "1" = "1")
    (hleft : (insertedCount db (importDiscoveredConfigs env k db results).1 : ℤ) < maxNew)
    (hitem : item ∈ results) (hok : item.ok) {identity : Identity}
    (hid : identity? k.lib item = some identity)
    (hactive : ∀ i c, db.configs.get i = some c → c.isActive → c.identity k.lib ≠ identity)
    (hinserted : ∀ j d, InsertedIn db (importDiscoveredConfigs env k db results).1 j →
      (importDiscoveredConfigs env k db results).1.configs.get j = some d →
        d.identity k.lib ≠ identity) {j : ℕ} {d : ConfigRow}
    (hd : (importDiscoveredConfigs env k db results).1.configs.get j = some d)
    (hserved : isReplaceable d) : lat d ≤ latencyOf item + 50 := by
  obtain ⟨s', added, swaps, h, hdb', hadded, hswaps, hmaximal⟩ :=
    @import_traded k env db results maxActive maxNew hA hN hr
  rw [insertedCount_import, hadded, hswaps, Nat.cast_add] at hleft
  have hhealthy : item ∈ healthyConfigs results := by
    rw [healthyConfigs, List.mem_insertionSort, List.mem_filter]
    exact ⟨hitem, hok⟩
  have hout : identity ∉ s'.identities := by
    intro hmem
    rcases h.seen_of_mem_identities hdb' hmem with ⟨i, c, hc, hon, he⟩ | ⟨i, c, hi, hc, he⟩
    · exact hactive i c hc hon he
    · exact hinserted i c hi hc he
  rw [hdb'] at hd
  exact hmaximal hset hleft item hhealthy identity hid hout j d hd hserved

/-- **A replacement only improves the pool.**  The retired rows are paired with rows inserted in the
call, each faster by more than the margin; the inserted rows are served, and the counters count
them; and with the switch on and fewer rows inserted than a call may, no candidate whose identity
the call has not met would gain as much against a discovered row that is still served. -/
theorem replacement_improves (env : Env) (k : Scan) (db : PanelDb) (results : List ProbeResult) :
    (∃ out into : List ℕ, out.Nodup ∧ into.Nodup
        ∧ (∀ i, i ∈ out ↔ RetiredIn db (importDiscoveredConfigs env k db results).1 i)
        ∧ (∀ j ∈ into, InsertedIn db (importDiscoveredConfigs env k db results).1 j)
        ∧ List.Forall₂ (Improves db (importDiscoveredConfigs env k db results).1) out into)
      ∧ (∀ j d, InsertedIn db (importDiscoveredConfigs env k db results).1 j →
        (importDiscoveredConfigs env k db results).1.configs.get j = some d → d.isServed)
      ∧ insertedCount db (importDiscoveredConfigs env k db results).1
        = (importDiscoveredConfigs env k db results).2.1
          + (importDiscoveredConfigs env k db results).2.2.2
      ∧ ∀ maxActive maxNew, intSetting? db.toDb "max_active_configs" "100" = some maxActive →
        intSetting? db.toDb "max_new_configs_per_scan" "10" = some maxNew → env.raised = false →
        getSetting db.toDb "discovery_replace_when_full" "1" = "1" →
        (insertedCount db (importDiscoveredConfigs env k db results).1 : ℤ) < maxNew →
        ∀ item ∈ results, item.ok → ∀ identity, identity? k.lib item = some identity →
          (∀ i c, db.configs.get i = some c → c.isActive → c.identity k.lib ≠ identity) →
          (∀ j d, InsertedIn db (importDiscoveredConfigs env k db results).1 j →
            (importDiscoveredConfigs env k db results).1.configs.get j = some d →
              d.identity k.lib ≠ identity) →
          ∀ j d, (importDiscoveredConfigs env k db results).1.configs.get j = some d →
            isReplaceable d → lat d ≤ latencyOf item + 50 := by
  rw [← and_assoc]
  refine ⟨?_, insertedCount_import env k db results, fun maxActive maxNew hA hN hr hset hleft item
    hitem hok identity hid hactive hinserted j d hd hserved => maximal_import hA hN hr hset hleft
      hitem hok hid hactive hinserted hd hserved⟩
  rcases import_cases env k db results with hsame | ⟨hr, ⟨maxActive, hA⟩, maxNew, hN⟩
  · rw [hsame]
    refine ⟨⟨[], [], .nil, .nil, fun i => ?_, fun j hj => ?_, .nil⟩, fun j d hj => ?_⟩
    · exact iff_of_false List.not_mem_nil (not_retiredIn_self db i)
    · cases hj
    · exact absurd hj (not_insertedIn_self db j)
  · obtain ⟨s', added, swaps, h, hdb', -⟩ :=
      @import_traded k env db results maxActive maxNew hA hN hr
    refine ⟨⟨swaps.map fun swap => swap.2.1,
      List.range' (db.configs.next + added.length) swaps.length, h.nodup, List.nodup_range',
      fun i => h.retiredIn_iff hdb', fun j hj => ?_, h.forall₂_improves hdb'⟩,
      fun j d hj hd => ?_⟩
    · rw [List.mem_range'_1] at hj
      refine (h.insertedIn_iff hdb').mpr ⟨by omega, ?_⟩
      rw [List.length_append, List.length_map]
      omega
    · obtain ⟨item, protocol, sortOrder, -, rfl⟩ := h.discovered_of_insertedIn hdb' hj hd
      exact isServed_discovered k item protocol sortOrder

end ConfigImporter
end V2raySub
