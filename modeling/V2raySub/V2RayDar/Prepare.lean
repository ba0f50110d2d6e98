import Mathlib.Algebra.GroupWithZero.Nat
import V2raySub.V2RayDar.Schedule

/-!
What is probed (`probe.rs`, `prepare_active_candidates`): the links are parsed on all processors,
and those with one outbound key are probed once.

* `chunks`: the pieces the threads are given; `flatten_chunks`.
* `addEntry`: an outbound key that was seen before gives an alias of the entry with this key;
  `Groups` says what the entries then are.
* `prepareActiveCandidates`, `prepareActiveCandidates_cpus`: the number of threads does not matter.
* `prepareActiveCandidates_spec`: **every candidate is a failed result, or one of the members of one
  entry**, in the order of the schedule.
-/

open scoped List

namespace V2RayDar

/-! ### The definitions -/

/-- An entry: a candidate, the others with its outbound key, and the outbound. -/
structure PreparedActiveCandidate (O : Type*) where
  candidate : Candidate
  aliases : List Candidate
  outbound : O

/-- What is to be probed, and what could not be read. -/
structure ActivePreparation (O : Type*) where
  prepared : List (PreparedActiveCandidate O)
  ranked : List RankedConfig
  preparedCandidates : ℕ

/-- How a link becomes an outbound (`sing_box_outbound_from_share_link`), and what two outbounds are
compared by (`normalized_outbound_key`). -/
structure OutboundLib (O : Type*) where
  fromShareLink : String → Except String O
  normalizedKey : O → String

variable {O : Type*}

/-- The candidates an entry stands for. -/
def PreparedActiveCandidate.members (e : PreparedActiveCandidate O) : List Candidate :=
  e.candidate :: e.aliases

/-- `candidate_count`: the candidate and its aliases. -/
def PreparedActiveCandidate.candidateCount (e : PreparedActiveCandidate O) : ℕ :=
  1 + e.aliases.length

/-- `candidate_count`, of a list of entries. -/
def candidateCount (entries : List (PreparedActiveCandidate O)) : ℕ :=
  (entries.map PreparedActiveCandidate.candidateCount).sum

/-- The pieces of a list, of `size` elements each, and the rest (`slice::chunks`). -/
def chunks {α : Type*} (size : ℕ) (l : List α) : List (List α) := pieces l.length l
where
  pieces : ℕ → List α → List (List α)
    | 0, _ => []
    | _ + 1, [] => []
    | n + 1, a :: l => (a :: l).take size :: pieces n ((a :: l).drop size)

/-- What one thread makes of its piece. -/
def prepareChunk (lib : OutboundLib O) :
    List Candidate → List (PreparedActiveCandidate O) × List RankedConfig
  | [] => ([], [])
  | c :: cs =>
    let (prepared, ranked) := prepareChunk lib cs
    match lib.fromShareLink c.uri with
    | .ok outbound => (⟨c, [], outbound⟩ :: prepared, ranked)
    | .error err => (prepared, failedConfig c "active_http" err :: ranked)

/-- An entry is added, as an alias where its outbound key was seen before. -/
def addEntry (lib : OutboundLib O) (entry : PreparedActiveCandidate O) :
    List (PreparedActiveCandidate O) → List (PreparedActiveCandidate O)
  | [] => [entry]
  | e :: deduped =>
    if lib.normalizedKey e.outbound = lib.normalizedKey entry.outbound then
      { e with aliases := e.aliases ++ [entry.candidate] } :: deduped
    else e :: addEntry lib entry deduped

/-- `prepare_active_candidates`. -/
def prepareActiveCandidates (lib : OutboundLib O) (numCpus : ℕ) (candidates : List Candidate)
    (policy : ProbeStopPolicy) : ActivePreparation O :=
  let scheduled := scheduleActiveCandidates candidates policy
  let chunkSize := max (scheduled.length / max numCpus 1) 1
  let all := (chunks chunkSize scheduled).map (prepareChunk lib)
  let deduped := (all.map Prod.fst).flatten.foldl (fun es e => addEntry lib e es) []
  { prepared := deduped
    ranked := (all.map Prod.snd).flatten
    preparedCandidates := candidateCount deduped }

/-! ### The threads -/

/-- The pieces together are the list. -/
lemma flatten_pieces {α : Type*} {size : ℕ} (hpos : 0 < size) {n : ℕ} {l : List α}
    (hn : l.length ≤ n) : (chunks.pieces size n l).flatten = l := by
  induction n generalizing l with
  | zero => rw [List.length_eq_zero_iff.mp (Nat.le_zero.mp hn)]; rfl
  | succ n ih =>
      cases l with
      | nil => rfl
      | cons a l =>
          have hrest : ((a :: l).drop size).length ≤ n := by
            rw [List.length_drop]
            omega
          rw [chunks.pieces, List.flatten_cons, ih hrest, List.take_append_drop]

/-- The pieces of a list together are the list. -/
lemma flatten_chunks {α : Type*} {size : ℕ} (hpos : 0 < size) (l : List α) :
    (chunks size l).flatten = l := flatten_pieces hpos le_rfl

/-- Two pieces are prepared one after the other. -/
lemma prepareChunk_append (lib : OutboundLib O) (cs cs' : List Candidate) :
    prepareChunk lib (cs ++ cs')
      = ((prepareChunk lib cs).1 ++ (prepareChunk lib cs').1,
        (prepareChunk lib cs).2 ++ (prepareChunk lib cs').2) := by
  induction cs with
  | nil => rfl
  | cons c cs ih =>
      rw [List.cons_append, prepareChunk, prepareChunk, ih]
      cases lib.fromShareLink c.uri <;> rfl

/-- The pieces together give what one thread would. -/
lemma prepareChunk_flatten (lib : OutboundLib O) (l : List (List Candidate)) :
    (((l.map (prepareChunk lib)).map Prod.fst).flatten,
      ((l.map (prepareChunk lib)).map Prod.snd).flatten) = prepareChunk lib l.flatten := by
  induction l with
  | nil => rfl
  | cons cs l ih =>
      rw [List.flatten_cons, prepareChunk_append, ← ih]
      rfl

/-- What one thread would prepare. -/
def prepareAll (lib : OutboundLib O) (scheduled : List Candidate) : ActivePreparation O :=
  let deduped := (prepareChunk lib scheduled).1.foldl (fun es e => addEntry lib e es) []
  { prepared := deduped
    ranked := (prepareChunk lib scheduled).2
    preparedCandidates := candidateCount deduped }

/-- The number of processors does not matter. -/
lemma prepareActiveCandidates_cpus (lib : OutboundLib O) (numCpus : ℕ)
    (candidates : List Candidate) (policy : ProbeStopPolicy) :
    prepareActiveCandidates lib numCpus candidates policy
      = prepareAll lib (scheduleActiveCandidates candidates policy) := by
  have hpos : 0 < max ((scheduleActiveCandidates candidates policy).length / max numCpus 1) 1 := by
    omega
  have hflat := prepareChunk_flatten lib (chunks
    (max ((scheduleActiveCandidates candidates policy).length / max numCpus 1) 1)
    (scheduleActiveCandidates candidates policy))
  rw [flatten_chunks hpos] at hflat
  rw [prepareActiveCandidates, prepareAll, ← hflat]

/-! ### The entries -/

/-- The key of the outbound of a link that has one. -/
def OutboundLib.keyOf (lib : OutboundLib O) (c : Candidate) : Option String :=
  ((lib.fromShareLink c.uri).toOption).map lib.normalizedKey

/-- The result of a link that has none. -/
def OutboundLib.failure? (lib : OutboundLib O) (c : Candidate) : Option RankedConfig :=
  match lib.fromShareLink c.uri with
  | .ok _ => none
  | .error err => some (failedConfig c "active_http" err)

/-- The keys of the entries. -/
def OutboundLib.keys (lib : OutboundLib O) (entries : List (PreparedActiveCandidate O)) :
    List String := entries.map fun e => lib.normalizedKey e.outbound

/-- The entries are the candidates with an outbound, grouped by its key. -/
structure Groups (lib : OutboundLib O) (cs : List Candidate)
    (entries : List (PreparedActiveCandidate O)) : Prop where
  nodup : (lib.keys entries).Nodup
  members : ∀ e ∈ entries, e.members
    = cs.filter fun c => lib.keyOf c = some (lib.normalizedKey e.outbound)
  outbound : ∀ e ∈ entries, lib.fromShareLink e.candidate.uri = .ok e.outbound
  all : ∀ c ∈ cs, ∀ k, lib.keyOf c = some k → k ∈ lib.keys entries

section Entries

variable {lib : OutboundLib O} {cs : List Candidate}
  {entries : List (PreparedActiveCandidate O)} {entry : PreparedActiveCandidate O} {c : Candidate}
  {o : O} {err : String}

lemma keyOf_of_ok (h : lib.fromShareLink c.uri = .ok o) :
    lib.keyOf c = some (lib.normalizedKey o) := by
  rw [OutboundLib.keyOf, h]
  rfl

lemma keyOf_of_error (h : lib.fromShareLink c.uri = .error err) : lib.keyOf c = none := by
  rw [OutboundLib.keyOf, h]
  rfl

/-- An entry adds its key, where it is new. -/
lemma keys_addEntry : lib.keys (addEntry lib entry entries)
    = if lib.normalizedKey entry.outbound ∈ lib.keys entries then lib.keys entries
      else lib.keys entries ++ [lib.normalizedKey entry.outbound] := by
  induction entries with
  | nil => rfl
  | cons e entries ih =>
      rw [addEntry, OutboundLib.keys, OutboundLib.keys, List.map_cons]
      by_cases hk : lib.normalizedKey e.outbound = lib.normalizedKey entry.outbound
      · rw [if_pos hk, if_pos (by rw [hk]; exact List.mem_cons_self), List.map_cons]
      · rw [if_neg hk, List.map_cons]
        rw [OutboundLib.keys, OutboundLib.keys] at ih
        rw [ih]
        simp only [List.mem_cons, Ne.symm hk, false_or]
        split_ifs <;> rfl

/-- What an entry is afterwards. -/
lemma mem_addEntry (hn : (lib.keys entries).Nodup) {e : PreparedActiveCandidate O}
    (h : e ∈ addEntry lib entry entries) :
    (e ∈ entries ∧ lib.normalizedKey e.outbound ≠ lib.normalizedKey entry.outbound)
      ∨ (∃ e' ∈ entries, lib.normalizedKey e'.outbound = lib.normalizedKey entry.outbound
        ∧ e = { e' with aliases := e'.aliases ++ [entry.candidate] })
      ∨ (lib.normalizedKey entry.outbound ∉ lib.keys entries ∧ e = entry) := by
  induction entries with
  | nil => exact .inr (.inr ⟨by simp [OutboundLib.keys], by simpa [addEntry] using h⟩)
  | cons e₀ entries ih =>
      rw [OutboundLib.keys, List.map_cons, List.nodup_cons] at hn
      rw [addEntry] at h
      by_cases hk : lib.normalizedKey e₀.outbound = lib.normalizedKey entry.outbound
      · rw [if_pos hk, List.mem_cons] at h
        rcases h with rfl | h
        · exact .inr (.inl ⟨e₀, List.mem_cons_self, hk, rfl⟩)
        · refine .inl ⟨List.mem_cons_of_mem _ h, fun he => hn.1 ?_⟩
          exact List.mem_map.mpr ⟨e, h, he.trans hk.symm⟩
      · rw [if_neg hk, List.mem_cons] at h
        rcases h with rfl | h
        · exact .inl ⟨List.mem_cons_self, hk⟩
        · rcases ih hn.2 h with ⟨he, hne⟩ | ⟨e', he', hkey, he⟩ | ⟨hnew, he⟩
          · exact .inl ⟨List.mem_cons_of_mem _ he, hne⟩
          · exact .inr (.inl ⟨e', List.mem_cons_of_mem _ he', hkey, he⟩)
          · refine .inr (.inr ⟨fun hmem => ?_, he⟩)
            rcases List.mem_cons.mp hmem with hmem | hmem
            · exact hk hmem.symm
            · exact hnew hmem

/-- One more candidate, with an outbound. -/
lemma Groups.add (h : Groups lib cs entries) (ho : lib.fromShareLink c.uri = .ok o) :
    Groups lib (cs ++ [c]) (addEntry lib ⟨c, [], o⟩ entries) := by
  have hkey : lib.keyOf c = some (lib.normalizedKey o) := keyOf_of_ok ho
  have hmem : ∀ k, (cs ++ [c]).filter (fun c => lib.keyOf c = some k)
      = cs.filter (fun c => lib.keyOf c = some k)
        ++ if lib.normalizedKey o = k then [c] else [] := fun k => by
    rw [List.filter_append, List.filter_singleton, hkey]
    simp
  refine ⟨?_, fun e he => ?_, fun e he => ?_, fun c' hc' k hk => ?_⟩
  · rw [keys_addEntry]
    split_ifs with hold
    · exact h.nodup
    · exact List.nodup_append.mpr ⟨h.nodup, List.nodup_singleton _, fun k hk k' hk' => by
        rw [List.mem_singleton.mp hk']
        exact fun he => hold (he ▸ hk)⟩
  · rcases mem_addEntry h.nodup he with ⟨he, hne⟩ | ⟨e', he', hk, rfl⟩ | ⟨hnew, rfl⟩
    · rw [hmem, if_neg hne.symm, List.append_nil]
      exact h.members e he
    · rw [hmem, if_pos hk.symm, ← h.members e' he']
      rfl
    · have hnone : cs.filter (fun c => lib.keyOf c = some (lib.normalizedKey o)) = [] :=
        List.filter_eq_nil_iff.mpr fun c' hc' hk => hnew (h.all c' hc' _ (by simpa using hk))
      rw [hmem, hnone, if_pos rfl]
      rfl
  · rcases mem_addEntry h.nodup he with ⟨he, -⟩ | ⟨e', he', -, rfl⟩ | ⟨-, rfl⟩
    · exact h.outbound e he
    · exact h.outbound e' he'
    · exact ho
  · rw [keys_addEntry]
    rcases List.mem_append.mp hc' with hc' | hc'
    · split_ifs
      · exact h.all c' hc' k hk
      · exact List.mem_append_left _ (h.all c' hc' k hk)
    · rw [List.mem_singleton.mp hc', hkey, Option.some.injEq] at hk
      subst hk
      split_ifs with hold
      · exact hold
      · exact List.mem_append_right _ (List.mem_singleton_self _)

/-- One more candidate, without. -/
lemma Groups.skip (h : Groups lib cs entries) (he : lib.fromShareLink c.uri = .error err) :
    Groups lib (cs ++ [c]) entries := by
  refine ⟨h.nodup, fun e hmem => ?_, h.outbound, fun c' hc' k hk => ?_⟩
  · rw [List.filter_append, List.filter_singleton, keyOf_of_error he]
    simpa using h.members e hmem
  · rcases List.mem_append.mp hc' with hc' | hc'
    · exact h.all c' hc' k hk
    · rw [List.mem_singleton.mp hc', keyOf_of_error he] at hk
      cases hk

/-- All of them. -/
lemma Groups.foldl (h : Groups lib cs entries) (cs' : List Candidate) :
    Groups lib (cs ++ cs')
      ((prepareChunk lib cs').1.foldl (fun es e => addEntry lib e es) entries) := by
  induction cs' generalizing cs entries with
  | nil => rwa [List.append_nil]
  | cons c cs' ih =>
      have hsplit : cs ++ c :: cs' = (cs ++ [c]) ++ cs' := by simp
      rw [prepareChunk, hsplit]
      cases hc : lib.fromShareLink c.uri with
      | ok o => exact ih (h.add hc)
      | error err => exact ih (h.skip hc)

/-- A piece reports the links it could not read. -/
lemma ranked_prepareChunk (lib : OutboundLib O) (cs : List Candidate) :
    (prepareChunk lib cs).2 = cs.filterMap lib.failure? := by
  induction cs with
  | nil => rfl
  | cons c cs ih =>
      rw [prepareChunk, List.filterMap_cons, OutboundLib.failure?]
      cases lib.fromShareLink c.uri with
      | ok o => exact ih
      | error err => exact congrArg _ ih

end Entries

/-! ### What is prepared -/

/-- The candidates of some entries. -/
def allMembers (entries : List (PreparedActiveCandidate O)) : List Candidate :=
  (entries.map PreparedActiveCandidate.members).flatten

lemma length_allMembers (entries : List (PreparedActiveCandidate O)) :
    (allMembers entries).length = candidateCount entries := by
  rw [allMembers, List.length_flatten, candidateCount, List.map_map]
  refine congrArg List.sum (List.map_congr_left fun e _ => ?_)
  rw [Function.comp_apply, PreparedActiveCandidate.members, List.length_cons,
    PreparedActiveCandidate.candidateCount, Nat.add_comm]

/-- An entry that is added, as an alias or not, is there with the others. -/
lemma perm_addEntry (lib : OutboundLib O) (c : Candidate) (o : O)
    (entries : List (PreparedActiveCandidate O)) :
    allMembers (addEntry lib ⟨c, [], o⟩ entries) ~ allMembers entries ++ [c] := by
  induction entries with
  | nil => exact .refl _
  | cons e entries ih =>
      rw [addEntry]
      split_ifs
      · have hmove : e.members ++ [c] ++ allMembers entries
            ~ e.members ++ (allMembers entries ++ [c]) := by
          rw [List.append_assoc]
          exact .append_left _ List.perm_append_comm
        simpa [allMembers, PreparedActiveCandidate.members] using hmove
      · rw [allMembers, List.map_cons, List.flatten_cons, allMembers, List.map_cons,
          List.flatten_cons, List.append_assoc]
        exact ih.append_left _

/-- No candidate of a piece is lost, and none is made up. -/
lemma perm_foldl (lib : OutboundLib O) (cs : List Candidate)
    (entries : List (PreparedActiveCandidate O)) :
    allMembers ((prepareChunk lib cs).1.foldl (fun es e => addEntry lib e es) entries)
        ++ candidatesFromRanked (prepareChunk lib cs).2
      ~ allMembers entries ++ cs := by
  induction cs generalizing entries with
  | nil => exact .refl _
  | cons c cs ih =>
      rw [prepareChunk]
      cases hc : lib.fromShareLink c.uri with
      | ok o =>
          calc allMembers ((prepareChunk lib cs).1.foldl (fun es e => addEntry lib e es)
                (addEntry lib ⟨c, [], o⟩ entries)) ++ candidatesFromRanked (prepareChunk lib cs).2
              ~ allMembers (addEntry lib ⟨c, [], o⟩ entries) ++ cs := ih _
            _ ~ allMembers entries ++ [c] ++ cs := (perm_addEntry lib c o entries).append_right cs
            _ = allMembers entries ++ c :: cs := by simp
      | error err =>
          calc allMembers ((prepareChunk lib cs).1.foldl (fun es e => addEntry lib e es) entries)
                ++ c :: candidatesFromRanked (prepareChunk lib cs).2
              ~ c :: (allMembers ((prepareChunk lib cs).1.foldl (fun es e => addEntry lib e es)
                entries) ++ candidatesFromRanked (prepareChunk lib cs).2) := List.perm_middle
            _ ~ c :: (allMembers entries ++ cs) := (ih entries).cons c
            _ ~ allMembers entries ++ c :: cs := List.perm_middle.symm

section Preparation

variable (lib : OutboundLib O) (numCpus : ℕ) (candidates : List Candidate)
  (policy : ProbeStopPolicy)

/-- The entries are grouped by their outbound keys. -/
lemma groups_prepareActiveCandidates : Groups lib (scheduleActiveCandidates candidates policy)
    (prepareActiveCandidates lib numCpus candidates policy).prepared := by
  rw [prepareActiveCandidates_cpus]
  have hnil : Groups lib [] [] := ⟨List.nodup_nil, by simp, by simp, by simp⟩
  exact hnil.foldl (scheduleActiveCandidates candidates policy)

/-- The links that could not be read are reported. -/
lemma ranked_prepareActiveCandidates :
    (prepareActiveCandidates lib numCpus candidates policy).ranked
      = (scheduleActiveCandidates candidates policy).filterMap lib.failure? := by
  rw [prepareActiveCandidates_cpus]
  exact ranked_prepareChunk lib _

/-- Every candidate is in an entry or reported, once. -/
lemma perm_prepareActiveCandidates :
    allMembers (prepareActiveCandidates lib numCpus candidates policy).prepared
        ++ candidatesFromRanked (prepareActiveCandidates lib numCpus candidates policy).ranked
      ~ candidates := by
  rw [prepareActiveCandidates_cpus]
  exact (perm_foldl lib _ []).trans (perm_scheduleActiveCandidates candidates policy)

/-- **Every candidate once**: the links without an outbound are results already, and the others are
the members of the entries, one entry for each outbound key, whatever the number of processors. -/
theorem prepareActiveCandidates_spec (lib : OutboundLib O) (numCpus : ℕ)
    (candidates : List Candidate) (policy : ProbeStopPolicy) :
    let scheduled := scheduleActiveCandidates candidates policy
    let preparation := prepareActiveCandidates lib numCpus candidates policy
    Groups lib scheduled preparation.prepared
      ∧ preparation.ranked = scheduled.filterMap lib.failure?
      ∧ allMembers preparation.prepared ++ candidatesFromRanked preparation.ranked ~ candidates
      ∧ preparation.preparedCandidates + preparation.ranked.length = candidates.length := by
  intro scheduled preparation
  have hperm : allMembers preparation.prepared ++ candidatesFromRanked preparation.ranked
      ~ candidates := perm_prepareActiveCandidates lib numCpus candidates policy
  refine ⟨groups_prepareActiveCandidates .., ranked_prepareActiveCandidates .., hperm, ?_⟩
  rw [← hperm.length_eq, List.length_append, length_allMembers, candidatesFromRanked,
    List.length_map]
  rfl

end Preparation

end V2RayDar
