import V2raySub.Base.Interleave
import V2raySub.User.Frozen

/-!
Disabling a user while another administrator pauses or resumes the same user.

* `disableTxn`, `Switch.txn`: the operations of the service, cut after their `SELECT`.
* `Switch.Acts`: the row as the pause or resumption reads it passes its check, so it will write.
* `disable_wins_iff`: the user ends up disabled unless the disabling writes between the other
  operation's read and write and the row read passes that operation's check.
-/

namespace V2raySub

open Interleave

lemma Db.statusOf_eq (db : Db) (i : ℕ) : db.statusOf i = (db.user i).map UserRow.status := by
  rw [Db.statusOf, Db.clockOf, Option.map_map]
  rfl

/-! ### The operations -/

/-- `set_user_enabled(user_id, False)`. -/
def disableTxn (now : Stamp) (userId : ℕ) : Txn Db (Option UserRow) where
  read := fun db => db.user userId
  write := fun row db => (setUserEnabledWith now userId false row db).1

/-- The operation it runs at the same time as. -/
inductive Switch where
  | pause (now : Stamp)
  | resume (now : Stamp)
  deriving DecidableEq

/-- What it does once its `SELECT` has answered `row`. -/
def Switch.writeWith (userId : ℕ) : Switch → Option UserRow → Db → Db
  | .pause now, row, db => (pauseUserWith now userId row db).1
  | .resume now, row, db => (resumeUserWith now userId row db).1

/-- `pause_user` or `resume_user`. -/
def Switch.txn (userId : ℕ) (o : Switch) : Txn Db (Option UserRow) where
  read := fun db => db.user userId
  write := o.writeWith userId

/-- The transactions are the operations of the service. -/
lemma Switch.txn_run (userId : ℕ) (o : Switch) (db : Db) :
    (o.txn userId).run db = match o with
      | .pause now => (pauseUser now userId db).1
      | .resume now => (resumeUser now userId db).1 := by
  cases o <;> rfl

lemma disableTxn_run (now : Stamp) (userId : ℕ) (db : Db) :
    (disableTxn now userId).run db = (setUserEnabled now userId false db).1 := rfl

/-- The row read passes the check of the operation, and it writes. -/
def Switch.Acts (u : UserRow) : Switch → Prop
  | .pause _ => u.status = .active
  | .resume now => u.status = .paused ∧ ∃ shift, resumeShift now u.clock = .ok shift

/-- The status it writes. -/
def Switch.target : Switch → UserStatus
  | .pause _ => .paused
  | .resume _ => .active

/-! ### What the operations do to the status -/

variable {db : Db} {i : ℕ} {u v : UserRow} {now : Stamp}

lemma statusOf_setUser (hv : db.user i = some v) {sets : List Assign} {s : UserStatus}
    (hs : (applySets sets v).status = s) :
    (db.setUser i (applySets sets)).statusOf i = some s := by
  rw [Db.statusOf_eq, Db.user_setUser db i i fun u => id_applySets sets u, hv]
  simp [hs]

lemma status_resumed (shift : List Assign) (t : Stamp) (u : UserRow) :
    (applySets (shift ++ [.status .active, .pausedAt none, .updatedAt t]) u).status = .active := by
  rw [applySets, List.foldl_append]
  rfl

/-- The disabling writes if it found the user, whatever has happened since. -/
lemma statusOf_disable (hv : db.user i = some v) :
    ((disableTxn now i).write (some u) db).statusOf i = some .disabled :=
  statusOf_setUser hv rfl

/-- The other operation writes its status exactly if the row it read passes its check. -/
lemma statusOf_switch (o : Switch) (hv : db.user i = some v) :
    (o.Acts u → ((o.txn i).write (some u) db).statusOf i = some o.target)
    ∧ (¬o.Acts u → (o.txn i).write (some u) db = db) := by
  cases o with
  | pause t =>
      have hwrite : ((Switch.pause t).txn i).write (some u) db
          = (pauseUserWith t i (some u) db).1 := rfl
      rw [hwrite, pauseUserWith]
      refine ⟨fun h => ?_, fun h => ?_⟩
      · have hs : u.status = .active := h
        rw [hs]
        exact statusOf_setUser hv rfl
      · cases hs : u.status with
        | active => exact absurd hs h
        | paused => rfl
        | disabled => rfl
  | resume t =>
      have hwrite : ((Switch.resume t).txn i).write (some u) db
          = (resumeUserWith t i (some u) db).1 := rfl
      rw [hwrite, resumeUserWith]
      refine ⟨fun h => ?_, fun h => ?_⟩
      · obtain ⟨hs, shift, hshift⟩ := h
        simp only [hs, ne_eq, not_true_eq_false, if_false, hshift]
        exact statusOf_setUser hv (status_resumed shift t v)
      · by_cases hs : u.status = .paused
        · cases hshift : resumeShift t u.clock with
          | error e => simp only [hs, ne_eq, not_true_eq_false, if_false]
          | ok shift => exact absurd ⟨hs, shift, hshift⟩ h
        · simp only [ne_eq, hs, not_false_eq_true, if_true]

lemma not_acts_of_disabled (o : Switch) (h : u.status = .disabled) : ¬o.Acts u := by
  cases o <;> simp [Switch.Acts, h]

lemma Switch.target_ne (o : Switch) : o.target ≠ .disabled := by cases o <;> simp [target]

lemma exists_user_of_statusOf {s : UserStatus} (h : db.statusOf i = some s) :
    ∃ v, db.user i = some v ∧ v.status = s := Option.map_eq_some_iff.mp (db.statusOf_eq i ▸ h)

lemma switch_run (o : Switch) (hu : db.user i = some u) :
    (o.txn i).run db = (o.txn i).write (some u) db := congrArg (fun r => (o.txn i).write r db) hu

lemma disable_run (hu : db.user i = some u) :
    (disableTxn now i).run db = (disableTxn now i).write (some u) db :=
  congrArg (fun r => (disableTxn now i).write r db) hu

/-- The user is still there after the other operation. -/
lemma exists_user_switch (o : Switch) (hu : db.user i = some u) :
    ∃ v, ((o.txn i).run db).user i = some v := by
  rw [switch_run o hu]
  by_cases h : o.Acts u
  · obtain ⟨v, hv, -⟩ := exists_user_of_statusOf ((statusOf_switch o hu).1 h)
    exact ⟨v, hv⟩
  · rw [(statusOf_switch o hu).2 h]
    exact ⟨u, hu⟩

/-! ### Every schedule -/

/-- For every user and every interleaving of the reads and writes, the user ends up disabled exactly
if it is not the case that the disabling writes between the other operation's read and write and
the row read passes that operation's check. -/
theorem disable_wins_iff {db : Db} {i : ℕ} {u : UserRow} (hu : db.user i = some u) (now : Stamp)
    (o : Switch) {w : List Step} (hw : w ∈ schedules) :
    (outcome (disableTxn now i) (o.txn i) w db).statusOf i = some .disabled
      ↔ ¬(Splits w ∧ o.Acts u) := by
  have hdisabled : ((disableTxn now i).run db).statusOf i = some .disabled := by
    rw [disable_run hu]
    exact statusOf_disable hu
  obtain ⟨v, hv, hvs⟩ := exists_user_of_statusOf hdisabled
  by_cases hsplit : Splits w
  · have hout : outcome (disableTxn now i) (o.txn i) w db
        = (o.txn i).write (some u) ((disableTxn now i).run db) := by
      rw [outcome_of_splits _ _ hw hsplit]
      exact congrArg (fun r => (o.txn i).write r ((disableTxn now i).run db)) hu
    rw [hout]
    by_cases ha : o.Acts u
    · refine iff_of_false (fun h => ?_) fun h => h ⟨hsplit, ha⟩
      rw [(statusOf_switch o hv).1 ha, Option.some.injEq] at h
      exact o.target_ne h
    · rw [(statusOf_switch o hv).2 ha]
      exact iff_of_true hdisabled fun h => ha h.2
  · refine iff_of_true ?_ fun h => hsplit h.1
    obtain ⟨v', hv'⟩ := exists_user_switch o hu
    rcases outcome_of_not_splits (disableTxn now i) (o.txn i) hw hsplit db with h | h | h
    · -- the other operation reads the disabled row and refuses
      rw [h, switch_run o hv, (statusOf_switch o hv).2 (not_acts_of_disabled o hvs)]
      exact hdisabled
    · rw [h, disable_run hv']
      exact statusOf_disable hv'
    · rw [h]
      show ((disableTxn now i).write (db.user i) ((o.txn i).run db)).statusOf i = _
      rw [hu]
      exact statusOf_disable hv'

/-- Against a pause that comes after it, the disabling wins. -/
theorem disable_wins_iff_sample :
    (outcome (disableTxn (Stamp.day 1) 1) ((Switch.pause (Stamp.day 1)).txn 1)
        [.read₁, .write₁, .read₂, .write₂] sampleAdded).statusOf 1 = some .disabled := by
  obtain ⟨u, hu⟩ : ∃ u, sampleAdded.user 1 = some u :=
    Option.isSome_iff_exists.mp (by decide)
  exact (disable_wins_iff hu (Stamp.day 1) (.pause (Stamp.day 1))
    (by rw [mem_schedules]; decide)).mpr fun h => absurd h.1 (by decide)

/-- The disabling writes between the pause's read and write: the user ends up paused. -/
theorem disable_lost_to_pause :
    [Step.read₂, .read₁, .write₁, .write₂] ∈ schedules
      ∧ sampleAdded.statusOf 1 = some .active
      ∧ (outcome (disableTxn (Stamp.day 1) 1) ((Switch.pause (Stamp.day 1)).txn 1)
          [.read₂, .read₁, .write₁, .write₂] sampleAdded).statusOf 1 = some .paused := by
  refine ⟨by rw [mem_schedules]; decide, by decide, by decide⟩

end V2raySub
