import Mathlib.Data.List.Sort
import V2raySub.Backup.Schema
import V2raySub.Base.AutoTable
import V2raySub.User.Paths

/-!
The delivery of an archive (`deliver_backup`, `_enforce_retention`, `delete_backup`).

* `deliverBackup`: one attempt, with the row of `backup_logs` it marks and the timer it sets.
* `Delivery`: one archive on its way; `Delivery.step` takes the attempt that is scheduled, or a call
  of the panel between two attempts.
* `Scheduled.step`: an attempt that finds the archive goes on or settles its row, and **one that
  does not find it raises before the handler and leaves the row as it is**.
* `delivery_settles_iff`: there are at most four attempts, and the row is settled at the end of
  those runs whose attempts all found the archive.
-/

namespace V2raySub

open PyText

variable {β : Type*}

/-! ### The archives and their rows -/

/-- A file in `storage/backups`. -/
structure Archive (β : Type*) where
  filename : String
  mtime : ℕ
  content : β

/-- What a delivery works on: the settings, `backup_logs` and the directory of the archives. -/
structure Vault (β : Type*) where
  db : Db
  backupLogs : AutoTable BackupLog
  archives : List (Archive β)

/-- The file of this name. -/
def Vault.archive? (v : Vault β) (filename : String) : Option (Archive β) :=
  Rows.get Archive.filename v.archives filename

/-- `UPDATE backup_logs SET delivery_status = ?, error_message = ? WHERE checksum = ?`. -/
def Vault.mark (checksum status : String) (message : Option String) (v : Vault β) : Vault β :=
  { v with
    backupLogs := v.backupLogs.update (fun _ r => r.checksum = some checksum) fun r =>
      { r with deliveryStatus := status, errorMessage := message } }

/-- `os.unlink`, and the row of the deletion. -/
def Vault.unlink (filename user message : String) (v : Vault β) : Vault β :=
  { v with
    archives := v.archives.filter fun a => a.filename ≠ filename
    backupLogs := v.backupLogs.insert
      { operation := "delete", user := user, status := "SUCCESS", duration := "0", backupSize := 0,
        errorMessage := some message, deliveryStatus := "NOT_APPLICABLE", checksum := none } }

/-- `files.sort(key=lambda x: (os.path.getmtime(x), x))`. -/
def Archive.Older (a b : Archive β) : Prop :=
  a.mtime < b.mtime ∨ a.mtime = b.mtime ∧ ¬ b.filename < a.filename

instance : DecidableRel (Archive.Older (β := β)) := fun a b =>
  inferInstanceAs (Decidable (a.mtime < b.mtime ∨ a.mtime = b.mtime ∧ ¬ b.filename < a.filename))

/-- The names `_enforce_retention` counts. -/
def isBackupName (filename : String) : Bool :=
  ("backup_".toList.isPrefixOf filename.toList || "emergency_".toList.isPrefixOf filename.toList)
    && ".zip".toList.isSuffixOf filename.toList

/-- `_enforce_retention`. -/
def enforceRetention (maxBackups : ℤ) (v : Vault β) : Vault β :=
  let files := (v.archives.filter fun a => isBackupName a.filename).insertionSort Archive.Older
  if maxBackups < files.length then
    (files.take (files.length - maxBackups).toNat).foldl (fun v a => v.unlink a.filename "SYSTEM"
      s!"حذف خودکار نسخه قدیمی به دلیل سیاست نگهداری: {a.filename}") v
  else v

/-- `delete_backup`, of a name in the directory. -/
def deleteBackup (filename user : String) (v : Vault β) : Vault β × Bool :=
  match v.archive? filename with
  | none => (v, false)
  | some _ => (v.unlink filename user s!"حذف فایل بکاپ: {filename}", true)

/-- The keys of `save_backup_settings_route`. -/
def backupSettingKeys : List String :=
  ["backup_scheduled_enabled", "backup_interval", "backup_scheduled_type", "backup_retention_max",
    "backup_telegram_enabled", "backup_telegram_bot_token", "backup_telegram_chat_id",
    "backup_telegram_api_server"]

/-- `save_backup_settings_route`; a form leaves out the boxes that are not ticked. -/
def saveBackupSettings (form : Bool) (data : String → Option String) (db : Db) : Db :=
  let saved := backupSettingKeys.foldl (fun db key =>
    (data key).elim db fun value => setSetting key (strip value) db) db
  let box (key : String) (db : Db) : Db :=
    setSetting key (if (data key).isSome then "1" else "0") db
  if form then box "backup_telegram_enabled" (box "backup_scheduled_enabled" saved) else saved

/-! ### One attempt -/

/-- The request of a delivery. -/
structure SendDocument (β : Type*) where
  url : String
  chatId : String
  caption : String
  filename : String
  document : β

/-- What becomes of a request. -/
inductive Answer where
  | answered (statusCode : ℕ) (text : String)
  | raised (error : String)

/-- What becomes of a call of `deliver_backup`: it raises, ends, or sets a timer. -/
inductive Next where
  | raised
  | ended
  | retry (delay retryCount : ℕ)

/-- `url`, from the server and the token of the settings. -/
def deliveryUrl (apiServer botToken : String) : String :=
  let server := if "http".toList.isPrefixOf apiServer.toList then apiServer
    else "https://" ++ apiServer
  let trimmed := String.ofList ((server.toList.reverse.dropWhile fun c => c = '/').reverse)
  s!"{trimmed}/bot{botToken}/sendDocument"

/-- The request for an archive. -/
def sendDocument (apiServer botToken chatId checksum : String) (a : Archive β) : SendDocument β :=
  { url := deliveryUrl apiServer botToken, chatId := chatId
    caption := s!"💾 نسخه پشتیبان سیستم سابسکریپشن\n📝 نام فایل: {a.filename}\n📦 شناسه هش: " ++
      s!"{String.ofList (checksum.toList.take 12)}..."
    filename := a.filename, document := a.content }

/-- `retry_intervals`. -/
def retryIntervals : List ℕ := [60, 300, 900]

/-- The handler of a failed request. -/
def deliveryFailed (checksum error : String) (retryCount : ℕ) (v : Vault β) : Vault β × Next :=
  match retryIntervals[retryCount]? with
  | some delay =>
    (v.mark checksum "PENDING" (some (s!"خطای ارسال: {error} - تلاش مجدد {retryCount + 1} در " ++
      s!"{delay / 60} دقیقه دیگر")), .retry delay (retryCount + 1))
  | none => (v.mark checksum "FAILED" (some s!"ارسال با خطا متوقف شد: {error}"), .ended)

/-- `deliver_backup`.  The checksum is taken before the `try`. -/
def deliverBackup (sha256 : β → String) (net : SendDocument β → Answer) (zip : String)
    (retryCount : ℕ) (v : Vault β) : Vault β × Next :=
  match v.archive? zip with
  | none => (v, .raised)
  | some a =>
    let checksum := sha256 a.content
    let apiServer := strip (getSetting v.db "backup_telegram_api_server" "https://api.telegram.org")
    let botToken := strip (getSetting v.db "backup_telegram_bot_token" "")
    let chatId := strip (getSetting v.db "backup_telegram_chat_id" "")
    if botToken = "" ∨ chatId = "" then
      (v.mark checksum "FAILED" (some "توکن یا چت‌آیدی تنظیم نشده است"), .ended)
    else
      match net (sendDocument apiServer botToken chatId checksum a) with
      | .answered statusCode text =>
        if statusCode = 200 then (v.mark checksum "SENT" none, .ended)
        else deliveryFailed checksum s!"خطای وب سرور ({statusCode}): {text}" retryCount v
      | .raised error => deliveryFailed checksum error retryCount v

/-! ### The delivery as a system -/

/-- A delivery: the retry count of the attempt that is scheduled, and the number of those made. -/
structure Delivery (β : Type*) where
  vault : Vault β
  job : Option ℕ
  attempts : ℕ

/-- What happens to a delivery: its attempt is due and meets this network, or the panel is used. -/
inductive DeliveryEvent (β : Type*) where
  | attempt (net : SendDocument β → Answer)
  | saveBackupSettings (form : Bool) (data : String → Option String)
  | enforceRetention (maxBackups : ℤ)
  | deleteBackup (filename user : String)

/-- The attempt a call leaves scheduled. -/
def Next.job : Next → Option ℕ
  | .retry _ retryCount => some retryCount
  | _ => none

/-- One event; nothing is due when no attempt is scheduled. -/
def Delivery.step (sha256 : β → String) (zip : String) (s : Delivery β) :
    DeliveryEvent β → Delivery β
  | .attempt net =>
    match s.job with
    | none => s
    | some retryCount =>
      let out := deliverBackup sha256 net zip retryCount s.vault
      { vault := out.1, job := out.2.job, attempts := s.attempts + 1 }
  | .saveBackupSettings form data =>
    { s with vault := { s.vault with db := saveBackupSettings form data s.vault.db } }
  | .enforceRetention maxBackups => { s with vault := enforceRetention maxBackups s.vault }
  | .deleteBackup filename user => { s with vault := (deleteBackup filename user s.vault).1 }

/-- The delivery after the events. -/
def Delivery.run (sha256 : β → String) (zip : String) (s : Delivery β)
    (es : List (DeliveryEvent β)) : Delivery β := es.foldl (Delivery.step sha256 zip) s

/-- `delivery_status` of a row. -/
def Delivery.status (s : Delivery β) (i : ℕ) : Option String :=
  (s.vault.backupLogs.get i).map BackupLog.deliveryStatus

/-! ### What the panel does between two attempts -/

/-- Rows stay, and no archive comes. -/
structure Vault.Shrinks (v v' : Vault β) : Prop where
  rows : ∀ i r, v.backupLogs.get i = some r → v'.backupLogs.get i = some r
  archives : ∀ a ∈ v'.archives, a ∈ v.archives

lemma Vault.Shrinks.refl (v : Vault β) : v.Shrinks v := ⟨fun _ _ h => h, fun _ h => h⟩

lemma Vault.Shrinks.trans {v v' v'' : Vault β} (h : v.Shrinks v') (h' : v'.Shrinks v'') :
    v.Shrinks v'' :=
  ⟨fun i r hr => h'.rows i r (h.rows i r hr), fun a ha => h.archives a (h'.archives a ha)⟩

lemma Vault.shrinks_unlink (v : Vault β) (filename user message : String) :
    v.Shrinks (v.unlink filename user message) :=
  ⟨fun _ _ hr => AutoTable.get_insert_of_get hr, fun _ ha => List.mem_of_mem_filter ha⟩

/-- Deletions shrink, one after another. -/
lemma Vault.shrinks_foldl {α : Type*} (f : Vault β → α → Vault β)
    (hf : ∀ (v : Vault β) (a : α), v.Shrinks (f v a))
    (l : List α) (v : Vault β) : v.Shrinks (l.foldl f v) := by
  induction l generalizing v with
  | nil => exact .refl v
  | cons a l ih => exact (hf v a).trans (ih (f v a))

lemma shrinks_enforceRetention (maxBackups : ℤ) (v : Vault β) :
    v.Shrinks (enforceRetention maxBackups v) := by
  rw [enforceRetention]
  split_ifs
  · exact Vault.shrinks_foldl _ (fun v a => v.shrinks_unlink _ _ _) _ v
  · exact .refl v

lemma shrinks_deleteBackup (filename user : String) (v : Vault β) :
    v.Shrinks (deleteBackup filename user v).1 := by
  rw [deleteBackup]
  cases v.archive? filename with
  | none => exact .refl v
  | some a => exact v.shrinks_unlink _ _ _

/-! ### What one attempt does -/

variable {sha256 : β → String} {zip : String} {i : ℕ} {c : String} {v v' : Vault β}

/-- The archive, if it is there, is the one of the row. -/
structure Vault.Tracked (sha256 : β → String) (zip : String) (i : ℕ) (c : String)
    (v : Vault β) : Prop where
  row : ∃ r, v.backupLogs.get i = some r ∧ r.checksum = some c
  bytes : ∀ a ∈ v.archives, a.filename = zip → sha256 a.content = c

lemma Vault.Tracked.shrinks (h : v.Tracked sha256 zip i c) (hv : v.Shrinks v') :
    v'.Tracked sha256 zip i c := by
  obtain ⟨r, hr, hc⟩ := h.row
  exact ⟨⟨r, hv.rows i r hr, hc⟩, fun a ha => h.bytes a (hv.archives a ha)⟩

/-- Marking a row's checksum marks the row. -/
lemma Vault.get_mark {r : BackupLog} (hr : v.backupLogs.get i = some r)
    (hc : r.checksum = some c) (status : String) (message : Option String) :
    (v.mark c status message).backupLogs.get i
      = some { r with deliveryStatus := status, errorMessage := message } := by
  rw [Vault.mark, AutoTable.get_update, hr, Option.map_some, if_pos (by simpa using hc)]

lemma Vault.Tracked.mark (h : v.Tracked sha256 zip i c) (status : String)
    (message : Option String) : (v.mark c status message).Tracked sha256 zip i c := by
  obtain ⟨r, hr, hc⟩ := h.row
  exact ⟨⟨_, Vault.get_mark hr hc status message, hc⟩, h.bytes⟩

lemma Vault.Tracked.status_mark (h : v.Tracked sha256 zip i c) (status : String)
    (message : Option String) :
    ((v.mark c status message).backupLogs.get i).map BackupLog.deliveryStatus = some status := by
  obtain ⟨r, hr, hc⟩ := h.row
  rw [Vault.get_mark hr hc, Option.map_some]

lemma Vault.Tracked.sha256_eq (h : v.Tracked sha256 zip i c) {a : Archive β}
    (ha : v.archive? zip = some a) : sha256 a.content = c :=
  h.bytes a (Rows.get_mem ha) (Rows.key_of_get ha)

/-- The states a row is settled in. -/
def IsSettled (status : String) : Prop := status = "SENT" ∨ status = "FAILED"

/-- What an attempt that found the archive comes to: its row is settled, or the next attempt is
scheduled and the row pending. -/
inductive Attempted (c : String) (retryCount : ℕ) (v : Vault β) : Vault β × Next → Prop where
  | settled (status : String) (message : Option String) :
      IsSettled status → Attempted c retryCount v (v.mark c status message, .ended)
  | again (delay : ℕ) (message : Option String) : retryCount < retryIntervals.length →
      Attempted c retryCount v (v.mark c "PENDING" message, .retry delay (retryCount + 1))

lemma attempted_deliveryFailed (c error : String) (retryCount : ℕ) (v : Vault β) :
    Attempted c retryCount v (deliveryFailed c error retryCount v) := by
  rw [deliveryFailed]
  cases h : retryIntervals[retryCount]? with
  | none => exact .settled _ _ (.inr rfl)
  | some delay => exact .again _ _ (List.getElem?_eq_some_iff.mp h).1

lemma attempted_deliverBackup (sha256 : β → String) (net : SendDocument β → Answer)
    (retryCount : ℕ) {a : Archive β} (ha : v.archive? zip = some a) :
    Attempted (sha256 a.content) retryCount v (deliverBackup sha256 net zip retryCount v) := by
  simp only [deliverBackup, ha]
  split_ifs with hcredentials
  · exact .settled _ _ (.inr rfl)
  · split
    · split_ifs with hok
      · exact .settled _ _ (.inl rfl)
      · exact attempted_deliveryFailed ..
    · exact attempted_deliveryFailed ..

/-- Without the archive the call raises, and marks nothing. -/
lemma deliverBackup_of_missing (net : SendDocument β → Answer) (retryCount : ℕ)
    (ha : v.archive? zip = none) :
    deliverBackup sha256 net zip retryCount v = (v, .raised) := by
  rw [deliverBackup, ha]

/-! ### Where a delivery stands -/

variable {s : Delivery β} {es : List (DeliveryEvent β)} {e : DeliveryEvent β}

/-- A pending delivery with an attempt scheduled, as `create_backup` and a retry leave it. -/
structure Delivery.Scheduled (sha256 : β → String) (zip : String) (i : ℕ) (c : String)
    (s : Delivery β) : Prop where
  tracked : s.vault.Tracked sha256 zip i c
  pending : s.status i = some "PENDING"
  job : s.job = some s.attempts
  early : s.attempts ≤ retryIntervals.length

/-- A delivery with no attempt scheduled, its row settled or not. -/
structure Delivery.Over (i : ℕ) (settled : Prop) (s : Delivery β) : Prop where
  job : s.job = none
  attempts : s.attempts ≤ retryIntervals.length + 1
  status : ∃ status, s.status i = some status ∧ (settled → IsSettled status)
    ∧ (¬ settled → status = "PENDING")

/-- An attempt that is due finds the archive. -/
def Delivery.Finds (zip : String) (s : Delivery β) : DeliveryEvent β → Prop
  | .attempt _ => s.job.isSome → (s.vault.archive? zip).isSome
  | _ => True

/-- Every attempt of the run finds the archive. -/
def Delivery.AlwaysFinds (sha256 : β → String) (zip : String) :
    Delivery β → List (DeliveryEvent β) → Prop
  | _, [] => True
  | s, e :: es => s.Finds zip e ∧ (s.step sha256 zip e).AlwaysFinds sha256 zip es

/-- A call of the panel leaves a scheduled delivery scheduled. -/
lemma Delivery.Scheduled.shrinks (h : s.Scheduled sha256 zip i c) (hv : s.vault.Shrinks v) :
    Delivery.Scheduled sha256 zip i c { s with vault := v } where
  tracked := h.tracked.shrinks hv
  pending := by
    obtain ⟨r, hr, he⟩ := Option.map_eq_some_iff.mp h.pending
    exact Option.map_eq_some_iff.mpr ⟨r, hv.rows i r hr, he⟩
  job := h.job
  early := h.early

lemma Delivery.Over.shrinks {settled : Prop} (h : s.Over i settled) (hv : s.vault.Shrinks v) :
    Delivery.Over i settled { s with vault := v } where
  job := h.job
  attempts := h.attempts
  status := by
    obtain ⟨status, hstatus, hfinal⟩ := h.status
    obtain ⟨r, hr, he⟩ := Option.map_eq_some_iff.mp hstatus
    exact ⟨status, Option.map_eq_some_iff.mpr ⟨r, hv.rows i r hr, he⟩, hfinal⟩

/-- Settings do not touch the rows or the archives. -/
lemma Vault.shrinks_settings (v : Vault β) (db : Db) : v.Shrinks { v with db := db } :=
  ⟨fun _ _ h => h, fun _ h => h⟩

/-- **An attempt that is due goes on or settles its row, if it finds the archive**; if not, it
leaves the row pending with nothing scheduled. -/
lemma Delivery.Scheduled.step (h : s.Scheduled sha256 zip i c) (e : DeliveryEvent β) :
    (s.Finds zip e ∧ ((s.step sha256 zip e).Scheduled sha256 zip i c
        ∨ (s.step sha256 zip e).Over i True))
      ∨ (¬ s.Finds zip e ∧ (s.step sha256 zip e).Over i False) := by
  cases e with
  | saveBackupSettings form data =>
      exact .inl ⟨trivial, .inl (h.shrinks (s.vault.shrinks_settings _))⟩
  | enforceRetention maxBackups =>
      exact .inl ⟨trivial, .inl (h.shrinks (shrinks_enforceRetention _ _))⟩
  | deleteBackup filename user =>
      exact .inl ⟨trivial, .inl (h.shrinks (shrinks_deleteBackup _ _ _))⟩
  | attempt net =>
      have hjob := h.job
      cases ha : s.vault.archive? zip with
      | none =>
          refine .inr ⟨fun hfinds => ?_, ?_⟩
          · have hsome := hfinds (by rw [hjob]; rfl)
            rw [ha] at hsome
            cases hsome
          · simp only [Delivery.step, hjob, deliverBackup_of_missing net _ ha]
            exact ⟨rfl, Nat.succ_le_succ h.early, "PENDING", h.pending, False.elim, fun _ => rfl⟩
      | some a =>
          refine .inl ⟨fun _ => by rw [ha]; rfl, ?_⟩
          have hattempted := attempted_deliverBackup sha256 net s.attempts ha
          rw [h.tracked.sha256_eq ha] at hattempted
          simp only [Delivery.step, hjob]
          generalize deliverBackup sha256 net zip s.attempts s.vault = out at hattempted
          cases hattempted with
          | settled status message hsettled =>
              exact .inr ⟨rfl, Nat.succ_le_succ h.early, status,
                h.tracked.status_mark status message, fun _ => hsettled,
                fun hfalse => absurd trivial hfalse⟩
          | again delay message hlt =>
              exact .inl ⟨h.tracked.mark "PENDING" message,
                h.tracked.status_mark "PENDING" message, rfl, hlt⟩

/-- With nothing scheduled, nothing more happens to the row. -/
lemma Delivery.Over.step {settled : Prop} (h : s.Over i settled) (sha256 : β → String)
    (zip : String) (e : DeliveryEvent β) :
    s.Finds zip e ∧ (s.step sha256 zip e).Over i settled := by
  cases e with
  | saveBackupSettings form data => exact ⟨trivial, h.shrinks (s.vault.shrinks_settings _)⟩
  | enforceRetention maxBackups => exact ⟨trivial, h.shrinks (shrinks_enforceRetention _ _)⟩
  | deleteBackup filename user => exact ⟨trivial, h.shrinks (shrinks_deleteBackup _ _ _)⟩
  | attempt net =>
      have hjob := h.job
      refine ⟨fun hsome => ?_, ?_⟩
      · rw [hjob] at hsome
        cases hsome
      · simp only [Delivery.step, hjob]
        exact h

lemma Delivery.Over.run {settled : Prop} (h : s.Over i settled) (sha256 : β → String)
    (zip : String) (es : List (DeliveryEvent β)) :
    s.AlwaysFinds sha256 zip es ∧ (s.run sha256 zip es).Over i settled := by
  induction es generalizing s with
  | nil => exact ⟨trivial, h⟩
  | cons e es ih =>
      obtain ⟨hfinds, hover⟩ := h.step sha256 zip e
      exact ⟨⟨hfinds, (ih hover).1⟩, (ih hover).2⟩

/-- A run leaves the delivery scheduled, or over: settled if every attempt found the archive. -/
lemma Delivery.Scheduled.run (h : s.Scheduled sha256 zip i c) (es : List (DeliveryEvent β)) :
    (s.run sha256 zip es).Scheduled sha256 zip i c
      ∨ (s.run sha256 zip es).Over i (s.AlwaysFinds sha256 zip es) := by
  induction es generalizing s with
  | nil => exact .inl h
  | cons e es ih =>
      rcases h.step e with ⟨hfinds, hnext | hover⟩ | ⟨hmissing, hover⟩
      · refine (ih hnext).imp_right fun hrun => ?_
        rwa [Delivery.AlwaysFinds, and_iff_right hfinds]
      · obtain ⟨hrest, hrun⟩ := hover.run sha256 zip es
        refine .inr ?_
        rwa [Delivery.AlwaysFinds, and_iff_right hfinds, iff_true_intro hrest]
      · obtain ⟨-, hrun⟩ := hover.run sha256 zip es
        refine .inr ?_
        rwa [Delivery.AlwaysFinds, iff_false_intro hmissing, false_and]

/-- **When a delivery is left pending.**  From a pending row with its attempt scheduled, in every
run there are at most four attempts; and once none is scheduled, the row is sent or failed if and
only if every attempt found the archive. -/
theorem delivery_settles_iff (sha256 : β → String) (zip : String) (i : ℕ) (c : String)
    (s : Delivery β) (h : s.Scheduled sha256 zip i c) (es : List (DeliveryEvent β)) :
    (s.run sha256 zip es).attempts ≤ 4
      ∧ ((s.run sha256 zip es).job = none →
        ((s.run sha256 zip es).status i = some "SENT"
            ∨ (s.run sha256 zip es).status i = some "FAILED"
          ↔ s.AlwaysFinds sha256 zip es)) := by
  rcases h.run es with hrun | hrun
  · refine ⟨hrun.early.trans (Nat.le_succ _), fun hnone => ?_⟩
    rw [hrun.job] at hnone
    cases hnone
  · refine ⟨hrun.attempts, fun _ => ?_⟩
    obtain ⟨status, hstatus, hfound, hmissed⟩ := hrun.status
    rw [hstatus, Option.some.injEq, Option.some.injEq]
    refine ⟨fun hfinal => ?_, hfound⟩
    by_contra hnot
    rw [hmissed hnot] at hfinal
    exact hfinal.elim (fun he => absurd he (by decide)) fun he => absurd he (by decide)

/-! ### An archive that goes before its retry -/

/-- The name of an archive. -/
def sampleZip : String := "backup_standard_2026-01-01_03-00-00-000000.zip"

/-- The panel with the bot set up, after a backup. -/
def sampleVault : Vault String where
  db :=
    { users := [], usersSeq := 1, subscriptionPaths := [], userDevices := [], devicesSeq := 1
      settings :=
        [("backup_telegram_bot_token", "token"), ("backup_telegram_chat_id", "chat")] }
  backupLogs := AutoTable.empty.insert
    { operation := "backup", user := "SYSTEM", status := "SUCCESS", duration := "0.4"
      backupSize := 3, errorMessage := none, deliveryStatus := "PENDING", checksum := some "zip" }
  archives := [{ filename := sampleZip, mtime := 0, content := "zip" }]

/-- The delivery the backup has started. -/
def sampleDelivery : Delivery String where
  vault := sampleVault
  job := some 0
  attempts := 0

/-- The network is down, the admin deletes the archive, and the timer runs out. -/
def sampleEvents : List (DeliveryEvent String) :=
  [.attempt fun _ => .raised "timed out",
    .deleteBackup sampleZip "admin",
    .attempt fun _ => .answered 200 "ok"]

lemma scheduled_sampleDelivery : sampleDelivery.Scheduled id sampleZip 1 "zip" where
  tracked := ⟨⟨_, rfl, rfl⟩, fun a ha _ => by rw [List.mem_singleton.mp ha]; rfl⟩
  pending := rfl
  job := rfl
  early := Nat.zero_le _

/-- The network is back for the retry. -/
theorem delivery_settles_iff_sample :
    let s := sampleDelivery.run id sampleZip
      [.attempt fun _ => .raised "timed out", .attempt fun _ => .answered 200 "ok"]
    s.attempts ≤ 4 ∧ (s.status 1 = some "SENT" ∨ s.status 1 = some "FAILED") := by
  have h := delivery_settles_iff id sampleZip 1 "zip" sampleDelivery scheduled_sampleDelivery
    [.attempt fun _ => .raised "timed out", .attempt fun _ => .answered 200 "ok"]
  exact ⟨h.1, (h.2 (by decide)).mpr ⟨fun _ => by decide, fun _ => by decide, trivial⟩⟩

/-- The row of an archive that goes before its retry stays pending, with nothing scheduled. -/
theorem delivery_left_pending :
    sampleDelivery.Scheduled id sampleZip 1 "zip"
      ∧ (sampleDelivery.run id sampleZip sampleEvents).job = none
      ∧ (sampleDelivery.run id sampleZip sampleEvents).status 1 = some "PENDING" := by
  refine ⟨scheduled_sampleDelivery, ?_, ?_⟩
  · decide
  · decide

end V2raySub
