import V2raySub.Automation.Engine
import V2raySub.Automation.Health

/-!
Probing chosen configs on demand (`automation_service.py`, `AutomationService.run_manual_test`).

A probe that succeeds is recorded as in a health check; one that fails only moves `last_check`.
-/

namespace V2raySub
namespace ManualTest

/-- One entry of the answer. -/
structure Result where
  id : ℕ
  reachable : Bool
  latencyMs : Option ℕ
  error : Option String
  checkedAt : Stamp
  deriving DecidableEq

/-- What a call finds: whether both locks can be taken, whether something raises before the
engine has answered or while its answer is written, and the answer. -/
structure Env where
  locked : Bool
  readRaises : Option String
  reply : List ConfigEntry → EngineReply
  writeRaises : Option String

/-- `SELECT … WHERE status="active" AND id IN (…)`. -/
def wantedRows (t : AutoTable ConfigRow) (configIds : List ℕ) : List (ℕ × ConfigRow) :=
  t.rows.filter fun r => r.2.isActive && configIds.contains r.1

/-- `by_uri.get(text)`: the last result with that text. -/
def resultFor (results : List ProbeResult) (text : String) : Option ProbeResult :=
  (results.filter fun item => item.uri = text).getLast?

/-- `UPDATE configs SET last_check = ?`. -/
def setLastCheck (checkedAt : Stamp) (c : ConfigRow) : ConfigRow :=
  { c with lastCheck := some checkedAt }

/-- The `UPDATE` of one tested row. -/
def record (checkedAt : Stamp) (item : Option ProbeResult) (c : ConfigRow) : ConfigRow :=
  match item with
  | some ⟨_, _, true, some latency, _, _, _, _⟩ => c.recordSuccess checkedAt latency
  | _ => setLastCheck checkedAt c

/-- The answer about one tested row. -/
def answerFor (checkedAt : Stamp) (configId : ℕ) (item : Option ProbeResult) : Result :=
  let reachable := item.any ProbeResult.ok
  { id := configId
    reachable := reachable
    latencyMs := if reachable then item.bind ProbeResult.latencyMs else none
    error :=
      if reachable then none
      else match item with
        | none => some "موتور تست پاسخی برای این کانفیگ برنگرداند."
        | some item => item.error
    checkedAt := checkedAt }

/-- The loop over the tested rows. -/
def recordAll (checkedAt : Stamp) (results : List ProbeResult) :
    List (ℕ × ConfigRow) → AutoTable ConfigRow → AutoTable ConfigRow
  | [], t => t
  | r :: rows, t =>
    recordAll checkedAt results rows
      (t.set r.1 (record checkedAt (resultFor results r.2.configText)))

/-- `run_manual_test`: the tables, success, the message and the answers.  What raises while the
answers are written is rolled back with the connection. -/
def runManualTest (env : Env) (db : PanelDb) (configIds : List ℕ) (checkedAt : Stamp) :
    PanelDb × Bool × String × List Result :=
  if configIds = [] then (db, false, "هیچ کانفیگی برای تست انتخاب نشده است.", [])
  else if env.locked then
    (db, false, "یک اسکن در حال اجراست؛ پس از پایان آن دوباره تلاش کنید.", [])
  else
    match env.readRaises with
    | some e => (db, false, s!"خطا در اجرای تست: {e}", [])
    | none =>
      let rows := wantedRows db.configs configIds
      if rows = [] then (db, false, "کانفیگ انتخاب‌شده پیدا نشد.", [])
      else
        let reply := env.reply (rows.map fun r => r.2.entry)
        if reply.retCode ≠ 0 then (db, false, "اجرای موتور تست ناموفق بود.", [])
        else
          match parseResult reply.stdout with
          | .error _ => (db, false, "خواندن نتیجه‌ی تست ناموفق بود.", [])
          | .ok output =>
            match env.writeRaises with
            | some e => (db, false, s!"خطا در اجرای تست: {e}", [])
            | none =>
              let answers := rows.map fun r =>
                answerFor checkedAt r.1 (resultFor output.results r.2.configText)
              let okCount := answers.countP fun a => a.reachable
              let failCount := answers.length - okCount
              ({ db with configs := recordAll checkedAt output.results rows db.configs }, true,
                s!"تست انجام شد — {okCount} سالم، {failCount} ناموفق.", answers)

end ManualTest
end V2raySub
