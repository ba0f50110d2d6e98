import V2raySub.Automation.Scan

/-!
What a scan leaves behind (`automation_service.py`, `run_scan`).

* `Quiet`: the locks, the history and the fate of its last update are as before; `Closes`: the
  other rows of the history and the locks are as before, and whoever answers has finished the row
  of the scan.  `Closes.before` and `Closes.after` put quiet pieces around the piece that does so.
* `PreludeRaises`: something raises between the locks and the `try`.
* `runScan_cleansUp_iff`: exactly when a scan that got both locks cleans up after itself.
-/

namespace V2raySub
namespace AutomationService

open Prog (Keeps Spec)

/-! ### Pieces that touch neither the locks nor the history -/

/-- The locks, the history and the fate of the last update are as before. -/
structure Quiet (s t : World) : Prop where
  scanLock : t.scanLock = s.scanLock
  fileLock : t.fileLock = s.fileLock
  scanHistory : t.db.scanHistory = s.db.scanHistory
  lastUpdate : t.lastUpdate = s.lastUpdate

lemma Quiet.refl (s : World) : Quiet s s := ⟨rfl, rfl, rfl, rfl⟩

lemma Quiet.trans (s t u : World) (h : Quiet s t) (h' : Quiet t u) : Quiet s u :=
  ⟨h'.scanLock.trans h.scanLock, h'.fileLock.trans h.fileLock,
    h'.scanHistory.trans h.scanHistory, h'.lastUpdate.trans h.lastUpdate⟩

variable {α β : Type} {env : Env} {scanId : Option ℕ}

lemma quiet_pure (a : α) : Keeps Quiet (pure a : Run α) := .pure Quiet.refl a

lemma quiet_state : Keeps Quiet (Prog.state : Run World) := .state Quiet.refl

lemma quiet_bind {m : Run α} {f : α → Run β} (hm : Keeps Quiet m) (hf : ∀ a, Keeps Quiet (f a)) :
    Keeps Quiet (m >>= f) := .bind Quiet.trans hm hf

/-- An operation of the database counts, and does nothing else here. -/
lemma quiet_op : Keeps Quiet (op env) := fun _ => ⟨rfl, rfl, rfl, rfl⟩

lemma quiet_isCancelRequested : Keeps Quiet (isCancelRequested env) :=
  fun _ => ⟨rfl, rfl, rfl, rfl⟩

/-- The engine runs outside. -/
lemma quiet_runSubprocess (input : EngineInput) : Keeps Quiet (runSubprocess env input) :=
  fun _ => ⟨rfl, rfl, rfl, rfl⟩

lemma quiet_query (select : PanelDb → α) : Keeps Quiet (query env select) :=
  quiet_bind quiet_op fun _ => quiet_bind quiet_op fun _ => quiet_bind quiet_state fun _ =>
    quiet_bind quiet_op fun _ => quiet_pure _

/-- A session whose work leaves `Q` where it answers and `P` where it raises leaves `Q`. -/
lemma spec_session {P : World → Prop} {Q : α → World → Prop}
    (hP : ∀ s t, Quiet s t → P s → P t) (hQ : ∀ a s t, Quiet s t → Q a s → Q a t) {default : α}
    (hd : ∀ w, P w → Q default w) {work : Run α} (hw : Spec P work Q fun _ => P) :
    Spec P (session env default work) Q fun _ _ => True := by
  have hop : ∀ {P' : World → Prop}, (∀ s t, Quiet s t → P' s → P' t) →
      Spec P' (op env) (fun _ => P') fun _ _ => True := fun h =>
    (quiet_op.spec h).mono (fun _ hs => hs) (fun _ _ hs => hs) fun _ _ _ => trivial
  refine Spec.bind (hop hP) fun _ => Spec.always (F := fun _ _ => True)
    (hw.handle fun _ => Spec.bind (hop hP) fun _ => .pure default hd) (fun a => ?_) fun _ => ?_
  · exact hop (hQ a)
  · exact hop fun _ _ _ hs => hs

/-- A session keeps what its work keeps and an operation leaves alone. -/
lemma keeps_session {R : World → World → Prop} (ht : ∀ s t u, R s t → R t u → R s u)
    (hq : ∀ s t, Quiet s t → R s t) {default : α} {work : Run α} (hw : Keeps R work) :
    Keeps R (session env default work) := by
  have hop : Keeps R (op env) := quiet_op.mono hq
  have hd : Keeps R (pure default : Run α) := (quiet_pure default).mono hq
  exact .bind ht hop fun _ => .always ht (.handle ht hw fun _ => .bind ht hop fun _ => hd) hop

/-- A session is as quiet as its work. -/
lemma quiet_session {default : α} {work : Run α} (hw : Keeps Quiet work) :
    Keeps Quiet (session env default work) := keeps_session Quiet.trans (fun _ _ h => h) hw

/-- A commit of something else than the history. -/
lemma quiet_commit {f : PanelDb → PanelDb} (h : ∀ db, (f db).scanHistory = db.scanHistory) :
    Keeps Quiet (commit env f) :=
  quiet_bind quiet_op fun _ => .change fun s => ⟨rfl, rfl, h s.db, rfl⟩

/-- A setting is read in a session of its own. -/
lemma quiet_setting (key default : String) : Keeps Quiet (setting env key default) :=
  quiet_bind quiet_op fun _ => quiet_bind quiet_state fun _ => quiet_pure _

/-- A setting that is a number. -/
lemma quiet_intSetting (key default : String) : Keeps Quiet (intSetting env key default) := by
  refine quiet_bind (quiet_setting key default) fun raw => ?_
  cases PyText.intOfStr? raw with
  | none => exact .raise Quiet.refl _
  | some n => exact quiet_pure n

/-- A setting with bounds. -/
lemma quiet_getValidatedInt (key : String) (default low high : ℤ) :
    Keeps Quiet (getValidatedInt env key default low high) :=
  quiet_bind (quiet_setting _ _) fun _ => quiet_pure _

lemma quiet_probeTimeoutArgs : Keeps Quiet (probeTimeoutArgs env) :=
  .ite (quiet_bind (quiet_getValidatedInt _ _ _ _) fun _ => quiet_pure _) (quiet_pure _)

/-- The sources are written, not the history. -/
lemma quiet_updateSourceMetadata (name : String) (error : Option String) :
    Keeps Quiet (updateSourceMetadata env name error) :=
  quiet_session (quiet_bind quiet_op fun _ => quiet_bind quiet_state fun _ =>
    quiet_commit fun _ => rfl)

/-- A loop is as quiet as its body. -/
lemma quiet_each {xs : List β} {f : β → Run Unit} (hf : ∀ x, Keeps Quiet (f x)) :
    Keeps Quiet (Prog.each xs f) := .each Quiet.trans Quiet.refl hf

/-- The chunks of the second look, one by one. -/
lemma quiet_refineChunks (chunkTimeout : ℤ) (timeoutArgs : Option ℤ)
    (chunks : List (List ProbeResult)) (refined : List (String × ℕ)) :
    Keeps Quiet (refineChunks env chunkTimeout timeoutArgs chunks refined) := by
  induction chunks generalizing refined with
  | nil => exact quiet_pure _
  | cons chunk chunks ih =>
      rw [refineChunks]
      refine quiet_bind quiet_isCancelRequested fun _ => quiet_bind quiet_state fun _ =>
        .ite (quiet_pure _) (quiet_bind (quiet_runSubprocess _) fun reply => .ite (ih _) ?_)
      cases parseResult reply.stdout with
      | error e => exact ih _
      | ok output => exact ih _

/-- The whole second look. -/
lemma quiet_refinementPass (results : List ProbeResult) (target : ℤ) :
    Keeps Quiet (refinementPass env results target) :=
  quiet_bind (quiet_setting _ _) fun _ => .ite (quiet_pure _)
    (quiet_bind (quiet_getValidatedInt _ _ _ _) fun _ =>
      quiet_bind (quiet_getValidatedInt _ _ _ _) fun _ =>
        quiet_bind quiet_probeTimeoutArgs fun _ =>
          quiet_bind (quiet_refineChunks _ _ _ _) fun _ => quiet_pure _)

/-- An import writes the pool and the health history. -/
lemma scanHistory_importDiscoveredConfigs (e : ConfigImporter.Env) (k : ConfigImporter.Scan)
    (db : PanelDb) (results : List ProbeResult) :
    (ConfigImporter.importDiscoveredConfigs e k db results).1.scanHistory = db.scanHistory := by
  rw [ConfigImporter.importDiscoveredConfigs]
  split
  · split_ifs <;> rfl
  · rfl

/-- So does a health check. -/
lemma scanHistory_processHealthResults (e : HealthManager.Env) (db : PanelDb)
    (results : List ProbeResult) (scanTime now : Stamp) (scanId : Option ℕ) :
    (HealthManager.processHealthResults e db results scanTime now scanId).1.scanHistory
      = db.scanHistory := by
  rw [HealthManager.processHealthResults]
  split
  · rfl
  · split_ifs <;> rfl

/-- The import writes the configs and not the history. -/
lemma quiet_importDiscoveredConfigs (results : List ProbeResult) :
    Keeps Quiet (importDiscoveredConfigs env scanId results) :=
  quiet_session (quiet_bind (quiet_intSetting _ _) fun _ => quiet_bind (quiet_intSetting _ _)
    fun _ => quiet_bind quiet_op fun _ => quiet_bind quiet_state fun _ =>
      quiet_bind (quiet_commit fun db => scanHistory_importDiscoveredConfigs _ _ db results)
        fun _ => quiet_pure _)

/-- The health check writes the configs and not the history. -/
lemma quiet_processHealthResults (results : List ProbeResult) :
    Keeps Quiet (processHealthResults env scanId results) :=
  quiet_session (quiet_bind (quiet_intSetting _ _) fun _ => quiet_bind quiet_op fun _ =>
    quiet_bind quiet_state fun _ =>
      quiet_bind (quiet_commit fun db => scanHistory_processHealthResults _ db results _ _ _)
        fun _ => quiet_pure _)

lemma quiet_countSources (sources : List SourceEntry) :
    Keeps Quiet (countSources env sources) :=
  quiet_bind quiet_op fun _ =>
    quiet_bind (quiet_each fun _ => .ite quiet_op (quiet_pure _)) fun _ =>
      quiet_bind (quiet_commit fun _ => rfl) fun _ => quiet_op

lemma quiet_targetCount (earlyStop : Bool) (maxActive activeCount : ℤ) :
    Keeps Quiet (targetCount env earlyStop maxActive activeCount) :=
  .ite (quiet_bind (quiet_intSetting _ _) fun _ => quiet_pure _) (quiet_pure _)

/-! ### Pieces that finish the row of the scan -/

/-- The row of the scan is finished, or its last update was not committed. -/
def Final (scanId : Option ℕ) (w : World) : Prop :=
  ∀ i r, scanId = some i → w.db.scanHistory.get i = some r → r.status = .running →
    w.lastUpdate = some false

/-- It stays so. -/
lemma Final.quiet {s t : World} (h : Quiet s t) (hf : Final scanId s) : Final scanId t := by
  intro i r hi hr hrun
  rw [h.scanHistory] at hr
  rw [h.lastUpdate]
  exact hf i r hi hr hrun

/-- The locks and the other rows of the history are as before. -/
structure Frame (scanId : Option ℕ) (s t : World) : Prop where
  scanLock : t.scanLock = s.scanLock
  fileLock : t.fileLock = s.fileLock
  others : ∀ i, some i ≠ scanId → t.db.scanHistory.get i = s.db.scanHistory.get i

/-- Two pieces in a row. -/
lemma Frame.trans (s t u : World) (h : Frame scanId s t) (h' : Frame scanId t u) :
    Frame scanId s u :=
  ⟨h'.scanLock.trans h.scanLock, h'.fileLock.trans h.fileLock,
    fun i hi => (h'.others i hi).trans (h.others i hi)⟩

/-- A quiet piece leaves all of this alone. -/
lemma Quiet.frame (s t : World) (h : Quiet s t) : Frame scanId s t :=
  ⟨h.scanLock, h.fileLock, fun i _ => by rw [h.scanHistory]⟩

/-- The piece keeps the locks and the other rows, and it does not answer before the row of the scan
is finished. -/
structure Closes (scanId : Option ℕ) (m : Run α) : Prop where
  frame : Keeps (Frame scanId) m
  final : Spec (fun _ => True) m (fun _ => Final scanId) (fun _ _ => True)

namespace Closes

/-- A quiet piece may go before. -/
lemma before {m : Run α} {f : α → Run β} (hm : Keeps Quiet m) (hf : ∀ a, Closes scanId (f a)) :
    Closes scanId (m >>= f) where
  frame := .bind Frame.trans (hm.mono Quiet.frame) fun a => (hf a).frame
  final := (hm.spec fun _ _ _ h => h).bind fun a => (hf a).final

/-- A quiet piece may come after. -/
lemma after {m : Run α} {f : α → Run β} (hm : Closes scanId m) (hf : ∀ a, Keeps Quiet (f a)) :
    Closes scanId (m >>= f) where
  frame := .bind Frame.trans hm.frame fun a => (hf a).mono Quiet.frame
  final := hm.final.bind fun a => ((hf a).spec fun _ _ h hs => hs.quiet h).mono
    (fun _ h => h) (fun _ _ h => h) fun _ _ _ => trivial

/-- Both sides of a branch finish the row. -/
lemma ite {c : Prop} [Decidable c] {m m' : Run α} (h : Closes scanId m) (h' : Closes scanId m') :
    Closes scanId (if c then m else m') := ⟨.ite h.frame h'.frame, .ite h.final h'.final⟩

end Closes

/-- The update writes the row of the scan alone. -/
lemma frame_finishScan (i : ℕ) (e : MetricsRecorder.Ending) :
    Keeps (Frame (some i)) (finishScan env i e) := by
  refine .bind Frame.trans (quiet_op.mono Quiet.frame) fun _ => .change fun s => ⟨rfl, rfl, ?_⟩
  intro j hj
  exact AutoTable.get_set_of_ne _ _ fun h => hj (congrArg some h)

/-- An update writes the row or leaves the mark that it did not. -/
lemma final_finishScan (i : ℕ) {e : MetricsRecorder.Ending} (he : e.status ≠ .running) :
    Spec (fun w => w.lastUpdate = some false) (finishScan env i e) (fun _ => Final (some i))
      (fun _ w => w.lastUpdate = some false) := by
  refine Spec.bind (quiet_op.spec fun s t h hs => h.lastUpdate.trans hs) fun _ => ?_
  intro s _
  refine ⟨fun a s' h => ?_, fun e s' h => by cases h⟩
  cases h
  rintro _ r ⟨⟩ hr hrun
  rw [AutoTable.get_set_self] at hr
  obtain ⟨r₀, -, rfl⟩ := Option.map_eq_some_iff.mp hr
  exact absurd hrun he

/-- **The update finishes the row**, if it writes another status than `running`. -/
theorem closes_updateScanHistory (scanId : Option ℕ) {e : MetricsRecorder.Ending}
    (he : e.status ≠ .running) : Closes scanId (updateScanHistory env scanId e) := by
  cases scanId with
  | none =>
      refine ⟨(quiet_pure ()).mono Quiet.frame, .pure () fun _ _ => ?_⟩
      rintro i r ⟨⟩
  | some i =>
      have hmark : ∀ w : World, w.lastUpdate = some false → Final (some i) w :=
        fun w h _ _ _ _ _ => h
      refine ⟨.bind Frame.trans (.change fun s => ⟨rfl, rfl, fun _ _ => rfl⟩) fun _ =>
        keeps_session Frame.trans Quiet.frame (.bind Frame.trans (quiet_op.mono Quiet.frame)
          fun _ => frame_finishScan i e), ?_⟩
      refine Spec.bind (R := fun _ => Final (some i)) (Q := fun _ w => w.lastUpdate = some false)
        ?_ fun _ => ?_
      · exact fun s _ => ⟨fun a s' h => by cases h; rfl, fun e s' h => by cases h⟩
      · refine spec_session (Q := fun _ => Final (some i))
          (fun s t h hs => h.lastUpdate.trans hs) (fun _ s t h hs => hs.quiet h) hmark ?_
        exact Spec.bind (quiet_op.spec fun s t h hs => h.lastUpdate.trans hs) fun _ =>
          final_finishScan i he

/-- Where there is nothing to do, the row is finished. -/
lemma closes_skip (msg : String) : Closes scanId (skip env scanId msg) :=
  (closes_updateScanHistory scanId (by simp)).after fun _ => quiet_pure _

/-- `endStatus` never answers `running`. -/
lemma closes_endStatus {status : ScanStatus} (hs : status ≠ .running) {f : ScanStatus → Run α}
    (hf : ∀ st, st ≠ .running → Closes scanId (f st)) :
    Closes scanId (endStatus env status >>= f) := by
  have hcases : ∀ w, (endStatus env status >>= f) w
      = f (if env.cancelled w.asked then .cancelled else status)
        { w with asked := w.asked + 1 } := fun _ => rfl
  have hne : ∀ b : Bool, (if b then .cancelled else status) ≠ ScanStatus.running := by
    intro b
    cases b with
    | true => simp
    | false => exact hs
  refine ⟨fun w => ?_, fun w _ => ?_⟩
  · rw [hcases]
    have h := (hf _ (hne (env.cancelled w.asked))).frame { w with asked := w.asked + 1 }
    exact ⟨h.scanLock, h.fileLock, h.others⟩
  · rw [hcases]
    exact (hf _ (hne _)).final _ trivial

/-- Where the worker failed, the row is finished. -/
lemma closes_recordWorkerFailure (reply : EngineReply) :
    Closes scanId (recordWorkerFailure env scanId reply) :=
  closes_endStatus (by simp) fun _ hst => .before quiet_isCancelRequested fun _ =>
    closes_updateScanHistory scanId hst

/-- Where its answer cannot be read, the row is finished. -/
lemma closes_recordParseFailure (reply : EngineReply) (e : String) :
    Closes scanId (recordParseFailure env scanId reply e) :=
  closes_endStatus (by simp) fun _ hst => closes_updateScanHistory scanId hst

/-- Where an exception was raised, the row is finished. -/
lemma closes_failed (e : String) : Closes scanId (failed env scanId e) :=
  closes_endStatus (by simp) fun _ hst =>
    (closes_updateScanHistory scanId hst).after fun _ => quiet_pure _

/-- Where the discovery went through, the row is finished. -/
lemma closes_finishDiscovery (sources : List SourceEntry) (target durationMs : ℤ)
    (output : WorkerOutput) :
    Closes scanId (finishDiscovery env scanId sources target durationMs output) :=
  .before (quiet_refinementPass _ _) fun _ => .before (quiet_importDiscoveredConfigs _) fun _ =>
    .before (quiet_each fun _ => quiet_updateSourceMetadata _ _) fun _ =>
      closes_endStatus (by simp) fun _ hst =>
        (closes_updateScanHistory scanId hst).after fun _ => quiet_pure _

lemma closes_discover (maxActive activeCount : ℤ) (sources : List SourceEntry) :
    Closes scanId (discover env scanId maxActive activeCount sources) := by
  refine .before (quiet_countSources _) fun _ => .before (quiet_getValidatedInt _ _ _ _) fun _ =>
    .before (quiet_setting _ _) fun _ => .before (quiet_targetCount _ _ _) fun _ =>
      .before (quiet_getValidatedInt _ _ _ _) fun _ =>
        .before (quiet_getValidatedInt _ _ _ _) fun _ =>
          .before (quiet_getValidatedInt _ _ _ _) fun _ => .before quiet_probeTimeoutArgs fun _ =>
            .before (quiet_runSubprocess _) fun reply => .ite ?_ ?_
  · exact (closes_recordWorkerFailure reply).after fun _ =>
      quiet_bind quiet_isCancelRequested fun _ =>
        quiet_bind (quiet_each fun _ => quiet_updateSourceMetadata _ _) fun _ => quiet_pure _
  · cases parseResult reply.stdout with
    | error e => exact (closes_recordParseFailure reply e).after fun _ => quiet_pure _
    | ok output => exact closes_finishDiscovery _ _ _ output

/-- A discovery finishes the row however it ends. -/
lemma closes_discovery (sourceId : Option ℕ) : Closes scanId (discovery env sourceId scanId) :=
  .before (quiet_intSetting _ _) fun _ => .before (quiet_setting _ _) fun _ =>
    .before (quiet_query _) fun _ => .ite (closes_skip _) (.before (quiet_query _) fun _ =>
      .ite (closes_skip _) (closes_discover _ _ _))

/-- Where the health check went through, the row is finished. -/
lemma closes_finishHealthCheck (durationMs : ℤ) (output : WorkerOutput) :
    Closes scanId (finishHealthCheck env scanId durationMs output) :=
  .before (quiet_processHealthResults _) fun _ => closes_endStatus (by simp) fun _ hst =>
    (closes_updateScanHistory scanId hst).after fun _ => quiet_pure _

/-- A health check finishes the row however it ends. -/
lemma closes_healthCheck : Closes scanId (healthCheck env scanId) := by
  refine .before (quiet_query _) fun _ => .ite (closes_skip _) ?_
  refine .before (quiet_getValidatedInt _ _ _ _) fun _ =>
    .before (quiet_getValidatedInt _ _ _ _) fun _ =>
      .before (quiet_getValidatedInt _ _ _ _) fun _ => .before quiet_probeTimeoutArgs fun _ =>
        .before (quiet_runSubprocess _) fun reply => .ite ?_ ?_
  · exact (closes_recordWorkerFailure reply).after fun _ => quiet_pure _
  · cases parseResult reply.stdout with
    | error e => exact (closes_recordParseFailure reply e).after fun _ => quiet_pure _
    | ok output => exact closes_finishHealthCheck _ output

/-- In a mode that exists, the `try` with its handler finishes the row. -/
theorem closes_guarded {mode : String} (hm : mode = "discovery" ∨ mode = "health_check")
    (sourceId scanId : Option ℕ) : Closes scanId (guarded env mode sourceId scanId) := by
  have hbody : Closes scanId (body env mode sourceId scanId) := by
    refine .before quiet_op fun _ => ?_
    rcases hm with rfl | rfl
    · rw [if_pos rfl]
      exact closes_discovery sourceId
    · rw [if_neg (by decide), if_pos rfl]
      exact closes_healthCheck
  exact ⟨.handle Frame.trans hbody.frame fun e => (closes_failed e).frame,
    hbody.final.handle fun e => (closes_failed e).final⟩

/-- In a mode that does not, the `try` answers at once. -/
lemma frame_guarded (mode : String) (sourceId scanId : Option ℕ) :
    Keeps (Frame scanId) (guarded env mode sourceId scanId) := by
  by_cases hm : mode = "discovery" ∨ mode = "health_check"
  · exact (closes_guarded hm sourceId scanId).frame
  · rw [not_or] at hm
    refine .handle Frame.trans (Keeps.mono ?_ Quiet.frame) fun e => (closes_failed e).frame
    rw [body, if_neg hm.1, if_neg hm.2]
    exact quiet_bind quiet_op fun _ => quiet_pure _

/-- A mode that is none of the two is answered without a word in the history. -/
lemma guarded_of_unknown {mode : String} (hd : mode ≠ "discovery") (hh : mode ≠ "health_check")
    (sourceId scanId : Option ℕ) {w : World} (hf : env.fault w.ops = none) :
    guarded env mode sourceId scanId w
      = (.ok (false, s!"Unknown scan mode: {mode}"), { w with ops := w.ops + 1 }) := by
  have hop : op env w = (.ok (), { w with ops := w.ops + 1 }) := by rw [op, hf]; rfl
  refine Prog.handle_of_ok ?_
  rw [body, Prog.bind_of_ok hop, if_neg hd, if_neg hh]
  rfl

/-- If `locate_v2raydar()` raises, the handler finishes the row, whatever the mode. -/
lemma guarded_of_fault (mode : String) (sourceId scanId : Option ℕ) {w : World} {e : String}
    (hf : env.fault w.ops = some e) :
    guarded env mode sourceId scanId w = failed env scanId e { w with ops := w.ops + 1 } := by
  have hop : op env w = (.error e, { w with ops := w.ops + 1 }) := by rw [op, hf]; rfl
  exact Prog.handle_of_error (Prog.bind_of_error hop)

/-! ### Between the locks and the `try` -/

/-- Something raises after the locks were taken and before the `try` is entered. -/
def PreludeRaises (env : Env) (mode : String) (sourceId : Option ℕ) : Prop :=
  (mode = "discovery" ∧ sourceId.isSome ∧ env.scope.isSome) ∨ env.record.connect.isSome
    ∨ (env.record.insert.isSome ∧ env.record.rollback.isSome) ∨ env.record.close.isSome

/-- The row of the scan was inserted as `running`, or its `INSERT` failed. -/
inductive Begun (env : Env) (w : World) : Option ℕ → World → Prop where
  | recorded (row : ScanRow) (hi : env.record.insert = none) (hr : row.status = .running) :
    Begun env w (some w.db.scanHistory.next)
      { w with
        db := { w.db with scanHistory := w.db.scanHistory.insert row }
        lastUpdate := none }
  | unrecorded (hi : env.record.insert.isSome) : Begun env w none w

/-- The scope of a discovery of one source is looked up, and the lookup may fail. -/
lemma sourceScope_cases (env : Env) (mode : String) (sourceId : Option ℕ) (w : World) :
    (mode = "discovery" ∧ sourceId.isSome ∧ env.scope.isSome
      ∧ ∃ e, sourceScope env mode sourceId w = (.error e, w))
    ∨ ¬(mode = "discovery" ∧ sourceId.isSome ∧ env.scope.isSome)
      ∧ ∃ scope, sourceScope env mode sourceId w = (.ok scope, w) := by
  by_cases hm : mode = "discovery"
  · cases sourceId with
    | none =>
        rw [sourceScope, if_pos hm]
        exact .inr ⟨by simp, _, rfl⟩
    | some i =>
        rw [sourceScope, if_pos hm]
        cases h : env.scope with
        | none => exact .inr ⟨by simp, _, rfl⟩
        | some e => exact .inl ⟨hm, rfl, rfl, e, rfl⟩
  · rw [sourceScope.eq_def, if_neg hm]
    exact .inr ⟨fun h => hm h.1, _, rfl⟩

/-- `record_scan_history` raises through one of its faults, or it answers. -/
lemma recordScanHistory_cases (env : Env) (row : ScanRow) (hr : row.status = .running)
    (w : World) :
    ((env.record.connect.isSome ∨ (env.record.insert.isSome ∧ env.record.rollback.isSome)
        ∨ env.record.close.isSome)
      ∧ ∃ e w', recordScanHistory env row w = (.error e, w') ∧ w'.scanLock = w.scanLock)
    ∨ ¬(env.record.connect.isSome ∨ (env.record.insert.isSome ∧ env.record.rollback.isSome)
        ∨ env.record.close.isSome)
      ∧ ∃ scanId w', recordScanHistory env row w = (.ok scanId, w') ∧ Begun env w scanId w' := by
  cases hc : env.record.connect with
  | some e =>
      refine .inl ⟨.inl rfl, e, w, ?_, rfl⟩
      simp only [recordScanHistory, hc]
      rfl
  | none =>
      cases hi : env.record.insert with
      | none =>
          cases hcl : env.record.close with
          | some e =>
              refine .inl ⟨by simp, e, (insertScan row w).2, ?_, rfl⟩
              simp only [recordScanHistory, hc, hi, hcl]
              rfl
          | none =>
              refine .inr ⟨by simp, _, _, ?_, .recorded row hi hr⟩
              simp only [recordScanHistory, hc, hi, hcl]
              rfl
      | some ei =>
          cases hro : env.record.rollback with
          | some er =>
              cases hcl : env.record.close with
              | some e =>
                  refine .inl ⟨by simp, e, w, ?_, rfl⟩
                  simp only [recordScanHistory, hc, hi, hro, hcl]
                  rfl
              | none =>
                  refine .inl ⟨by simp, er, w, ?_, rfl⟩
                  simp only [recordScanHistory, hc, hi, hro, hcl]
                  rfl
          | none =>
              cases hcl : env.record.close with
              | some e =>
                  refine .inl ⟨by simp, e, w, ?_, rfl⟩
                  simp only [recordScanHistory, hc, hi, hro, hcl]
                  rfl
              | none =>
                  refine .inr ⟨by simp, _, _, ?_, .unrecorded (by rw [hi]; rfl)⟩
                  simp only [recordScanHistory, hc, hi, hro, hcl]
                  rfl

/-- The prelude raises with `SCAN_LOCK` as it was, or it answers with the row. -/
lemma prelude_cases (env : Env) (mode : String) (sourceId : Option ℕ) (w : World) :
    (PreludeRaises env mode sourceId
      ∧ ∃ e w', prelude env mode sourceId w = (.error e, w') ∧ w'.scanLock = w.scanLock)
    ∨ ¬PreludeRaises env mode sourceId
      ∧ ∃ scanId w', prelude env mode sourceId w = (.ok scanId, w') ∧ Begun env w scanId w' := by
  rcases sourceScope_cases env mode sourceId w with ⟨hm, hs, hsc, e, he⟩ | ⟨hno, scope, hok⟩
  · exact .inl ⟨.inl ⟨hm, hs, hsc⟩, e, w, Prog.bind_of_error he, rfl⟩
  · rw [prelude, Prog.bind_of_ok hok]
    rcases recordScanHistory_cases env (MetricsRecorder.running mode env.startedAt
      (env.now 0) env.jobId scope) rfl w with ⟨h, hr⟩ | ⟨h, hr⟩
    · exact .inl ⟨.inr h, hr⟩
    · exact .inr ⟨fun hp => hp.elim hno h, hr⟩

/-! ### The whole function -/

/-- What a scan is to leave behind: both locks released and, if it answered, no row of its own
still `running`, unless the last update of it was not committed. -/
def CleansUp (w : World) (out : Except String Answer × World) : Prop :=
  out.2.scanLock = false ∧ out.2.fileLock = false
    ∧ ∀ answer, out.1 = .ok answer → ∀ i r, w.db.scanHistory.get i = none →
        out.2.db.scanHistory.get i = some r → r.status = .running → out.2.lastUpdate = some false

/-- The condition under which it does. -/
def CleanRun (env : Env) (mode : String) (sourceId : Option ℕ) (w : World) : Prop :=
  ¬PreludeRaises env mode sourceId ∧ env.closeLock = none
    ∧ ((mode = "discovery" ∨ mode = "health_check") ∨ env.record.insert.isSome
      ∨ (env.fault w.ops).isSome)

/-- A lock that is left behind is not cleaned up. -/
lemma not_cleansUp_of_scanLock {w : World} {out : Except String Answer × World}
    (h : out.2.scanLock = true) : ¬CleansUp w out := by
  rintro ⟨hs, -⟩
  rw [h] at hs
  cases hs

/-- The world once both locks are taken. -/
def World.locked (w : World) : World := { w with scanLock := true, fileLock := true }

/-- The world once both are released. -/
def World.unlocked (w : World) : World := { w with scanLock := false, fileLock := false }

/-- With both locks free the scan takes them. -/
lemma runScan_of_free {mode : String} {sourceId : Option ℕ} {w : World}
    (hs : w.scanLock = false) (hf : env.fileFree) :
    runScan env mode sourceId w = held env mode sourceId w.locked := by
  show (if w.scanLock then pure alreadyRunning
    else if !env.fileFree then pure alreadyRunning
    else Prog.change World.locked >>= fun _ => held env mode sourceId : Run Answer) w = _
  rw [hs, hf]
  rfl

/-- The `finally` releases both locks if the file can be closed. -/
lemma always_releaseLocks (m : Run α) {w : World} (h : env.closeLock = none) :
    m.always (releaseLocks env) w = ((m w).1, (m w).2.unlocked) := by
  rw [Prog.always, releaseLocks, h]
  rfl

/-- Where closing the file fails, both locks stay. -/
lemma always_releaseLocks_of_fault (m : Run α) {w : World} {e : String}
    (h : env.closeLock = some e) : m.always (releaseLocks env) w = (.error e, (m w).2) := by
  rw [Prog.always, releaseLocks, h]
  rfl

section
variable {mode : String} {sourceId : Option ℕ} {w w' : World}

lemma Begun.scanLock (h : Begun env w scanId w') : w'.scanLock = w.scanLock := by cases h <;> rfl

lemma Begun.ops (h : Begun env w scanId w') : w'.ops = w.ops := by cases h <;> rfl

/-- The only new row is that of the scan. -/
lemma Begun.get_of_ne (h : Begun env w scanId w') {i : ℕ} (hi : w.db.scanHistory.get i = none)
    (hne : some i ≠ scanId) : w'.db.scanHistory.get i = none := by
  cases h with
  | unrecorded _ => exact hi
  | recorded row _ _ =>
      have hn : i ≠ w.db.scanHistory.next := fun e => hne (congrArg some e)
      show (w.db.scanHistory.insert row).get i = none
      rw [AutoTable.get_insert, if_neg hn, hi]

/-- A program that keeps the other rows and ends with the row finished leaves no row of this scan
as `running`. -/
lemma cleansUp_of_final (hb : Begun env w.locked scanId w') {m : Run Answer}
    (hframe : Keeps (Frame scanId) m)
    (hfinal : ∀ a s, m w' = (.ok a, s) → Final scanId s) :
    CleansUp w ((m w').1, (m w').2.unlocked) := by
  refine ⟨rfl, rfl, fun answer ha i r hnew hr hrun => ?_⟩
  have hget : (m w').2.db.scanHistory.get i = some r := hr
  by_cases hi : some i = scanId
  · exact hfinal answer (m w').2 (Prod.ext ha rfl) i r hi.symm hget hrun
  · rw [(hframe w').others i hi, hb.get_of_ne hnew hi] at hget
    cases hget

/-- Past the prelude: what the rest does, by its cases. -/
lemma cleansUp_guarded_iff (hb : Begun env w.locked scanId w') :
    CleansUp w ((guarded env mode sourceId scanId w').1,
        (guarded env mode sourceId scanId w').2.unlocked)
      ↔ (mode = "discovery" ∨ mode = "health_check") ∨ env.record.insert.isSome
        ∨ (env.fault w.ops).isSome := by
  have hops : w'.ops = w.ops := hb.ops
  have hframe : Keeps (Frame scanId) (guarded env mode sourceId scanId) :=
    frame_guarded mode sourceId scanId
  by_cases hm : mode = "discovery" ∨ mode = "health_check"
  · refine iff_of_true ?_ (.inl hm)
    exact cleansUp_of_final hb hframe
      fun a s h => ((closes_guarded hm sourceId scanId).final w' trivial).1 a s h
  · cases hf : env.fault w.ops with
    | some e =>
        refine iff_of_true ?_ (.inr (.inr rfl))
        refine cleansUp_of_final hb hframe fun a s h => ?_
        rw [guarded_of_fault mode sourceId scanId (hops ▸ hf)] at h
        exact ((closes_failed e).final _ trivial).1 a s h
    | none =>
        have hu := guarded_of_unknown (fun h => hm (.inl h)) (fun h => hm (.inr h)) sourceId scanId
          (w := w') (hops ▸ hf)
        cases hb with
        | unrecorded hi =>
            refine iff_of_true (cleansUp_of_final (.unrecorded hi) hframe fun a s h => ?_)
              (.inr (.inl hi))
            rintro i r ⟨⟩
        | recorded row hi hr =>
            -- the row is still there as it was inserted, and nothing tried to finish it
            refine iff_of_false (fun h => ?_) (by simp [hm, hi])
            rw [hu] at h
            have hrow := h.2.2 _ rfl w.db.scanHistory.next row (AutoTable.get_next _)
              (by simp [World.unlocked, World.locked, AutoTable.get_insert]) hr
            cases hrow

/-- A scan that got both locks cleans up after itself exactly if nothing raises between the locks
and the `try`, closing the lock file raises nothing, and its mode exists, or its row was not
inserted, or `locate_v2raydar()` raises. -/
theorem runScan_cleansUp_iff (env : Env) (mode : String) (sourceId : Option ℕ) (w : World)
    (hs : w.scanLock = false) (hf : env.fileFree) :
    CleansUp w (runScan env mode sourceId w) ↔ CleanRun env mode sourceId w := by
  rw [runScan_of_free hs hf, CleanRun]
  rcases prelude_cases env mode sourceId w.locked with
    ⟨hp, e, w', he, hw'⟩ | ⟨hp, scanId, w', hok, hb⟩
  · have hlock : (held env mode sourceId w.locked).2.scanLock = true := by
      rw [held, Prog.bind_of_error he]
      exact hw'
    exact iff_of_false (not_cleansUp_of_scanLock hlock) fun h => h.1 hp
  · rw [held, Prog.bind_of_ok hok]
    cases hc : env.closeLock with
    | some e =>
        rw [always_releaseLocks_of_fault _ hc]
        refine iff_of_false (not_cleansUp_of_scanLock ?_) fun h => by simp at h
        exact ((frame_guarded mode sourceId scanId w').scanLock).trans hb.scanLock
    | none =>
        rw [always_releaseLocks _ hc, cleansUp_guarded_iff hb]
        exact ⟨fun h => ⟨hp, rfl, h⟩, fun h => h.2.2⟩

end

/-! ### A panel with one served config -/

/-- Its tables. -/
def sampleServed : PanelDb :=
  { HealthManager.samplePool with
    configs := AutoTable.empty.insert { HealthManager.sampleOff with isEnabled := true } }

/-- No scan is running. -/
def sampleWorld : World := ⟨sampleServed, false, false, 0, 0, 0, none⟩

/-- What the engine answers about it. -/
def sampleOutput : WorkerOutput :=
  { schemaVersion := 1, success := true, workerVersion := "0.4.0", jobId := "f00d",
    durationMs := 900, results := [{ HealthManager.sampleTimeout with
      reachable := true, latencyMs := some 120, error := none }], error := none }

/-- A run in which nothing raises. -/
def sampleEnv : Env where
  fileFree := true
  scope := none
  record := ⟨none, none, none, none⟩
  fault := fun _ => none
  closeLock := none
  cancelled := fun _ => false
  engine := fun _ _ => ⟨0, .ok sampleOutput, "", 1000⟩
  supportsTimeout := true
  countConfigs := fun _ => none
  overBudget := fun _ => false
  startedAt := Stamp.day 1
  jobId := "f00d"
  now := fun _ => Stamp.day 1
  intError := fun text => s!"invalid literal for int() with base 10: '{text}'"
  lib := ConfigImporter.sampleConfigLib
  order := fun _ => .stable
  configFetch := fun _ _ => .prefer fun _ => true
  sourceFetch := fun _ => .prefer fun _ => true

/-- The same run with the database file out of reach while the row is to be inserted. -/
def sampleLocked : Env :=
  { sampleEnv with record := ⟨some "unable to open database file", none, none, none⟩ }

theorem runScan_cleansUp_iff_sample :
    CleansUp sampleWorld (runScan sampleEnv "health_check" none sampleWorld)
    ∧ ¬CleansUp sampleWorld (runScan sampleLocked "health_check" none sampleWorld) := by
  have hquiet : ¬PreludeRaises sampleEnv "health_check" none := by
    simp [PreludeRaises, sampleEnv]
  refine ⟨(runScan_cleansUp_iff sampleEnv "health_check" none sampleWorld rfl rfl).mpr
    ⟨hquiet, rfl, .inl (.inr rfl)⟩, fun h => ?_⟩
  exact ((runScan_cleansUp_iff sampleLocked "health_check" none sampleWorld rfl rfl).mp h).1
    (.inr (.inl rfl))

/-- A health check whose row cannot be inserted keeps both locks, and a scan in a mode that does
not exist leaves its row `running`. -/
theorem scan_leaves_locks_and_row :
    ¬CleansUp sampleWorld (runScan sampleLocked "health_check" none sampleWorld)
    ∧ ¬CleansUp sampleWorld (runScan sampleEnv "full" none sampleWorld) := by
  refine ⟨not_cleansUp_of_scanLock rfl, fun h => ?_⟩
  have hrow := h.2.2 _ rfl 1 (MetricsRecorder.running "full" (Stamp.day 1) (Stamp.day 1) "f00d" none)
    rfl (by decide +kernel) rfl
  cases hrow

end AutomationService
end V2raySub
