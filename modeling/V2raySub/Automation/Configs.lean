import V2raySub.Automation.Identity

/-!
The admin's operations on the pool (`config_service.py`): adding pasted links, switching,
deleting and reordering configs, and the renumbering that follows each of them.

* Every operation is one transaction followed by `renumberConfigs`, a transaction of its own;
  `Faults` says which of the two raises.
* The operations answer the new tables and the reply, `none` where they raise.
-/

namespace V2raySub
namespace ConfigService

/-! ### Reading pasted text -/

/-- The schemes `parse_configs` accepts, in lower case only. -/
def acceptedSchemes : List String :=
  ["vmess://", "vless://", "trojan://", "ss://", "hysteria2://", "hy2://"]

/-- `parse_configs`: the lines that start with an accepted scheme, with their types. -/
def parseConfigs (text : String) : List (String × ConfigType) :=
  ((PyText.splitOn '\n' (PyText.strip text)).map PyText.strip).filterMap fun line =>
    if acceptedSchemes.any fun scheme => startsWith scheme line.toList then
      (detectConfigType line).map (line, ·)
    else none

/-! ### Renumbering -/

/-- What a call decides besides its arguments: whether its own statements raise, and what becomes
of the renumbering after it, which swallows what its statements raise but not a failure to open
the database. -/
inductive RenumberFault where
  | none
  | statement
  | connect
  deriving DecidableEq

/-- The faults of one operation. -/
structure Faults where
  raised : Bool
  renumber : RenumberFault

/-- `ORDER BY sort_order ASC, created_at ASC`. -/
def Before (a b : ℕ × ConfigRow) : Prop :=
  a.2.sortOrder < b.2.sortOrder
    ∨ (a.2.sortOrder = b.2.sortOrder ∧ a.2.createdAt.secs ≤ b.2.createdAt.secs)

instance : DecidableRel Before := fun a b =>
  inferInstanceAs (Decidable (a.2.sortOrder < b.2.sortOrder
    ∨ (a.2.sortOrder = b.2.sortOrder ∧ a.2.createdAt.secs ≤ b.2.createdAt.secs)))

instance : Std.Total Before where
  total a b := by
    simp only [Before]
    omega

instance : IsTrans (ℕ × ConfigRow) Before where
  trans a b c := by
    simp only [Before]
    omega

/-- `UPDATE configs SET sort_order = ?`. -/
def setSortOrder (n : ℤ) (c : ConfigRow) : ConfigRow := { c with sortOrder := n }

/-- `for i, id in enumerate(ids, n): UPDATE configs SET sort_order = i WHERE id = id`. -/
def renumberFrom : ℤ → List ℕ → AutoTable ConfigRow → AutoTable ConfigRow
  | _, [], t => t
  | n, i :: ids, t => renumberFrom (n + 1) ids (t.set i (setSortOrder n))

/-- The statements of `renumber_configs`. -/
def renumbered (order : OrderBy (ℕ × ConfigRow) Before) (t : AutoTable ConfigRow) :
    AutoTable ConfigRow :=
  renumberFrom 1 ((order.sort (t.rows.filter fun r => r.2.isActive)).map Prod.fst) t

/-- `renumber_configs`; what raises after the connection is rolled back. -/
def renumberConfigs (order : OrderBy (ℕ × ConfigRow) Before) (fault : RenumberFault)
    (t : AutoTable ConfigRow) : AutoTable ConfigRow :=
  if fault = .none then renumbered order t else t

/-! ### Adding -/

/-- The columns `add_configs` inserts, the others at their defaults. -/
def newConfig (now : Stamp) (text : String) (configType : ConfigType) (sortOrder : ℤ) :
    ConfigRow :=
  { configText := text, configType := configType, createdAt := now, status := .active,
    sortOrder := sortOrder, isEnabled := true, source := none, mode := .manual,
    lastCheck := none, lastSuccess := none, latency := none, consecutiveFailures := some 0,
    healthStatus := .unknown, countryCode := none }

/-- `SELECT MAX(sort_order) FROM configs WHERE status = "active"`, `0` if there is none. -/
def maxSortOrder (t : AutoTable ConfigRow) : ℤ :=
  ((t.rows.filter fun r => r.2.isActive).map fun r => r.2.sortOrder).max?.getD 0

/-- The identities of the active configs. -/
def existingIdentities (lib : ConfigLib) (t : AutoTable ConfigRow) : List Identity :=
  (t.rows.filter fun r => r.2.isActive).map fun r => r.2.identity lib

/-- The loop of `add_configs`: the table, the numbers of configs added and of duplicates. -/
def addLoop (lib : ConfigLib) (now : Stamp) (startOrder : ℤ) :
    List (String × ConfigType) → AutoTable ConfigRow → List Identity → ℕ → ℕ →
      AutoTable ConfigRow × ℕ × ℕ
  | [], t, _, added, duplicates => (t, added, duplicates)
  | (text, configType) :: rest, t, identities, added, duplicates =>
    let identity := getConfigIdentity lib text configType
    if identity ∈ identities then
      addLoop lib now startOrder rest t identities added (duplicates + 1)
    else
      addLoop lib now startOrder rest
        (t.insert (newConfig now text configType (startOrder + added)))
        (identity :: identities) (added + 1) duplicates

/-- The answer of `add_configs`. -/
def addMessage (added duplicates : ℕ) : ℕ × ℕ × String :=
  if added = 0 ∧ 0 < duplicates then
    (added, duplicates,
      if duplicates = 1 then "این کانفیگ تکراری است و قبلاً اضافه شده است"
      else s!"تمام {duplicates} کانفیگ وارد شده تکراری هستند")
  else if added = 0 then (0, 0, "هیچ کانفیگ جدیدی اضافه نشد")
  else
    let msg := s!"{added} کانفیگ با موفقیت اضافه شد"
    (added, duplicates,
      if 0 < duplicates then msg ++ s!" ({duplicates} مورد تکراری نادیده گرفته شد)" else msg)

/-- `add_configs`. -/
def addConfigs (lib : ConfigLib) (order : OrderBy (ℕ × ConfigRow) Before) (faults : Faults)
    (now : Stamp) (db : PanelDb) (configText : String) : PanelDb × Option (ℕ × ℕ × String) :=
  let parsed := parseConfigs configText
  if parsed = [] then (db, some (0, 0, "هیچ کانفیگ معتبری پیدا نشد"))
  else if faults.raised then (db, none)
  else
    let added := addLoop lib now (maxSortOrder db.configs + 1) parsed db.configs
      (existingIdentities lib db.configs) 0 0
    if 0 < added.2.1 then
      ({ db with configs := renumberConfigs order faults.renumber added.1 },
        if faults.renumber = .connect then none else some (addMessage added.2.1 added.2.2))
    else ({ db with configs := added.1 }, some (addMessage added.2.1 added.2.2))

/-! ### Switching, deleting, reordering -/

/-- `UPDATE configs SET is_enabled = ?`. -/
def setEnabled (enabled : Bool) (c : ConfigRow) : ConfigRow := { c with isEnabled := enabled }

/-- `UPDATE configs SET status = "deleted"`. -/
def setDeleted (c : ConfigRow) : ConfigRow := { c with status := .deleted }

/-- `set_config_enabled_status`. -/
def setConfigEnabledStatus (order : OrderBy (ℕ × ConfigRow) Before) (faults : Faults)
    (db : PanelDb) (configId : ℕ) (enabled : Bool) : PanelDb × Bool × String :=
  if faults.raised then (db, false, "خطا در تغییر وضعیت کانفیگ")
  else
    match db.configs.get configId with
    | none => (db, false, "کانفیگ پیدا نشد")
    | some _ =>
      let configs := renumberConfigs order faults.renumber
        (db.configs.set configId (setEnabled enabled))
      if faults.renumber = .connect then
        ({ db with configs := configs }, false, "خطا در تغییر وضعیت کانفیگ")
      else ({ db with configs := configs }, true, "وضعیت کانفیگ با موفقیت تغییر کرد.")

/-- `delete_config`. -/
def deleteConfig (order : OrderBy (ℕ × ConfigRow) Before) (faults : Faults) (db : PanelDb)
    (configId : ℕ) : PanelDb × Option (Bool × String) :=
  if faults.raised then (db, none)
  else
    let configs := renumberConfigs order faults.renumber (db.configs.set configId setDeleted)
    ({ db with configs := configs },
      if faults.renumber = .connect then none
      else some (true, "کانفیگ با موفقیت حذف شد"))

/-- `bulk_delete_configs`. -/
def bulkDeleteConfigs (order : OrderBy (ℕ × ConfigRow) Before) (faults : Faults) (db : PanelDb)
    (ids : List ℕ) : PanelDb × Bool × String :=
  if ids = [] then (db, false, "هیچ موردی انتخاب نشده است")
  else if faults.raised then (db, false, "خطا در حذف موارد")
  else
    let configs := renumberConfigs order faults.renumber
      (db.configs.update (fun i _ => i ∈ ids) setDeleted)
    ({ db with configs := configs },
      if faults.renumber = .connect then (false, "خطا در حذف موارد")
      else (true, s!"{ids.length} کانفیگ با موفقیت حذف شدند"))

/-- `reorder_configs`. -/
def reorderConfigs (order : OrderBy (ℕ × ConfigRow) Before) (faults : Faults) (db : PanelDb)
    (orderList : List ℕ) : PanelDb × Bool × String :=
  if orderList = [] then (db, false, "لیست ترتیب خالی است")
  else if faults.raised then (db, false, "خطا در ذخیره ترتیب")
  else
    let configs := renumberConfigs order faults.renumber (renumberFrom 1 orderList db.configs)
    ({ db with configs := configs },
      if faults.renumber = .connect then (false, "خطا در ذخیره ترتیب")
      else (true, "ترتیب با موفقیت ذخیره شد"))

/-! ### What a renumbering leaves alone -/

/-- A renumbering changes `sort_order` only. -/
lemma get_renumberFrom (n : ℤ) (ids : List ℕ) (t : AutoTable ConfigRow) (i : ℕ) :
    ∃ m : Option ℤ, (renumberFrom n ids t).get i = (t.get i).map fun c =>
      setSortOrder (m.getD c.sortOrder) c := by
  induction ids generalizing n t with
  | nil =>
      refine ⟨none, ?_⟩
      rw [renumberFrom]
      cases t.get i <;> rfl
  | cons j ids ih =>
      obtain ⟨m, hm⟩ := ih (n + 1) (t.set j (setSortOrder n))
      rw [renumberFrom, hm, AutoTable.get_set]
      by_cases hij : i = j
      · refine ⟨some (m.getD n), ?_⟩
        rw [if_pos hij]
        cases t.get i <;> rfl
      · exact ⟨m, by rw [if_neg hij]⟩

lemma get_renumberConfigs (order : OrderBy (ℕ × ConfigRow) Before) (fault : RenumberFault)
    (t : AutoTable ConfigRow) (i : ℕ) :
    ∃ m : Option ℤ, (renumberConfigs order fault t).get i = (t.get i).map fun c =>
      setSortOrder (m.getD c.sortOrder) c := by
  rw [renumberConfigs]
  split_ifs
  · exact get_renumberFrom 1 _ t i
  · refine ⟨none, ?_⟩
    cases t.get i <;> rfl

end ConfigService
end V2raySub
