import V2raySub.Automation.Import
import V2raySub.User.Coherence
import V2raySub.Client.Rename

/-!
What a client reads in a subscription body (`generate_subscription_content`).

* `NumberedName`: the number of a config, alone or behind flags and a space;
  `numbered_getSubscriptionRemark` says that every name of a body is one.
* `noNewline_formatConfigRemark`: a line stays one line, whatever became of its link.
* `ListsPool`: the lines that list a pool, one by one and in its order.
* `body_lists_pool_iff`: the decoded body holds the two status lines and these, **exactly if the
  window of the device cap begins within the calendar**: else the status texts raise.
-/

namespace V2raySub

/-! ### Names with a number -/

/-- A flag: of a country, two regional indicators; of a region, a black flag and its tags. -/
inductive IsFlag : List Char → Prop where
  | country {c d : Char} : isRegional c → isRegional d → IsFlag [c, d]
  | region {c : Char} {tags : List Char} : c.toNat = 0x1f3f4 → tags ≠ [] →
      (∀ d ∈ tags, isFlagTag d) → IsFlag (c :: tags)

/-- A text of one or more flags. -/
def OfFlags (text : String) : Prop :=
  ∃ flags : List (List Char), text.toList = flags.flatten ∧ flags ≠ [] ∧ ∀ flag ∈ flags, IsFlag flag

/-- The number of a config, alone or behind flags and one space. -/
def NumberedName (index : ℕ) (name : String) : Prop :=
  name = toString index ∨ ∃ flags, OfFlags flags ∧ name = flags ++ " " ++ toString index

/-- What `extract_flags` finds is flags. -/
lemma flagChars_eq_flatten (cs : List Char) :
    ∃ flags : List (List Char), flagChars cs = flags.flatten ∧ ∀ flag ∈ flags, IsFlag flag := by
  induction cs using flagChars.induct with
  | case1 => exact ⟨[], rfl, nofun⟩
  | case2 c => exact ⟨[], rfl, nofun⟩
  | case3 c d rest h ih =>
      obtain ⟨flags, he, hflags⟩ := ih
      rw [Bool.and_eq_true] at h
      refine ⟨[c, d] :: flags, ?_, List.forall_mem_cons.mpr ⟨.country h.1 h.2, hflags⟩⟩
      rw [flagChars, if_pos (Bool.and_eq_true_iff.mpr h), he]
      rfl
  | case4 c d rest hpair h ih =>
      obtain ⟨flags, he, hflags⟩ := ih
      have hregion := h
      simp only [Bool.and_eq_true, decide_eq_true_eq] at hregion
      have htags : (d :: rest).takeWhile isFlagTag ≠ [] := by
        rw [List.takeWhile_cons, if_pos hregion.2]
        exact List.cons_ne_nil _ _
      refine ⟨(c :: (d :: rest).takeWhile isFlagTag) :: flags, ?_,
        List.forall_mem_cons.mpr ⟨.region hregion.1 htags fun e he => List.mem_takeWhile_imp he,
          hflags⟩⟩
      rw [flagChars, if_neg hpair, if_pos h, he]
      rfl
  | case5 c d rest hpair h ih =>
      obtain ⟨flags, he, hflags⟩ := ih
      refine ⟨flags, ?_, hflags⟩
      rw [flagChars, if_neg hpair, if_neg h, he]

lemma ofFlags_extractFlags {text : String} (h : extractFlags text ≠ "") :
    OfFlags (extractFlags text) := by
  obtain ⟨flags, he, hflags⟩ := flagChars_eq_flatten text.toList
  have htext : (extractFlags text).toList = flags.flatten := by
    rw [extractFlags, String.toList_ofList, he]
  refine ⟨flags, htext, fun hnil => h ?_, hflags⟩
  rw [hnil, List.flatten_nil] at htext
  exact String.toList_eq_nil_iff.mp htext

/-- A letter of a country code becomes half of its flag. -/
lemma isRegional_of_letter {c : Char} (h : 'A' ≤ c ∧ c ≤ 'Z') :
    isRegional (Char.ofNat (0x1f1e6 + (c.toNat - 'A'.toNat))) = true := by
  have hall : ∀ n < 26, isRegional (Char.ofNat (0x1f1e6 + n)) = true := by decide
  refine hall _ ?_
  have hlow : 'A'.toNat ≤ c.toNat := h.1
  have hhigh : c.toNat ≤ 'Z'.toNat := h.2
  have hspan : 'Z'.toNat = 'A'.toNat + 25 := rfl
  omega

lemma ofFlags_countryCodeToFlag {code : Option String} (h : countryCodeToFlag code ≠ "") :
    OfFlags (countryCodeToFlag code) := by
  rw [countryCodeToFlag] at h ⊢
  split_ifs at h ⊢ with hletters
  · generalize (PyText.stripChars (code.getD "").toList).flatMap upperChar = letters at hletters
    simp only [Bool.and_eq_true, decide_eq_true_eq, List.all_eq_true] at hletters
    obtain ⟨hlength, hall⟩ := hletters
    obtain ⟨c, d, rfl⟩ := List.length_eq_two.mp hlength
    have hc := isRegional_of_letter (hall c (by simp))
    have hd := isRegional_of_letter (hall d (by simp))
    refine ⟨[_], ?_, List.cons_ne_nil _ _, List.forall_mem_singleton.mpr (.country hc hd)⟩
    rw [String.toList_ofList]
    rfl
  · exact absurd rfl h

/-- Every name of a body is numbered. -/
lemma numbered_getSubscriptionRemark (lib : ConfigLib) (index : ℕ) (text : String) (t : ConfigType)
    (countryCode : Option String) :
    NumberedName index (getSubscriptionRemark lib index text t countryCode) := by
  rw [getSubscriptionRemark]
  split_ifs with hgeo
  · exact .inr ⟨_, ofFlags_countryCodeToFlag hgeo, rfl⟩
  · cases hremark : extractRemark lib text t with
    | none => exact .inl rfl
    | some remark =>
        rw [Option.map_some]
        dsimp only
        split_ifs with hflags
        · exact .inr ⟨_, ofFlags_extractFlags hflags, rfl⟩
        · exact .inl rfl

/-! ### Lines -/

variable {netlocOk : List Char → Bool} {json : JsonLib} {c s : String} {t : ConfigType}

lemma noNewline_quote (text : String) : '\n' ∉ (PyText.quote text).toList := fun h =>
  absurd (PyText.quote_visible h).1 (by decide)

lemma noNewline_b64encode (text : String) : '\n' ∉ (PyText.b64encode text).toList := by
  intro h
  have hdigit : ∀ n < 64, PyText.b64Digit n ≠ '\n' := by decide
  rw [PyText.b64encode, String.toList_ofList] at h
  rcases PyText.mem_b64Chars h with he | ⟨n, hn, he⟩
  · exact absurd he (by decide)
  · exact hdigit n hn he.symm

lemma noNewline_statusLine (text : String) :
    '\n' ∉ (SubscriptionService.statusLine text).toList := by
  have hstart : '\n' ∉ "trojan://status@127.0.0.1:443#".toList := by decide +kernel
  unfold SubscriptionService.statusLine
  rw [String.toList_append]
  intro h
  rcases List.mem_append.mp h with h | h
  · exact hstart h
  · exact noNewline_quote text h

lemma noNewline_beforeHash (h : '\n' ∉ c.toList) : '\n' ∉ (beforeHash c).toList := by
  rw [toList_beforeHash]
  exact fun hmem => h ((List.takeWhile_sublist _).mem hmem)

/-- A link that is put together again has none. -/
lemma noNewline_urlunsplit {u : PyText.SplitResult}
    (hu : PyText.urlsplit netlocOk c.toList = some u) (s : String) :
    '\n' ∉ (String.ofList (PyText.urlunsplit
      { u with fragment := (PyText.quote s).toList })).toList := by
  rw [String.toList_ofList]
  intro h
  exact absurd (PyText.isUnsafe_of_mem_urlunsplit hu (fun ch => isUnsafe_quote (s := s)) h)
    (by decide)

/-- **A line stays one line**, whatever becomes of the link. -/
lemma noNewline_formatConfigRemark (h : '\n' ∉ c.toList) :
    '\n' ∉ (formatConfigRemark (pyLib netlocOk json) c t s).toList := by
  have hparsed : t.isParsed → '\n' ∉ (formatConfigRemark (pyLib netlocOk json) c t s).toList := by
    intro ht
    cases hu : PyText.urlsplit netlocOk c.toList with
    | none =>
        simp only [formatConfigRemark_parsed ht, pyLib, hu, Option.map_none, Option.getD_none]
        exact h
    | some u =>
        rw [(renamed_of_urlsplit ht json s hu).1]
        exact noNewline_urlunsplit hu s
  cases t with
  | vless => exact hparsed rfl
  | trojan => exact hparsed rfl
  | hysteria2 => exact hparsed rfl
  | shadowsocks =>
      rw [formatConfigRemark, String.toList_append, String.toList_append, List.mem_append,
        List.mem_append, not_or, not_or]
      exact ⟨⟨noNewline_beforeHash h, by decide⟩, noNewline_quote s⟩
  | vmess =>
      rw [formatConfigRemark]
      split_ifs
      · split
        · rw [String.toList_append, List.mem_append, not_or]
          exact ⟨by decide, noNewline_b64encode _⟩
        · exact h
      · exact h

/-! ### The lines of a pool -/

/-- The links `format_config_remark` can rewrite. -/
def CanRewrite (netlocOk : List Char → Bool) (json : JsonLib) (c : String) : ConfigType → Prop
  | .shadowsocks => True
  | .vmess => startsWith "vmess://" c.toList
    ∧ ∃ data, (decodedBody (pyLib netlocOk json).toConfigLib c).bind json.loads = some (.obj data)
  | .vless | .trojan | .hysteria2 => (PyText.urlsplit netlocOk c.toList).isSome

/-- What can be rewritten shows its new name. -/
lemma extractRemark_of_canRewrite (hjson : json.Documented) (s : String)
    (h : CanRewrite netlocOk json c t) :
    extractRemark (pyLib netlocOk json).toConfigLib
      (formatConfigRemark (pyLib netlocOk json) c t s) t = some s := by
  have hparsed : t.isParsed → (PyText.urlsplit netlocOk c.toList).isSome →
      extractRemark (pyLib netlocOk json).toConfigLib
        (formatConfigRemark (pyLib netlocOk json) c t s) t = some s := by
    intro ht hsome
    obtain ⟨u, hu⟩ := Option.isSome_iff_exists.mp hsome
    exact (renamed_of_urlsplit ht json s hu).2
  cases t with
  | vless => exact hparsed rfl h
  | trojan => exact hparsed rfl h
  | hysteria2 => exact hparsed rfl h
  | shadowsocks => exact extractRemark_renamed_shadowsocks netlocOk json c s
  | vmess =>
      obtain ⟨hstart, data, hdoc⟩ := h
      exact (renamed_of_document hjson netlocOk s hstart hdoc).2.2

/-- The line of a config: its link under a numbered name, which it shows if it can be rewritten. -/
structure ListsConfig (netlocOk : List Char → Bool) (json : JsonLib) (index : ℕ) (row : ConfigRow)
    (line name : String) : Prop where
  numbered : NumberedName index name
  renamed : line = formatConfigRemark (pyLib netlocOk json) row.configText row.configType name
  remark : CanRewrite netlocOk json row.configText row.configType →
    extractRemark (pyLib netlocOk json).toConfigLib line row.configType = some name

/-- One line for each config of the pool, in its order, numbered from one. -/
structure ListsPool (netlocOk : List Char → Bool) (json : JsonLib) (pool : List ConfigRow)
    (lines : List String) : Prop where
  length : lines.length = pool.length
  line : ∀ i row, pool[i]? = some row → ∃ line name, lines[i]? = some line
    ∧ ListsConfig netlocOk json (i + 1) row line name

lemma listsPool_configLines (hjson : json.Documented) (netlocOk : List Char → Bool)
    (pool : List ConfigRow) :
    ListsPool netlocOk json pool (SubscriptionService.configLines (pyLib netlocOk json) pool) where
  length := List.length_mapIdx
  line := fun i row hrow => by
    refine ⟨_, _, ?_, numbered_getSubscriptionRemark (pyLib netlocOk json).toConfigLib (i + 1)
      row.configText row.configType row.countryCode, rfl, extractRemark_of_canRewrite hjson _⟩
    rw [SubscriptionService.configLines, List.getElem?_mapIdx, hrow, Option.map_some]
    rfl

/-! ### The body -/

/-- What a client decodes a body to. -/
def decodeBody (db : Db) (body : String) : Option String :=
  if getSetting db "output_format" "base64" = "base64" then PyText.b64decode? body else some body

lemma decodeBody_encode (db : Db) (content : String) :
    decodeBody db (SubscriptionService.encode db content) = some content := by
  rw [decodeBody, SubscriptionService.encode]
  split_ifs
  · exact PyText.b64decode?_b64encode content
  · rfl

/-- The window of the device cap begins on a date of the calendar. -/
def WindowInCalendar (now : Stamp) (db : Db) : Prop :=
  minSecs ≤ now.secs - deviceWindowDays db * daySecs
    ∧ now.secs - deviceWindowDays db * daySecs ≤ maxSecs

/-- The status texts raise where a cap has no window. -/
lemma getDummyStatusTexts_isSome_iff (now : Stamp) (user : UserRow) (db : Db) :
    (getDummyStatusTexts now user db).isSome
      ↔ user.maxDevices ≤ 0 ∨ WindowInCalendar now db := by
  rw [getDummyStatusTexts, Option.isSome_map, deviceText]
  split_ifs with hcap
  · rw [Option.isSome_map, deviceWindowCutoff, Option.isSome_iff_ne_none, ne_eq,
      Stamp.add?_eq_none_iff, WindowInCalendar]
    omega
  · exact iff_of_true rfl (.inl (not_lt.mp hcap))

/-- The configs of a body are served ones. -/
lemma mem_getAllConfigs {orders : ConfigService.Orders} {db : PanelDb} {row : ConfigRow}
    (h : row ∈ ConfigService.getAllConfigs orders db) :
    ∃ i, db.configs.get i = some row ∧ row.isServed := by
  obtain ⟨r, hr, rfl⟩ := List.mem_map.mp h
  rw [OrderBy.mem_sort, List.mem_filter] at hr
  exact ⟨r.1, AutoTable.get_eq_some_iff.mpr hr.1, hr.2⟩

/-- The body of a user decodes to the two status lines and a line for each config, one under
another. -/
def BodyLists (netlocOk : List Char → Bool) (json : JsonLib) (orders : ConfigService.Orders)
    (now : Stamp) (user : UserRow) (db : PanelDb) : Prop :=
  ∃ body content texts lines,
    SubscriptionService.generateSubscriptionContent (pyLib netlocOk json) orders now
      (some user) db = some body
    ∧ decodeBody db.toDb body = some content
    ∧ getDummyStatusTexts now user db.toDb = some texts
    ∧ PyText.splitOn '\n' content = SubscriptionService.statusLine texts.1
      :: SubscriptionService.statusLine texts.2 :: lines
    ∧ ListsPool netlocOk json (ConfigService.getAllConfigs orders db) lines

/-- Of the lines of a body none spans two. -/
lemma splitOn_body (json : JsonLib) (netlocOk : List Char → Bool) (orders : ConfigService.Orders)
    {db : PanelDb} (hsingle : ∀ i row, db.configs.get i = some row → row.isServed →
      '\n' ∉ row.configText.toList) (status : String × String) :
    PyText.splitOn '\n' ("\n".intercalate (SubscriptionService.statusLine status.1
        :: SubscriptionService.statusLine status.2
        :: SubscriptionService.configLines (pyLib netlocOk json)
          (ConfigService.getAllConfigs orders db)))
      = SubscriptionService.statusLine status.1 :: SubscriptionService.statusLine status.2
        :: SubscriptionService.configLines (pyLib netlocOk json)
          (ConfigService.getAllConfigs orders db) := by
  refine PyText.splitOn_intercalate (List.cons_ne_nil _ _) fun line hline => ?_
  rcases List.mem_cons.mp hline with rfl | hline
  · exact noNewline_statusLine _
  rcases List.mem_cons.mp hline with rfl | hline
  · exact noNewline_statusLine _
  obtain ⟨i, hi, rfl⟩ := List.mem_mapIdx.mp hline
  obtain ⟨j, hj, hserved⟩ := mem_getAllConfigs (List.getElem_mem hi)
  exact noNewline_formatConfigRemark (hsingle j _ hj hserved)

/-- **The body lists the pool.**  With single-line links, whatever the sort mode and the format, the
decoded body of a user is the two status lines and one line for each config, in the order of the
pool, exactly if the user has no device cap or its window begins within the calendar. -/
theorem body_lists_pool_iff (netlocOk : List Char → Bool) {json : JsonLib}
    (hjson : json.Documented) (orders : ConfigService.Orders) (now : Stamp) (user : UserRow)
    {db : PanelDb} (hsingle : ∀ i row, db.configs.get i = some row → row.isServed →
      '\n' ∉ row.configText.toList) :
    BodyLists netlocOk json orders now user db
      ↔ user.maxDevices ≤ 0 ∨ WindowInCalendar now db.toDb := by
  rw [← getDummyStatusTexts_isSome_iff]
  constructor
  · rintro ⟨body, content, texts, lines, -, -, htexts, -⟩
    rw [htexts]
    rfl
  · intro hsome
    obtain ⟨texts, htexts⟩ := Option.isSome_iff_exists.mp hsome
    have hcontent : SubscriptionService.generateSubscriptionContent (pyLib netlocOk json) orders
        now (some user) db
          = some (SubscriptionService.encode db.toDb ("\n".intercalate
            (SubscriptionService.statusLine texts.1 :: SubscriptionService.statusLine texts.2
              :: SubscriptionService.configLines (pyLib netlocOk json)
                (ConfigService.getAllConfigs orders db)))) := by
      simp only [SubscriptionService.generateSubscriptionContent, htexts]
      rfl
    exact ⟨_, _, texts, _, hcontent, decodeBody_encode _ _, htexts,
      splitOn_body json netlocOk orders hsingle texts, listsPool_configLines hjson netlocOk _⟩

/-- The panel of the sample user, his cap of one device, one config and a window. -/
def sampleWindow (days : String) : PanelDb where
  toDb := { sampleAdded with settings := [("device_window_days", days)] }
  configs := AutoTable.empty.insert ConfigImporter.sampleSlow
  configHealthHistory := .empty
  scanHistory := .empty
  autoSources := .empty

/-- The config of the sample has a single line. -/
lemma single_sampleWindow (days : String) : ∀ i row, (sampleWindow days).configs.get i = some row →
    row.isServed → '\n' ∉ row.configText.toList := by
  intro i row hrow _
  have hmem : (i, row) ∈ [(1, ConfigImporter.sampleSlow)] := AutoTable.get_eq_some_iff.mp hrow
  cases List.mem_singleton.mp hmem
  decide +kernel

/-- A window of seven days. -/
theorem body_lists_pool_iff_sample :
    ∃ user, (sampleWindow "7").user 1 = some user ∧ user.maxDevices = 1
      ∧ BodyLists (fun _ => true) sampleJson ConfigService.stableOrders (Stamp.day 1) user
        (sampleWindow "7") :=
  ⟨_, rfl, rfl, (body_lists_pool_iff (fun _ => true) documented_sampleJson
    ConfigService.stableOrders (Stamp.day 1) _ (single_sampleWindow "7")).mpr
      (.inr ⟨by decide +kernel, by decide +kernel⟩)⟩

/-- A window that begins before the first year: no body is made. -/
theorem overflowing_window_no_body :
    (∀ i row, (sampleWindow "1000000").configs.get i = some row → row.isServed →
        '\n' ∉ row.configText.toList)
      ∧ ∃ user, (sampleWindow "1000000").user 1 = some user ∧ user.maxDevices = 1
        ∧ SubscriptionService.generateSubscriptionContent samplePyLib ConfigService.stableOrders
          (Stamp.day 1) (some user) (sampleWindow "1000000") = none
        ∧ ¬BodyLists (fun _ => true) sampleJson ConfigService.stableOrders (Stamp.day 1) user
          (sampleWindow "1000000") := by
  have hnone : ∃ user, (sampleWindow "1000000").user 1 = some user ∧ user.maxDevices = 1
      ∧ SubscriptionService.generateSubscriptionContent samplePyLib ConfigService.stableOrders
        (Stamp.day 1) (some user) (sampleWindow "1000000") = none :=
    ⟨_, rfl, rfl, by decide +kernel⟩
  obtain ⟨user, huser, hcap, hnone⟩ := hnone
  refine ⟨single_sampleWindow _, user, huser, hcap, hnone, ?_⟩
  rintro ⟨body, content, texts, lines, hbody, -⟩
  exact absurd (hnone.symm.trans hbody) nofun

end V2raySub
