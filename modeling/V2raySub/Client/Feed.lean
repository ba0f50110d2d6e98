import V2raySub.Automation.Import
import V2raySub.Client.Content
import V2raySub.V2RayDar.Document

/-!
A subscription as a source: what the panel serves to a user (`generate_subscription_content`) is
read by the engine of another panel (`parser/mod.rs`, `parse_subscription_document`).

* `subscription_feeds_engine`: **the engine finds every line that is a readable link, once**, in
  either output format.
-/

namespace V2raySub

open V2RayDar (Candidate DocumentLib PlainLink Readable parseSubscriptionDocument sampleDocuments)

/-- The lines of a body: some of the user, and one for each config. -/
lemma exists_lines_of_content {lib : LinkLib} {orders : ConfigService.Orders} {now : Stamp}
    {user : Option UserRow} {db : PanelDb} {body : String}
    (h : SubscriptionService.generateSubscriptionContent lib orders now user db = some body) :
    ∃ head, body = SubscriptionService.encode db.toDb ("\n".intercalate
      (head ++ SubscriptionService.configLines lib (ConfigService.getAllConfigs orders db))) := by
  cases user with
  | none => exact ⟨[], (Option.some.inj h).symm⟩
  | some user =>
      obtain ⟨head, -, hbody⟩ := Option.bind_eq_some_iff.mp h
      exact ⟨head, (Option.some.inj hbody).symm⟩

/-- **A subscription can be read as a source**: of the lines for the configs, those that are links
the engine can read are found in the body, and each of them once, whatever the output format, the
status lines and the other lines. -/
theorem subscription_feeds_engine {engine : DocumentLib} (hbase64 : engine.base64.Documented)
    (lib : LinkLib) (orders : ConfigService.Orders) (now : Stamp) (user : Option UserRow)
    (db : PanelDb) {body : String}
    (hbody : SubscriptionService.generateSubscriptionContent lib orders now user db = some body)
    {line : String}
    (hline : line ∈ SubscriptionService.configLines lib (ConfigService.getAllConfigs orders db))
    (hplain : PlainLink line) (hreadable : Readable engine.links line) (source : String)
    (priority : ℕ) :
    ((parseSubscriptionDocument engine source priority (PyText.utf8 body)).map
      Candidate.uri).count line = 1 := by
  obtain ⟨head, rfl⟩ := exists_lines_of_content hbody
  refine V2RayDar.reads_link_list hbase64 source priority
    (head ++ SubscriptionService.configLines lib (ConfigService.getAllConfigs orders db)) _ ?_
    (List.mem_append_right _ hline) hplain hreadable
  rw [SubscriptionService.encode]
  split_ifs
  · exact .inr rfl
  · exact .inl rfl

/-- The library functions on plain links. -/
def sampleFeedLib : LinkLib where
  toConfigLib := ConfigImporter.sampleConfigLib
  dumps := fun _ => ""
  withFragment := fun text fragment => some (beforeHash text ++ "#" ++ fragment)

def sampleFeedDb : PanelDb :=
  { HealthManager.samplePool with
    settings := []
    configs := AutoTable.empty.insert ConfigImporter.sampleSlow }

/-- A panel with one config, in the encoded format. -/
theorem subscription_feeds_engine_sample : ∃ body,
    SubscriptionService.generateSubscriptionContent sampleFeedLib ConfigService.stableOrders
        (Stamp.day 1) none sampleFeedDb = some body
      ∧ ((parseSubscriptionDocument (sampleDocuments []) "feed" 1 (PyText.utf8 body)).map
        Candidate.uri).count "trojan://pass@slow-auto.example:443#1" = 1 := by
  have hsafe :
      "trojan://pass@slow-auto.example:443#1".toList.all (!V2RayDar.isTokenBoundary ·) := by
    decide +kernel
  have hplain : PlainLink "trojan://pass@slow-auto.example:443#1" :=
    ⟨fun c hc => by simpa using List.all_eq_true.mp hsafe c hc, by decide +kernel,
      by decide +kernel⟩
  exact ⟨_, rfl, subscription_feeds_engine (fun bytes => PyText.a2bBase64_b64Chars bytes)
    sampleFeedLib ConfigService.stableOrders (Stamp.day 1) none sampleFeedDb rfl (by decide +kernel)
    hplain ⟨_, rfl⟩ _ _⟩

end V2raySub
