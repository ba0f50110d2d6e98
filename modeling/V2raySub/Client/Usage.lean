import V2raySub.Base.Buckets
import V2raySub.Client.Subscription

/-!
The usage charts of the panel (`get_usage_stats` of `services/statistics_service.py`).

* `getUsageStats`: the totals of a range, its buckets by the hour or by the day, and the counts by
  client.
* `AddsUp`: what the chart shows is what it counts.
* `usage_adds_up_iff`: the chart adds up **exactly if every access of the range is on it**: before
  the current second for a range in hours, on one of the dates it lists for one in days.
-/

namespace V2raySub

open Buckets

/-! ### Dates -/

/-- A number with at least two digits. -/
def twoDigits (n : ℤ) : String := if n < 10 then "0" ++ toString n else toString n

/-- `strftime('%H:%M')` of a second of the wall clock. -/
def clockText (t : ℤ) : String :=
  twoDigits (t % daySecs / 3600) ++ ":" ++ twoDigits (t % 3600 / 60)

/-- `strftime('%Y-%m-%d')` of a day, counted from 1970-01-01; the years are counted in eras of four
centuries that begin in March. -/
def dateText (day : ℤ) : String :=
  let z := day + 719468
  let era := z / 146097
  let doe := z % 146097
  let yoe := (doe - doe / 1460 + doe / 36524 - doe / 146096) / 365
  let doy := doe - (365 * yoe + yoe / 4 - yoe / 100)
  let mp := (5 * doy + 2) / 153
  let month := if mp < 10 then mp + 3 else mp - 9
  let year := yoe + era * 400 + if month ≤ 2 then 1 else 0
  toString year ++ "-" ++ twoDigits month ++ "-" ++ twoDigits (doy - (153 * mp + 2) / 5 + 1)

example : dateText (-1) = "1969-12-31" ∧ dateText 11016 = "2000-02-29" := by decide

/-! ### The ranges -/

/-- `range_map`, in seconds. -/
def rangeMap : List (String × ℤ) :=
  [("1h", 3600), ("6h", 6 * 3600), ("12h", 12 * 3600), ("24h", 24 * 3600), ("7d", 7 * daySecs),
    ("30d", 30 * daySecs), ("90d", 90 * daySecs)]

/-- `delta`. -/
def rangeDelta (rangeVal : String) : ℤ := (rangeMap.lookup rangeVal).getD (24 * 3600)

/-- `use_hourly`. -/
def useHourly (rangeVal : String) : Bool := ["1h", "6h", "12h", "24h"].contains rangeVal

/-! ### The buckets -/

/-- A bucket of the chart: its label, and the seconds of the wall clock that fall into it. -/
structure Bucket where
  label : String
  holds : ℤ → Bool

/-- The buckets of a range in hours; each begins at its hour before `now` and ends before the
next. -/
def hourlyBuckets (now : ℤ) (hours : ℕ) : List Bucket :=
  (List.range hours).map fun (i : ℕ) =>
    let bucketStart := now - (hours - i) * 3600
    let bucketEnd := now - (hours - i - 1) * 3600
    ⟨clockText bucketStart, fun t => bucketStart ≤ t ∧ t < bucketEnd⟩

/-- The first date of a range in days. -/
def startDate (now : ℤ) (days : ℕ) : ℤ := now / daySecs - (days - 1)

/-- The buckets of a range in days: the dates up to today. -/
def dailyBuckets (now : ℤ) (days : ℕ) : List Bucket :=
  (List.range days).map fun (i : ℕ) =>
    ⟨dateText (startDate now days + i), fun t => t / daySecs = startDate now days + i⟩

/-- The number of the buckets. -/
def bucketCount (rangeVal : String) : ℕ :=
  (rangeDelta rangeVal / if useHourly rangeVal then 3600 else daySecs).toNat

/-- The buckets of a range. -/
def bucketsOf (now : ℤ) (rangeVal : String) : List Bucket :=
  if useHourly rangeVal then hourlyBuckets now (bucketCount rangeVal)
  else dailyBuckets now (bucketCount rangeVal)

/-! ### The answer -/

/-- `CLIENTS`. -/
def clients : List Client :=
  [.v2rayNG, .v2rayN, .hiddify, .napsternetV, .streisand, .flClash, .karing, .nekobox, .clash,
    .shadowrocket, .singBox, .browserBot, .other]

/-- The answer; `total_requests` is also `today_total` and `successful_downloads`, and `unique_ips`
also `today_unique`. -/
structure UsageStats where
  labels : List String
  data : List ℕ
  uniqueData : List ℕ
  range : String
  totalRequests : ℕ
  uniqueIps : ℕ
  topPaths : List (String × ℕ)
  clientStats : List (Client × ℕ)

/-- The rows with the status `SUCCESS`. -/
def successes (logs : AutoTable AccessRow) : List AccessRow :=
  (logs.rows.map Prod.snd).filter fun r => r.status = .success

/-- The paths of the rows with the numbers of their rows: `GROUP BY request_path`. -/
def pathCounts (rows : List AccessRow) : List (String × ℕ) :=
  ((rows.map AccessRow.requestPath).filter (· ≠ "")).dedup.map fun path =>
    (path, rows.countP fun r => r.requestPath = path)

/-- `ORDER BY count DESC`. -/
def MoreFrequent (a b : String × ℕ) : Prop := b.2 ≤ a.2

instance : DecidableRel MoreFrequent := fun a b => inferInstanceAs (Decidable (b.2 ≤ a.2))

instance : Std.Total MoreFrequent := ⟨fun a b => Nat.le_total b.2 a.2⟩

instance : IsTrans (String × ℕ) MoreFrequent := ⟨fun _ _ _ h h' => Nat.le_trans h' h⟩

/-- `get_usage_stats`, called at `now`.  `localtime` is the wall clock of an instant, in seconds
since 1970-01-01 00:00:00, for the database and for `datetime.now()` alike; instants are compared by
their texts to the second, which are in the order of the seconds. -/
def getUsageStats (localtime : Stamp → ℤ) (order : OrderBy (String × ℕ) MoreFrequent) (now : Stamp)
    (logs : AutoTable AccessRow) (rangeVal : String) : UsageStats :=
  let since := localtime now - rangeDelta rangeVal
  let counted := (successes logs).filter fun r => since ≤ localtime r.accessedAt
  let buckets := bucketsOf (localtime now) rangeVal
  { labels := buckets.map Bucket.label
    data := buckets.map fun b => (successes logs).countP fun r => b.holds (localtime r.accessedAt)
    uniqueData := buckets.map fun b => distinct AccessRow.ipAddress
      ((successes logs).filter fun r => b.holds (localtime r.accessedAt))
    range := rangeVal
    totalRequests := counted.length
    uniqueIps := distinct AccessRow.ipAddress counted
    topPaths := (order.sort (pathCounts counted)).take 10
    clientStats := clients.map fun c =>
      (c, counted.countP fun r => parseUserAgent r.userAgent = c) }

/-! ### What the buckets cover -/

/-- The second of the wall clock is in a bucket: before `now` for a range in hours, else on one of
the dates up to today. -/
def Charted (now : ℤ) (rangeVal : String) (t : ℤ) : Prop :=
  if useHourly rangeVal then t < now
  else startDate now (bucketCount rangeVal) ≤ t / daySecs ∧ t / daySecs ≤ now / daySecs

/-- The seconds of the buckets together. -/
def InRange (now : ℤ) (rangeVal : String) (t : ℤ) : Prop :=
  if useHourly rangeVal then
    Covered (now - bucketCount rangeVal * 3600) 3600 (bucketCount rangeVal) t
  else Covered (startDate now (bucketCount rangeVal)) 1 (bucketCount rangeVal) (t / daySecs)

instance (now : ℤ) (rangeVal : String) (t : ℤ) : Decidable (Charted now rangeVal t) :=
  inferInstanceAs (Decidable (ite _ _ _))

instance (now : ℤ) (rangeVal : String) (t : ℤ) : Decidable (InRange now rangeVal t) :=
  inferInstanceAs (Decidable (ite _ _ _))

/-- The widths of the buckets make up the range. -/
lemma bucketCount_mul (rangeVal : String) :
    (bucketCount rangeVal : ℤ) * (if useHourly rangeVal then 3600 else daySecs)
      = rangeDelta rangeVal := by
  by_cases hmem : rangeVal ∈ ["1h", "6h", "12h", "24h", "7d", "30d", "90d"]
  · simp only [List.mem_cons, List.not_mem_nil, or_false] at hmem
    rcases hmem with rfl | rfl | rfl | rfl | rfl | rfl | rfl <;> decide
  · have hdelta : rangeDelta rangeVal = 24 * 3600 := by
      simp only [List.mem_cons, List.not_mem_nil, or_false, not_or] at hmem
      simp [rangeDelta, rangeMap, List.lookup_cons, beq_eq_false_iff_ne.mpr, hmem]
    have hhourly : useHourly rangeVal = false := by
      simp only [List.mem_cons, List.not_mem_nil, or_false, not_or] at hmem
      simp [useHourly, hmem]
    rw [bucketCount, hdelta, hhourly]
    decide

/-- What is in the range is what is charted of what the totals count. -/
lemma inRange_iff {now : ℤ} {rangeVal : String} {t : ℤ} :
    InRange now rangeVal t ↔ now - rangeDelta rangeVal ≤ t ∧ Charted now rangeVal t := by
  have hcount := bucketCount_mul rangeVal
  rw [InRange, Charted]
  cases hhourly : useHourly rangeVal with
  | true =>
      simp only [hhourly, if_true, Covered] at hcount ⊢
      omega
  | false =>
      simp only [hhourly, Bool.false_eq_true, if_false, Covered, startDate, daySecs] at hcount ⊢
      omega

/-- The buckets count each row of the range once. -/
lemma sum_buckets (now : ℤ) (rangeVal : String) (rows : List AccessRow) (time : AccessRow → ℤ) :
    ((bucketsOf now rangeVal).map fun b => rows.countP fun r => b.holds (time r)).sum
      = rows.countP fun r => InRange now rangeVal (time r) := by
  rw [bucketsOf]
  cases hhourly : useHourly rangeVal with
  | true =>
      have hcovered : (fun r => decide (InRange now rangeVal (time r))) = fun r => decide (Covered
          (now - bucketCount rangeVal * 3600) 3600 (bucketCount rangeVal) (time r)) := by
        funext r
        simp only [InRange, hhourly, if_true]
      rw [hcovered, ← sum_countP_inBucket (by decide), if_pos rfl, hourlyBuckets, List.map_map]
      congr 1
      refine List.map_congr_left fun i _ => List.countP_congr fun r _ => ?_
      rw [decide_eq_true_eq, decide_eq_true_eq, InBucket]
      omega
  | false =>
      have hcovered : (fun r => decide (InRange now rangeVal (time r))) = fun r => decide (Covered
          (startDate now (bucketCount rangeVal)) 1 (bucketCount rangeVal) (time r / daySecs)) := by
        funext r
        simp only [InRange, hhourly, Bool.false_eq_true, if_false]
      rw [hcovered, ← sum_countP_inBucket (by decide), if_neg Bool.false_ne_true, dailyBuckets,
        List.map_map]
      congr 1
      refine List.map_congr_left fun i _ => List.countP_congr fun r _ => ?_
      rw [decide_eq_true_eq, decide_eq_true_eq, InBucket]
      omega

/-- What a bucket holds is in the range. -/
lemma inRange_of_holds {now : ℤ} {rangeVal : String} {b : Bucket} (hb : b ∈ bucketsOf now rangeVal)
    {t : ℤ} (h : b.holds t = true) : InRange now rangeVal t := by
  rw [bucketsOf] at hb
  cases hhourly : useHourly rangeVal with
  | true =>
      rw [hhourly, if_pos rfl, hourlyBuckets] at hb
      obtain ⟨i, hi, rfl⟩ := List.mem_map.mp hb
      rw [List.mem_range] at hi
      rw [decide_eq_true_eq] at h
      simp only [InRange, hhourly, if_true, Covered]
      omega
  | false =>
      rw [hhourly, if_neg Bool.false_ne_true, dailyBuckets] at hb
      obtain ⟨i, hi, rfl⟩ := List.mem_map.mp hb
      rw [List.mem_range] at hi
      rw [decide_eq_true_eq] at h
      simp only [InRange, hhourly, Bool.false_eq_true, if_false, Covered]
      omega

/-! ### The chart -/

/-- The chart shows what it counts: the buckets make up the total, none has more addresses than
accesses or than there are in all, and the clients make up the total too. -/
structure AddsUp (s : UsageStats) : Prop where
  lengths : s.data.length = s.labels.length ∧ s.uniqueData.length = s.labels.length
  total : s.data.sum = s.totalRequests
  unique : ∀ x ∈ s.data.zip s.uniqueData, x.2 ≤ x.1 ∧ x.2 ≤ s.uniqueIps
  clients : (s.clientStats.map Prod.snd).sum = s.totalRequests

/-- Every client has its name in the list. -/
lemma mem_clients (c : Client) : c ∈ clients := by cases c <;> decide

/-- **The usage chart adds up** exactly if every successful access of the range is in a bucket:
none in the current second or later for a range in hours, none on a date before the first or after
today for a range in days. -/
theorem usage_adds_up_iff (localtime : Stamp → ℤ) (order : OrderBy (String × ℕ) MoreFrequent)
    (now : Stamp) (logs : AutoTable AccessRow) (rangeVal : String) :
    AddsUp (getUsageStats localtime order now logs rangeVal)
      ↔ ∀ r ∈ successes logs, localtime now - rangeDelta rangeVal ≤ localtime r.accessedAt →
        Charted (localtime now) rangeVal (localtime r.accessedAt) := by
  have hin : ∀ r ∈ successes logs, InRange (localtime now) rangeVal (localtime r.accessedAt) →
      localtime now - rangeDelta rangeVal ≤ localtime r.accessedAt :=
    fun r _ h => (inRange_iff.mp h).1
  have htotal : (getUsageStats localtime order now logs rangeVal).data.sum
      = (getUsageStats localtime order now logs rangeVal).totalRequests
      ↔ ∀ r ∈ successes logs, localtime now - rangeDelta rangeVal ≤ localtime r.accessedAt →
        Charted (localtime now) rangeVal (localtime r.accessedAt) := by
    simp only [getUsageStats]
    rw [sum_buckets (localtime now) rangeVal _ fun r => localtime r.accessedAt,
      ← List.countP_eq_length_filter, countP_eq_countP_iff hin]
    refine forall₂_congr fun r _ => forall_congr' fun hsince => ?_
    rw [inRange_iff, and_iff_right hsince]
  refine ⟨fun h => htotal.mp h.total, fun h => ⟨?_, htotal.mpr h, ?_, ?_⟩⟩
  · simp only [getUsageStats, List.length_map, and_self]
  · intro x hx
    simp only [getUsageStats, List.zip_map', List.mem_map] at hx
    obtain ⟨b, hb, rfl⟩ := hx
    constructor
    · rw [List.countP_eq_length_filter]
      exact distinct_le_length _ _
    · refine distinct_le_of_subset _ fun r hr => ?_
      obtain ⟨hr, hholds⟩ := List.mem_filter.mp hr
      exact List.mem_filter.mpr ⟨hr, decide_eq_true (hin r hr (inRange_of_holds hb hholds))⟩
  · simp only [getUsageStats, List.map_map, Function.comp_def]
    rw [sum_countP_fibers (by decide), List.countP_eq_length]
    exact fun r _ => decide_eq_true (mem_clients _)

/-- A log with one access. -/
def sampleAccesses (accessedAt : Stamp) : AutoTable AccessRow :=
  AutoTable.empty.insert ⟨"1.2.3.4", "v2rayNG/1.8.5", accessedAt, .success, "k3XbQ9pLm2TzR7vW"⟩

/-- Noon of 2026-01-05, and of the day a week before. -/
def sampleNoon : Stamp × Stamp :=
  (⟨1767614400, by decide, by decide⟩, ⟨1767009600, by decide, by decide⟩)

/-- The chart of such a log, asked for at the later noon in the zone of the database. -/
def sampleUsage (accessedAt : Stamp) (rangeVal : String) : UsageStats :=
  getUsageStats Stamp.secs OrderBy.stable sampleNoon.1 (sampleAccesses accessedAt) rangeVal

/-- An access in the current second is counted and in no bucket of the hours; one of the first
afternoon is counted and in no bucket of the days. -/
theorem access_in_no_bucket :
    (sampleUsage sampleNoon.1 "24h").data.sum = 0
      ∧ (sampleUsage sampleNoon.1 "24h").totalRequests = 1
      ∧ (sampleUsage sampleNoon.2 "7d").data.sum = 0
      ∧ (sampleUsage sampleNoon.2 "7d").totalRequests = 1
      ∧ ¬ AddsUp (sampleUsage sampleNoon.1 "24h") := by
  have hdata : (sampleUsage sampleNoon.1 "24h").data.sum = 0 := by decide +kernel
  have htotal : (sampleUsage sampleNoon.1 "24h").totalRequests = 1 := by decide +kernel
  refine ⟨hdata, htotal, by decide +kernel, by decide +kernel, fun h => ?_⟩
  have hsum := h.total
  rw [hdata, htotal] at hsum
  cases hsum

end V2raySub
