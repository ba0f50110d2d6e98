import V2raySub.Base.Rows
import V2raySub.Base.Stamp
import V2raySub.Base.Runs
import V2raySub.Base.Interleave
import V2raySub.Base.Meter
import V2raySub.Base.Window
import V2raySub.Base.WireText
import V2raySub.Base.PyText
import V2raySub.Base.Json
import V2raySub.Base.FileTree
import V2raySub.Base.Faults
import V2raySub.User.Schema
import V2raySub.User.Service
import V2raySub.User.Request
import V2raySub.User.Clock
import V2raySub.User.Coherence
import V2raySub.User.Renewal
import V2raySub.User.Concurrency
import V2raySub.User.Served
import V2raySub.User.Frozen
import V2raySub.User.Devices
import V2raySub.Backup.Schema
import V2raySub.Backup.Export
import V2raySub.Backup.Verify
import V2raySub.Backup.Restore
import V2raySub.Backup.Authentic
import V2raySub.Backup.Redaction
import V2raySub.Backup.Rollback
import V2raySub.Base.Replace
import V2raySub.Backup.Tables
import V2raySub.Backup.RoundTrip
import V2raySub.Base.AutoTable
import V2raySub.Automation.Schema
import V2raySub.Automation.Health
import V2raySub.Automation.Retire
import V2raySub.Base.Threads
import V2raySub.Automation.ScanLock
import V2raySub.Automation.Identity
import V2raySub.Automation.Configs
import V2raySub.Automation.Import
import V2raySub.Automation.Engine
import V2raySub.Automation.ManualTest
import V2raySub.Automation.Pool
import V2raySub.Base.Effects
import V2raySub.Automation.Metrics
import V2raySub.Automation.ScanCleanup
import V2raySub.Base.Between
import V2raySub.Automation.Scheduler
import V2raySub.User.Disable
import V2raySub.Base.Race
import V2raySub.User.Renewals
import V2raySub.Client.Content
import V2raySub.Client.Subscription
import V2raySub.Client.Entitled
import V2raySub.Boot.InitDb
import V2raySub.Boot.Workers
import V2raySub.User.FirstUse
import V2raySub.Machine.Create
import V2raySub.Automation.Observer
import V2raySub.Automation.Cancel
import V2raySub.Automation.Order
import V2raySub.Automation.EarlyStop
import V2raySub.Automation.Display
import V2raySub.Automation.Streak
import V2raySub.Base.Exchange
import V2raySub.Automation.Swap
import V2raySub.Client.Rename
import V2raySub.Client.Body
import V2raySub.Client.Remaining
import V2raySub.Base.Pace
import V2raySub.User.Paced
import V2raySub.User.Retention
import V2raySub.User.Update
import V2raySub.Backup.Delivery
import V2raySub.Backup.Containment
import V2raySub.Backup.Retention
import V2raySub.Backup.Carried
import V2raySub.Automation.Verdicts
import V2raySub.Base.Buckets
import V2raySub.Client.Usage
import V2raySub.User.Network
import V2raySub.Base.UrlParts
import V2raySub.Automation.IdentityKey
import V2raySub.Base.Lines
import V2raySub.Base.Base64Forms
import V2raySub.Automation.Count
import V2raySub.Base.RoundRobin
import V2raySub.Base.SortBy
import V2raySub.V2RayDar.Model
import V2raySub.V2RayDar.Rank
import V2raySub.V2RayDar.Schedule
import V2raySub.V2RayDar.Prepare
import V2raySub.Base.Guarded
import V2raySub.V2RayDar.Batches
import V2raySub.V2RayDar.Pieces
import V2raySub.V2RayDar.Probing
import V2raySub.V2RayDar.ActiveProbe
import V2raySub.V2RayDar.EarlyStop
import V2raySub.V2RayDar.Fetch
import V2raySub.V2RayDar.Sweep
import V2raySub.V2RayDar.ProbeCandidates
import V2raySub.V2RayDar.Document
import V2raySub.V2RayDar.Worker
import V2raySub.Automation.HealthRound
import V2raySub.Automation.DiscoveryRound
import V2raySub.Client.Feed
import V2raySub.Base.Fields
import V2raySub.V2RayDar.Convert
import V2raySub.V2RayDar.Vmess
import V2raySub.Base.JsonText
import V2raySub.V2RayDar.ThroughClash
import V2raySub.V2RayDar.ClashSubscription
