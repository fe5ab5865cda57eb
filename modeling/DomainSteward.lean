import DomainSteward.Call.Detail
import DomainSteward.Call.Failure
import DomainSteward.Call.Request
import DomainSteward.Call.Response
import DomainSteward.Call.Retry
import DomainSteward.Call.StatusBody
import DomainSteward.Call.Summary
import DomainSteward.Chain.Conduct
import DomainSteward.Chain.Exchange
import DomainSteward.Chain.Pods
import DomainSteward.Chain.Roll
import DomainSteward.Chain.Rules
import DomainSteward.Chain.Status
import DomainSteward.Chain.Step
import DomainSteward.Chain.World
import DomainSteward.Data.NameMap
import DomainSteward.Decimal.Shortest
import DomainSteward.Domain.Basic
import DomainSteward.Domain.Spec
import DomainSteward.Domain.Status
import DomainSteward.Domain.Topology
import DomainSteward.Fiber.Action
import DomainSteward.Fiber.Error
import DomainSteward.Fiber.Machine
import DomainSteward.Fiber.Packet
import DomainSteward.Form.Failure
import DomainSteward.Form.Fields
import DomainSteward.Form.Request
import DomainSteward.Form.Scene
import DomainSteward.Form.Script
import DomainSteward.Json.Basic
import DomainSteward.Json.Fields
import DomainSteward.Json.MergePatch
import DomainSteward.Json.Record
import DomainSteward.Json.Tree
import DomainSteward.Metrics.Basic
import DomainSteward.Metrics.Exposition
import DomainSteward.Object.Basic
import DomainSteward.Object.Meta
import DomainSteward.Panic
import DomainSteward.Pod.Basic
import DomainSteward.Presence.Basic
import DomainSteward.Presence.PodFeed
import DomainSteward.Presence.Registry
import DomainSteward.Proofs.Chain.Face
import DomainSteward.Proofs.Chain.Flag
import DomainSteward.Proofs.Chain.Verdict
import DomainSteward.Proofs.Chain.View
import DomainSteward.Proofs.Chain.World
import DomainSteward.Proofs.Chain.Writers
import DomainSteward.Proofs.Data.NameMap
import DomainSteward.Proofs.Domain.Conditions
import DomainSteward.Proofs.Domain.StatusPatch
import DomainSteward.Proofs.Exchange.Attempts
import DomainSteward.Proofs.Exchange.Draws
import DomainSteward.Proofs.Exchange.Paging
import DomainSteward.Proofs.Exchange.Steps
import DomainSteward.Proofs.Fiber.Acts
import DomainSteward.Proofs.Fiber.Barrier
import DomainSteward.Proofs.Fiber.Fate
import DomainSteward.Proofs.Fiber.Forks
import DomainSteward.Proofs.Fiber.Moves
import DomainSteward.Proofs.Fiber.Packet
import DomainSteward.Proofs.Fiber.Schedules
import DomainSteward.Proofs.Fiber.Solo
import DomainSteward.Proofs.Json.Fields
import DomainSteward.Proofs.Json.MergePatch
import DomainSteward.Proofs.Object.Meta
import DomainSteward.Proofs.Presence.Feed
import DomainSteward.Proofs.Presence.Outlook
import DomainSteward.Proofs.Presence.Registry
import DomainSteward.Proofs.Rehearsal.Sleepers
import DomainSteward.Proofs.Report.Guarded
import DomainSteward.Proofs.Report.Stages
import DomainSteward.Proofs.Report.Steady
import DomainSteward.Proofs.Roll.Anatomy
import DomainSteward.Proofs.Roll.Calm
import DomainSteward.Proofs.Roll.Floor
import DomainSteward.Proofs.Roll.Ledger
import DomainSteward.Proofs.Roll.Steps
import DomainSteward.Proofs.Roll.Wave
import DomainSteward.Proofs.Roll.WaveLoop
import DomainSteward.Proofs.Site.Aftermath
import DomainSteward.Proofs.Site.Brevity
import DomainSteward.Proofs.Site.Convergence
import DomainSteward.Proofs.Site.Depot
import DomainSteward.Proofs.Site.Errands
import DomainSteward.Proofs.Site.Forgetting
import DomainSteward.Proofs.Site.Halt
import DomainSteward.Proofs.Site.Journeys
import DomainSteward.Proofs.Site.Lots
import DomainSteward.Proofs.Site.Order
import DomainSteward.Proofs.Site.Path
import DomainSteward.Proofs.Site.Recovery
import DomainSteward.Proofs.Site.Restart
import DomainSteward.Proofs.Site.Seclusion
import DomainSteward.Proofs.Site.Server
import DomainSteward.Proofs.Site.Slack
import DomainSteward.Proofs.Site.Stage
import DomainSteward.Proofs.Site.Stock
import DomainSteward.Proofs.Site.Story
import DomainSteward.Proofs.Site.Successor
import DomainSteward.Proofs.Site.Upkeep
import DomainSteward.Proofs.Site.Versions
import DomainSteward.Proofs.Site.Winding
import DomainSteward.Reconcile
import DomainSteward.Rehearsal.Act
import DomainSteward.Rehearsal.Log
import DomainSteward.Rehearsal.Play
import DomainSteward.Rehearsal.Reply
import DomainSteward.Rehearsal.Scene
import DomainSteward.Rehearsal.Script
import DomainSteward.Rehearsal.Server
import DomainSteward.Report.DomainStatus
import DomainSteward.Report.Event
import DomainSteward.Roll.Partition
import DomainSteward.Roll.Wave
import DomainSteward.Settings.Basic
import DomainSteward.Shutdown
import DomainSteward.Text.Blank
import DomainSteward.Text.Integer
import DomainSteward.Text.Printable
import DomainSteward.Text.Quoted
import DomainSteward.Time.Duration
import DomainSteward.Time.Stamp
import DomainSteward.Time.Timestamp
import DomainSteward.Wire.Address
import DomainSteward.Wire.Http
import DomainSteward.Wire.Page
import DomainSteward.Wire.Publication
import DomainSteward.Wire.Watch
import DomainSteward.Proofs.Domain.Limits
import DomainSteward.Proofs.Presence.Marks
import DomainSteward.Proofs.Site.Membership
import DomainSteward.Proofs.Site.Release
import DomainSteward.Proofs.Call.Backoff
import DomainSteward.Proofs.Call.Budget
import DomainSteward.Proofs.Domain.History
import DomainSteward.Proofs.Report.Account
import DomainSteward.Proofs.Domain.Entries
import DomainSteward.Proofs.Pod.Replacement
import DomainSteward.Proofs.Settings.Requeue
import DomainSteward.Proofs.Wire.Faults
import DomainSteward.Proofs.Settings.Margins
import DomainSteward.Proofs.Domain.RoundTrip
import DomainSteward.Proofs.Call.StatusBody
import DomainSteward.Proofs.Metrics.Counters
import DomainSteward.Proofs.Metrics.Census
