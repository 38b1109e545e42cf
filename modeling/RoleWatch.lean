import RoleWatch.Bench.Lookout
import RoleWatch.Bench.Scene
import RoleWatch.Bench.Site
import RoleWatch.Main
import RoleWatch.Proofs.Bench.Convergence
import RoleWatch.Proofs.Bench.Ending
import RoleWatch.Proofs.Bench.Recheck
import RoleWatch.Proofs.Bench.Settled
import RoleWatch.Proofs.Bench.LastWord
import RoleWatch.Proofs.Watch.Outlook
import RoleWatch.Proofs.Bench.Batching
import RoleWatch.Proofs.Watch.Beat
import RoleWatch.Proofs.Bench.Timer
import RoleWatch.Proofs.Watch.Overheard
import RoleWatch.Proofs.Bench.Escape
import RoleWatch.Proofs.Relay.Meaning
import RoleWatch.Proofs.Relay.Backlog
import RoleWatch.Proofs.Duty.Declaration
import RoleWatch.Proofs.Bench.Oversight
import RoleWatch.Proofs.Bench.Answers
import RoleWatch.Proofs.Watch.Classification
import RoleWatch.Proofs.Daemon.OneShot
import RoleWatch.Proofs.Settings.Schema
import RoleWatch.Proofs.Settings.Items
import RoleWatch.Proofs.Settings.Layers
import RoleWatch.Proofs.Duty.Bounded
import RoleWatch.Proofs.Relay.Translation
import RoleWatch.Proofs.Settings.Acceptance
import RoleWatch.Proofs.Bench.Orders
import RoleWatch.Proofs.Relay.Account
import RoleWatch.Proofs.Relay.Upkeep
import RoleWatch.Proofs.Bench.Notice
import RoleWatch.Proofs.Inotify.Course
import RoleWatch.Proofs.Path.Splitting
import RoleWatch.Proofs.Bench.Ancestry
import RoleWatch.Proofs.Bench.Telling
import RoleWatch.Proofs.Bench.Responses
import RoleWatch.Proofs.Bench.Script
import RoleWatch.Proofs.Bench.Bookkeeping
import RoleWatch.Proofs.Bench.Alarms
import RoleWatch.Proofs.Bench.Session
