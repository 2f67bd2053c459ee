import DeviceFleet.Answer
import DeviceFleet.App.Basic
import DeviceFleet.App.Observability
import DeviceFleet.Backup
import DeviceFleet.Cache.Basic
import DeviceFleet.Cache.Command
import DeviceFleet.Cache.Index
import DeviceFleet.Cache.Member
import DeviceFleet.Cache.Resource
import DeviceFleet.Client
import DeviceFleet.Description
import DeviceFleet.Entity
import DeviceFleet.Entity.Encoding
import DeviceFleet.Json.Basic
import DeviceFleet.Json.Canonical
import DeviceFleet.Json.Format
import DeviceFleet.Json.Number
import DeviceFleet.Json.Printer
import DeviceFleet.Json.Reader
import DeviceFleet.Json.Record
import DeviceFleet.Json.Token
import DeviceFleet.Log.Event
import DeviceFleet.Log.Filter
import DeviceFleet.Metadata
import DeviceFleet.Metrics
import DeviceFleet.Page
import DeviceFleet.Proofs.Action.CacheFailures
import DeviceFleet.Proofs.Action.Ensures
import DeviceFleet.Proofs.Action.Heard
import DeviceFleet.Proofs.Action.KeyRenaming
import DeviceFleet.Proofs.Action.Progress
import DeviceFleet.Proofs.Action.ReadOnly
import DeviceFleet.Proofs.Action.Twin
import DeviceFleet.Proofs.Cache.Coherent
import DeviceFleet.Proofs.Cache.History
import DeviceFleet.Proofs.Cache.Index
import DeviceFleet.Proofs.Cache.KeyRenaming
import DeviceFleet.Proofs.Cache.Member
import DeviceFleet.Proofs.Cache.MemberHistory
import DeviceFleet.Proofs.Cache.Resource
import DeviceFleet.Proofs.Cache.ResourceHistory
import DeviceFleet.Proofs.Cache.Standing
import DeviceFleet.Proofs.Entity.BackupText
import DeviceFleet.Proofs.Entity.Encoding
import DeviceFleet.Proofs.Json.Canonical
import DeviceFleet.Proofs.Json.Reader
import DeviceFleet.Proofs.Json.Record
import DeviceFleet.Proofs.Json.Tokens
import DeviceFleet.Proofs.Maps
import DeviceFleet.Proofs.Run.AccessDecisions
import DeviceFleet.Proofs.Run.Atomicity
import DeviceFleet.Proofs.Run.CacheFailures
import DeviceFleet.Proofs.Run.CacheIndices
import DeviceFleet.Proofs.Run.Coherence
import DeviceFleet.Proofs.Run.Filled
import DeviceFleet.Proofs.Run.Frame
import DeviceFleet.Proofs.Run.GroupOwners
import DeviceFleet.Proofs.Run.GroupReferences
import DeviceFleet.Proofs.Run.KeyOpacity
import DeviceFleet.Proofs.Run.KeyRenaming
import DeviceFleet.Proofs.Run.Layers
import DeviceFleet.Proofs.Run.ListAccess
import DeviceFleet.Proofs.Run.ListScope
import DeviceFleet.Proofs.Run.MetadataMerges
import DeviceFleet.Proofs.Run.PartialRestore
import DeviceFleet.Proofs.Run.ProfileGroups
import DeviceFleet.Proofs.Run.ReadPermission
import DeviceFleet.Proofs.Run.Roundtrip
import DeviceFleet.Proofs.Run.ScopedBackups
import DeviceFleet.Proofs.Run.Step
import DeviceFleet.Proofs.Run.Transparency
import DeviceFleet.Proofs.Run.WritePermission
import DeviceFleet.Proofs.Service.Effect
import DeviceFleet.Proofs.Service.Groups
import DeviceFleet.Proofs.Service.KeyRenaming
import DeviceFleet.Proofs.Service.Memberships
import DeviceFleet.Proofs.Service.Owners
import DeviceFleet.Proofs.Service.Permission
import DeviceFleet.Proofs.Service.Profiles
import DeviceFleet.Proofs.Service.Queries
import DeviceFleet.Proofs.Service.Resolve
import DeviceFleet.Proofs.Service.Restore
import DeviceFleet.Proofs.Service.Scope
import DeviceFleet.Proofs.Service.Things
import DeviceFleet.Proofs.Session.Authority
import DeviceFleet.Proofs.Settings.Leaves
import DeviceFleet.Proofs.Settings.Library
import DeviceFleet.Proofs.Settings.Load
import DeviceFleet.Proofs.Store.Batch
import DeviceFleet.Proofs.Store.Contents
import DeviceFleet.Proofs.Store.Gains
import DeviceFleet.Proofs.Store.GroupRemoval
import DeviceFleet.Proofs.Store.Groups
import DeviceFleet.Proofs.Store.History
import DeviceFleet.Proofs.Store.KeyRenaming
import DeviceFleet.Proofs.Store.Listings
import DeviceFleet.Proofs.Store.Memberships
import DeviceFleet.Proofs.Store.MetadataMerges
import DeviceFleet.Proofs.Store.NameFilter
import DeviceFleet.Proofs.Store.Pages
import DeviceFleet.Proofs.Store.Profiles
import DeviceFleet.Proofs.Store.Sound
import DeviceFleet.Proofs.Store.ThingBatches
import DeviceFleet.Proofs.Store.Things
import DeviceFleet.Proofs.Text.ByteOrder
import DeviceFleet.Proofs.Text.Digits
import DeviceFleet.Proofs.Text.LowerCase
import DeviceFleet.Proofs.Time.Calendar
import DeviceFleet.Proofs.Time.Stamps
import DeviceFleet.Role
import DeviceFleet.Service.Access
import DeviceFleet.Service.Action
import DeviceFleet.Service.Backups
import DeviceFleet.Service.CallTotals
import DeviceFleet.Service.Error
import DeviceFleet.Service.Groups
import DeviceFleet.Service.Inquiry
import DeviceFleet.Service.Layer
import DeviceFleet.Service.Memberships
import DeviceFleet.Service.Operation
import DeviceFleet.Service.Passage
import DeviceFleet.Service.Profiles
import DeviceFleet.Service.Scope
import DeviceFleet.Service.Things
import DeviceFleet.Session.Authority
import DeviceFleet.Session.Directory
import DeviceFleet.Session.Step
import DeviceFleet.Session.Surroundings
import DeviceFleet.Settings.Basic
import DeviceFleet.Settings.Coercion
import DeviceFleet.Settings.Layer
import DeviceFleet.Settings.Library
import DeviceFleet.Settings.Load
import DeviceFleet.Store.Basic
import DeviceFleet.Store.Command
import DeviceFleet.Store.Error
import DeviceFleet.Store.Groups
import DeviceFleet.Store.Memberships
import DeviceFleet.Store.Method
import DeviceFleet.Store.Profiles
import DeviceFleet.Store.Things
import DeviceFleet.Text.Blank
import DeviceFleet.Text.CaseTable
import DeviceFleet.Text.Digits
import DeviceFleet.Text.Double
import DeviceFleet.Text.EscapeTable
import DeviceFleet.Text.LowerCase
import DeviceFleet.Text.Quoted
import DeviceFleet.Text.Search
import DeviceFleet.Text.Split
import DeviceFleet.Time.Calendar
import DeviceFleet.Time.Format
import DeviceFleet.Time.Instant
import DeviceFleet.Time.Printer
import DeviceFleet.Time.Reader
import DeviceFleet.Time.Span
import DeviceFleet.Uuid
import DeviceFleet.Yaml.Block
import DeviceFleet.Yaml.Flow
import DeviceFleet.Yaml.Scalar
