import RouterKit.Lib.Compensation
import RouterKit.Lib.Keyed
import RouterKit.Lib.Json
import RouterKit.Lib.PyText
import RouterKit.Lib.Checked
import RouterKit.Devices.TrustedMac
import RouterKit.Devices.MacLanguage
import RouterKit.Devices.Inventory
import RouterKit.Devices.Selection
import RouterKit.Devices.PublicEvidence
import RouterKit.Devices.Assignment
import RouterKit.Devices.ListingOrder
import RouterKit.Lib.IpAddress
import RouterKit.Lib.StableSort
import RouterKit.Lib.Interleaving
import RouterKit.Lib.Lines
import RouterKit.Devices.Records
import RouterKit.Network.AddressPolicy
import RouterKit.Network.AddressSet
import RouterKit.Lib.Url
import RouterKit.Lib.Effects
import RouterKit.Lib.Pattern
import RouterKit.Network.HttpsUrl
import RouterKit.Network.Hops
import RouterKit.Network.Source
import RouterKit.Network.Archive
import RouterKit.Network.HopRules
import RouterKit.Network.Escapes
import RouterKit.Network.Recording
import RouterKit.Network.Delivery
import RouterKit.Network.HopPolicy
import RouterKit.Profiles.EndpointManifest
import RouterKit.Netcraze.External
import RouterKit.Netcraze.LiveApply
import RouterKit.Netcraze.LivePlan
import RouterKit.Netcraze.DanglingPermits
import RouterKit.Netcraze.LiveRollback
import RouterKit.Netcraze.Backup
import RouterKit.Netcraze.Snapshot
import RouterKit.Netcraze.ChangePlan
import RouterKit.Netcraze.Simulator
import RouterKit.Netcraze.PlanIntegrity
import RouterKit.Netcraze.SnapshotParse
import RouterKit.Netcraze.SnapshotOrder
import RouterKit.Netcraze.PlanChoice
import RouterKit.Netcraze.PlanRun
import RouterKit.Netcraze.Convergence
import RouterKit.Netcraze.SimulatedUndo
import RouterKit.Netcraze.Manifest
import RouterKit.Netcraze.Ndm
import RouterKit.Netcraze.ExternalRollback
import RouterKit.Netcraze.ExternalAuthorized
import RouterKit.Netcraze.PacketJson
import RouterKit.Netcraze.PacketRoundTrip
import RouterKit.Netcraze.PacketCommands
import RouterKit.Netcraze.ExternalVerify
import RouterKit.Netcraze.AdapterErrors
import RouterKit.Netcraze.PostState
import RouterKit.Netcraze.LiveState
import RouterKit.Lib.Programs
import RouterKit.LiveInstall.Receipt
import RouterKit.LiveInstall.Evidence
import RouterKit.LiveInstall.Main
import RouterKit.LiveInstall.Sound
import RouterKit.LiveInstall.Changes
import RouterKit.LiveInstall.Walk
import RouterKit.LiveInstall.Stages
import RouterKit.LiveInstall.Native
import RouterKit.LiveInstall.Finish
import RouterKit.LiveInstall.Runs
import RouterKit.LiveInstall.Safety
import RouterKit.LiveInstall.Planning
import RouterKit.LiveInstall.Handled
import RouterKit.LiveInstall.Outcomes
import RouterKit.LiveInstall.Provenance
import RouterKit.Profiles.NodeLabel
import RouterKit.Profiles.PublishedLast
import RouterKit.Routing.Overrides
import RouterKit.Routing.Canonical
import RouterKit.Routing.Document
import RouterKit.Routing.Installation
import RouterKit.Routing.Planning
import RouterKit.Routing.Stored
import RouterKit.Routing.FileFormat
import RouterKit.Routing.Acceptance
import RouterKit.Routing.Apply
import RouterKit.Routing.Publication
import RouterKit.Routing.Reconcile
import RouterKit.Routing.Failures
import RouterKit.Routing.Interrupted
import RouterKit.Routing.FirstMatch
import RouterKit.Routing.Concurrent
import RouterKit.Netcraze.RunningConfig
import RouterKit.Netcraze.ConfigSections
import RouterKit.Netcraze.ConfigRead
import RouterKit.Autostart.Enabled
import RouterKit.Netcraze.LiveFrame
import RouterKit.Netcraze.ConfigInvariant
