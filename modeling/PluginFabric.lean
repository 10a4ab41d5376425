import PluginFabric.Binary64
import PluginFabric.Config.Defaults
import PluginFabric.Config.Document
import PluginFabric.Config.Engine
import PluginFabric.Config.File
import PluginFabric.Config.Prepare
import PluginFabric.Config.Properties
import PluginFabric.Config.Reference
import PluginFabric.Config.Validation
import PluginFabric.Event.Execution
import PluginFabric.Event.Stage
import PluginFabric.Event.Tag
import PluginFabric.Execution.CommitTracker
import PluginFabric.Execution.Environment
import PluginFabric.Execution.Manager
import PluginFabric.Execution.Route
import PluginFabric.FabricError
import PluginFabric.Fault
import PluginFabric.Handoff
import PluginFabric.Json.Field
import PluginFabric.Json.Reader
import PluginFabric.Json.Value
import PluginFabric.Log.FailureRecord
import PluginFabric.Log.Filter
import PluginFabric.Log.Notice
import PluginFabric.Log.Options
import PluginFabric.Log.Pattern
import PluginFabric.Log.Record
import PluginFabric.Payload.Heartbeat
import PluginFabric.Payload.MasterEvent
import PluginFabric.Payload.Statistics
import PluginFabric.Plugin.Contract
import PluginFabric.Plugin.Lifecycle
import PluginFabric.Plugin.Registry
import PluginFabric.Plugin.Resolver
import PluginFabric.Preparation.Manager
import PluginFabric.Preparation.SharedDag
import PluginFabric.Proofs.Execution.CommitOrder
import PluginFabric.Proofs.Execution.Delivery
import PluginFabric.Proofs.Execution.Run
import PluginFabric.Proofs.Execution.Service
import PluginFabric.Proofs.Host
import PluginFabric.Proofs.Lifecycle.History
import PluginFabric.Proofs.Lifecycle.Passage
import PluginFabric.Proofs.Lifecycle.Safety
import PluginFabric.Proofs.Preparation.Run
import PluginFabric.Proofs.Preparation.StageOrder
import PluginFabric.Proofs.Roster
import PluginFabric.Proofs.Run
import PluginFabric.Proofs.Service
import PluginFabric.Proofs.Trace
import PluginFabric.Record.Source
import PluginFabric.SortedMap
import PluginFabric.Text.Blank
import PluginFabric.Text.Hidden
import PluginFabric.Text.Items
import PluginFabric.Text.Letter
import PluginFabric.Text.Numeral
import PluginFabric.Text.Property
import PluginFabric.Text.Quoted
import PluginFabric.Timestamp
import PluginFabric.Uuid
import PluginFabric.Window
import PluginFabric.Yaml.Cursor
import PluginFabric.Yaml.Node
import PluginFabric.Yaml.Scalar
import PluginFabric.Yaml.Token
import PluginFabric.Proofs.Lifecycle.Rollback
import PluginFabric.Proofs.Execution.Isolation
import PluginFabric.Proofs.Config.Substitution
import PluginFabric.Proofs.Json.Record
import PluginFabric.Proofs.Config.Engine
import PluginFabric.Proofs.Config.Flatten
import PluginFabric.Proofs.Config.Plugins
import PluginFabric.Proofs.Config.Prepare
import PluginFabric.Proofs.Lifecycle.Refusal
import PluginFabric.Proofs.Config.Final
import PluginFabric.Proofs.Registry
import PluginFabric.Proofs.Lifecycle.Course
import PluginFabric.Proofs.Lifecycle.Agreement
import PluginFabric.Proofs.Lifecycle.Representation
import PluginFabric.Proofs.Lifecycle.Containment
import PluginFabric.Proofs.Config.Leaves
import PluginFabric.Proofs.Text.Numeral
import PluginFabric.Proofs.Uuid
import PluginFabric.Proofs.Timestamp
import PluginFabric.Proofs.Payload
import PluginFabric.Proofs.Records
import PluginFabric.Proofs.Preparation.Phases
import PluginFabric.Proofs.Handoff.Reader
import PluginFabric.Proofs.Handoff.Subscribers
import PluginFabric.Proofs.Handoff.Delivery
import PluginFabric.Proofs.Dispatch
import PluginFabric.Proofs.Config.Occurrences
import PluginFabric.Proofs.Config.Literals
import PluginFabric.Proofs.Instances
import PluginFabric.Proofs.Config.Clock
import PluginFabric.Proofs.Window
import PluginFabric.Proofs.Config.Register
import PluginFabric.Proofs.Execution.Environment
import PluginFabric.Proofs.Config.Defaults
import PluginFabric.Proofs.Config.Stability
import PluginFabric.Proofs.Registered
import PluginFabric.Proofs.Config.Integers
