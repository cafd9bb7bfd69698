import VlanBinding.Cli.Arguments
import VlanBinding.Cli.Command
import VlanBinding.Cli.Run
import VlanBinding.Controller.Basic
import VlanBinding.Decimal.Binary64
import VlanBinding.Decimal.Power
import VlanBinding.Decimal.Shortest
import VlanBinding.Fabric.Object
import VlanBinding.Fabric.Reference
import VlanBinding.Fabric.Resource
import VlanBinding.File
import VlanBinding.Http.Form
import VlanBinding.Http.MediaType
import VlanBinding.Http.Network
import VlanBinding.Http.Percent
import VlanBinding.Http.Status
import VlanBinding.Http.Url
import VlanBinding.Integration.Attachment
import VlanBinding.Integration.Binding
import VlanBinding.Integration.Error
import VlanBinding.Integration.Integrator
import VlanBinding.Integration.LinkSource
import VlanBinding.Integration.Notification
import VlanBinding.Integration.Plan
import VlanBinding.Integration.Profile
import VlanBinding.Json.Basic
import VlanBinding.Json.Bytes
import VlanBinding.Json.Decoder
import VlanBinding.Json.Printer
import VlanBinding.Json.Reader
import VlanBinding.Json.Source
import VlanBinding.Keyed
import VlanBinding.Net.Address
import VlanBinding.Neutron.Body
import VlanBinding.Neutron.Network
import VlanBinding.Neutron.Port
import VlanBinding.Rest.Error
import VlanBinding.Rest.FabricClient
import VlanBinding.Rest.NeutronClient
import VlanBinding.Rest.Services
import VlanBinding.Rest.Session
import VlanBinding.Schema.Problem
import VlanBinding.Schema.Record
import VlanBinding.Service.Endpoint
import VlanBinding.Service.Handler
import VlanBinding.Service.Reply
import VlanBinding.Service.Status
import VlanBinding.Settings
import VlanBinding.Text.Blank
import VlanBinding.Text.Hex
import VlanBinding.Text.Quoted
import VlanBinding.Text.Split
import VlanBinding.Text.Terminal
import VlanBinding.Text.Unprintable
import VlanBinding.Topology.Document
import VlanBinding.Topology.Index
import VlanBinding.Topology.Validation
import VlanBinding.Uuid
import VlanBinding.Wording
import VlanBinding.Yaml.Cursor
import VlanBinding.Yaml.Decoder
import VlanBinding.Yaml.Expansion
import VlanBinding.Yaml.Lexer
import VlanBinding.Yaml.Name
import VlanBinding.Yaml.Node
import VlanBinding.Yaml.Plain
import VlanBinding.Yaml.Printer
import VlanBinding.Yaml.Scalar
import VlanBinding.Yaml.Token
import VlanBinding.Main
import VlanBinding.Proofs.Controller
import VlanBinding.Proofs.Integrator
import VlanBinding.Proofs.Profile
import VlanBinding.Proofs.Handling
import VlanBinding.Proofs.Redelivery
import VlanBinding.Proofs.History
import VlanBinding.Proofs.Retention
import VlanBinding.Proofs.Ledger
import VlanBinding.Proofs.Tenancy
import VlanBinding.Proofs.Surfacing
import VlanBinding.Proofs.Calls
import VlanBinding.Proofs.Cabling
import VlanBinding.Proofs.Guard
import VlanBinding.Proofs.Traffic
import VlanBinding.Proofs.Login
import VlanBinding.Proofs.Pardon
import VlanBinding.Proofs.Footprint
import VlanBinding.Proofs.Commutation
import VlanBinding.Proofs.Prediction
import VlanBinding.Proofs.Interleaving
import VlanBinding.Proofs.Undisturbed
import VlanBinding.Proofs.Handover
import VlanBinding.Proofs.Untagged
import VlanBinding.Proofs.Delivery
import VlanBinding.Proofs.Detachment
import VlanBinding.Proofs.Scalars
import VlanBinding.Proofs.Lexing
import VlanBinding.Proofs.Tokens
import VlanBinding.Proofs.Nodes
import VlanBinding.Proofs.RoundTrip
import VlanBinding.Proofs.Attempts
import VlanBinding.Proofs.Custody
import VlanBinding.Proofs.Renewal
import VlanBinding.Proofs.Failing
import VlanBinding.Proofs.Creation
import VlanBinding.Proofs.Removal
import VlanBinding.Proofs.Succession
import VlanBinding.Proofs.Spelling
import VlanBinding.Proofs.Tenant
import VlanBinding.Proofs.Selection
import VlanBinding.Proofs.Assembly
import VlanBinding.Proofs.Sharing
import VlanBinding.Proofs.Json.Strings
import VlanBinding.Proofs.Json.Numbers
import VlanBinding.Proofs.Json.Values
import VlanBinding.Proofs.Json.Sorting
import VlanBinding.Proofs.ProfileText
import VlanBinding.Proofs.Addressing
import VlanBinding.Proofs.LiveLinks
import VlanBinding.Proofs.KnownHosts
import VlanBinding.Proofs.Report
import VlanBinding.Proofs.Records
import VlanBinding.Proofs.Encoding
import VlanBinding.Proofs.Replies
import VlanBinding.Proofs.Tolerance
import VlanBinding.Proofs.Lacking
import VlanBinding.Proofs.GroupUpdate
import VlanBinding.Proofs.SettingsFile
import VlanBinding.Proofs.Joining
import VlanBinding.Proofs.PathEnd
import VlanBinding.Proofs.HostQuery
import VlanBinding.Proofs.NodeLookup
import VlanBinding.Proofs.OfflineValidation
