import RemoteServices.Cli
import RemoteServices.Cli.Arguments
import RemoteServices.Echo
import RemoteServices.Endpoint
import RemoteServices.Error
import RemoteServices.Federation
import RemoteServices.Filter
import RemoteServices.Filter.Parser
import RemoteServices.Filter.Printer
import RemoteServices.Http.Client
import RemoteServices.Http.Location
import RemoteServices.Http.Message
import RemoteServices.Http.Route
import RemoteServices.Ip
import RemoteServices.Ip.Reader
import RemoteServices.Json
import RemoteServices.Json.Decode
import RemoteServices.Json.Magnitude
import RemoteServices.Json.Printer
import RemoteServices.Json.Reader
import RemoteServices.Key
import RemoteServices.Lookup
import RemoteServices.Main
import RemoteServices.Proofs.Keyed
import RemoteServices.Proofs.TearDown
import RemoteServices.Properties
import RemoteServices.Registry
import RemoteServices.Registry.Environment
import RemoteServices.Registry.Export
import RemoteServices.Registry.Import
import RemoteServices.Registry.Operation
import RemoteServices.Registry.Summary
import RemoteServices.ServiceSpace
import RemoteServices.Settings
import RemoteServices.Settings.Json
import RemoteServices.Settings.Toml
import RemoteServices.Table
import RemoteServices.Text.Blank
import RemoteServices.Text.Canonical
import RemoteServices.Text.CombiningClass
import RemoteServices.Text.Composition
import RemoteServices.Text.Decimal
import RemoteServices.Text.Direction
import RemoteServices.Text.DoubleRange
import RemoteServices.Text.Hex
import RemoteServices.Text.Joining
import RemoteServices.Text.Lossy
import RemoteServices.Text.Mark
import RemoteServices.Text.Punycode
import RemoteServices.Text.Quoted
import RemoteServices.Text.Ranges
import RemoteServices.Text.Rest
import RemoteServices.Text.Search
import RemoteServices.Text.Unassigned
import RemoteServices.Text.Unprintable
import RemoteServices.Toml
import RemoteServices.Toml.Printer
import RemoteServices.Toml.Quoted
import RemoteServices.Toml.Reader
import RemoteServices.Toml.Scalar
import RemoteServices.Url
import RemoteServices.Url.Domain
import RemoteServices.Url.Domain.Compounds
import RemoteServices.Url.Domain.Folding
import RemoteServices.Url.Domain.Letters
import RemoteServices.Url.Domain.Order
import RemoteServices.Url.Host
import RemoteServices.Url.Path
import RemoteServices.Url.Percent
import RemoteServices.Uuid
import RemoteServices.Proofs.Withdrawal
import RemoteServices.Proofs.ExportPass
import RemoteServices.Proofs.Sides
import RemoteServices.Proofs.ExportMatching
import RemoteServices.Proofs.Known
import RemoteServices.Proofs.Books
import RemoteServices.Proofs.Replay
import RemoteServices.Proofs.Directory
import RemoteServices.Proofs.Coherence
import RemoteServices.Proofs.AtRest
import RemoteServices.Proofs.Shown
import RemoteServices.Proofs.Course
import RemoteServices.Proofs.Catalogue
import RemoteServices.Proofs.Grounding
import RemoteServices.Proofs.Terms
import RemoteServices.Proofs.Finality
import RemoteServices.Proofs.Custody
import RemoteServices.Proofs.PassOrder
import RemoteServices.Proofs.Stability
import RemoteServices.Proofs.Redelivery
import RemoteServices.Proofs.Description
import RemoteServices.Proofs.FilterGrammar
import RemoteServices.Proofs.FilterText
import RemoteServices.Proofs.Pieces
import RemoteServices.Proofs.FilterMatching
import RemoteServices.Proofs.Percent
import RemoteServices.Proofs.UrlText
import RemoteServices.Proofs.Routing
import RemoteServices.Proofs.Tracking
import RemoteServices.Proofs.Publication
import RemoteServices.Proofs.Handlers
import RemoteServices.Proofs.RemoteCall
import RemoteServices.Proofs.Renaming
import RemoteServices.Proofs.Lockstep
import RemoteServices.Proofs.Shutdown
import RemoteServices.Proofs.Names
import RemoteServices.Proofs.Addresses
import RemoteServices.Proofs.Base
import RemoteServices.Proofs.Listening
import RemoteServices.Proofs.Listing
import RemoteServices.Proofs.Selection
import RemoteServices.Proofs.Registrations
import RemoteServices.Proofs.TomlStrings
import RemoteServices.Proofs.TomlLines
import RemoteServices.Proofs.SettingsText
