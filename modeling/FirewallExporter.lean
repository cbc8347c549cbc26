import FirewallExporter.Api.Client
import FirewallExporter.Api.Dialogue
import FirewallExporter.Api.Endpoint
import FirewallExporter.Api.FetchError
import FirewallExporter.Api.Interleaving
import FirewallExporter.Area.Adapter
import FirewallExporter.Area.ArpTable
import FirewallExporter.Area.Collector
import FirewallExporter.Area.Cron
import FirewallExporter.Area.Dhcp
import FirewallExporter.Area.Firewall
import FirewallExporter.Area.Firmware
import FirewallExporter.Area.Gateways
import FirewallExporter.Area.Health
import FirewallExporter.Area.Interfaces
import FirewallExporter.Area.Ipsec
import FirewallExporter.Area.OpenVpn
import FirewallExporter.Area.Protocol
import FirewallExporter.Area.Registry
import FirewallExporter.Area.Services
import FirewallExporter.Area.UnboundDns
import FirewallExporter.Area.WireGuard
import FirewallExporter.Exporter.Calls
import FirewallExporter.Exporter.Process
import FirewallExporter.Exporter.Scraper
import FirewallExporter.Exporter.Tally
import FirewallExporter.Json.Document
import FirewallExporter.Json.Printer
import FirewallExporter.Json.Quoted
import FirewallExporter.Json.Reader
import FirewallExporter.Json.Shape
import FirewallExporter.Json.Value
import FirewallExporter.Main
import FirewallExporter.Metric.Descriptor
import FirewallExporter.Metric.Exposition
import FirewallExporter.Metric.Exposition.Reader
import FirewallExporter.Metric.Family
import FirewallExporter.Metric.Sample
import FirewallExporter.Number.Double
import FirewallExporter.Number.Literal
import FirewallExporter.Number.Range
import FirewallExporter.Number.Shortest
import FirewallExporter.Server.Address
import FirewallExporter.Server.Route
import FirewallExporter.Server.Site
import FirewallExporter.Server.Startup
import FirewallExporter.Server.Target
import FirewallExporter.Server.Wire
import FirewallExporter.Settings.Arguments
import FirewallExporter.Settings.Basic
import FirewallExporter.Settings.DotEnv
import FirewallExporter.Settings.Files
import FirewallExporter.Settings.Sources
import FirewallExporter.Settings.Toml
import FirewallExporter.Settings.Toml.Scalar
import FirewallExporter.Settings.Tree
import FirewallExporter.Table
import FirewallExporter.Text.Base64
import FirewallExporter.Text.Blank
import FirewallExporter.Text.CaseTable
import FirewallExporter.Text.Letters
import FirewallExporter.Text.Lowercase
import FirewallExporter.Text.Ranges
import FirewallExporter.Text.Split
import FirewallExporter.Text.Utf8
import FirewallExporter.Proofs.Utf8
import FirewallExporter.Proofs.Client
import FirewallExporter.Proofs.Collectors
import FirewallExporter.Proofs.Families
import FirewallExporter.Proofs.Tally
import FirewallExporter.Proofs.Run
import FirewallExporter.Proofs.FanOut
import FirewallExporter.Proofs.Isolation
import FirewallExporter.Proofs.Series
import FirewallExporter.Proofs.Routes
import FirewallExporter.Proofs.Document
import FirewallExporter.Proofs.Attribution
import FirewallExporter.Proofs.Serial
import FirewallExporter.Proofs.Emissions
import FirewallExporter.Proofs.Selection
import FirewallExporter.Proofs.Pruning
import FirewallExporter.Proofs.Switches
import FirewallExporter.Proofs.Quoting
import FirewallExporter.Proofs.ReadBack
import FirewallExporter.Proofs.Tunnels
import FirewallExporter.Proofs.RequestBodies
import FirewallExporter.Proofs.Grouping
import FirewallExporter.Proofs.Arguments
import FirewallExporter.Proofs.Layers
import FirewallExporter.Proofs.Precedence
import FirewallExporter.Proofs.DotEnv
import FirewallExporter.Proofs.EnvironmentFile
import FirewallExporter.Proofs.Decoding
import FirewallExporter.Proofs.Edits
import FirewallExporter.Proofs.Contexts
import FirewallExporter.Proofs.Replies
import FirewallExporter.Proofs.Conversions
import FirewallExporter.Proofs.Rows
import FirewallExporter.Proofs.Aggregates
import FirewallExporter.Proofs.Literals
import FirewallExporter.Proofs.Grammar
import FirewallExporter.Proofs.Reading
import FirewallExporter.Proofs.Rounding
import FirewallExporter.Proofs.Magnitude
import FirewallExporter.Proofs.Decimals
import FirewallExporter.Proofs.Thresholds
import FirewallExporter.Proofs.Health
import FirewallExporter.Proofs.Encodings
import FirewallExporter.Proofs.Tolerance
import FirewallExporter.Proofs.Base64
import FirewallExporter.Proofs.Credentials
import FirewallExporter.Proofs.Blanks
import FirewallExporter.Proofs.IntegerTexts
import FirewallExporter.Proofs.DoubleTexts
import FirewallExporter.Proofs.Measurements
