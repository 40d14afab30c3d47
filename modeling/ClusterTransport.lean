import ClusterTransport.Address
import ClusterTransport.Balancing
import ClusterTransport.Call.Answer
import ClusterTransport.Call.Exchange
import ClusterTransport.Call.Header
import ClusterTransport.Call.Request
import ClusterTransport.Call.Settings
import ClusterTransport.Call.Timeout
import ClusterTransport.Channel.Authority
import ClusterTransport.Channel.Factory
import ClusterTransport.Channel.ServerName
import ClusterTransport.Channel.Uri
import ClusterTransport.ChannelPool.Basic
import ClusterTransport.ChannelPool.Operation
import ClusterTransport.Clock
import ClusterTransport.Config.Basic
import ClusterTransport.Config.Fields
import ClusterTransport.Config.File
import ClusterTransport.Config.Layers
import ClusterTransport.Config.Lenient
import ClusterTransport.Config.Strict
import ClusterTransport.ConnectionString
import ClusterTransport.Decimal.Reader
import ClusterTransport.Decimal.Shortest
import ClusterTransport.Discovery.Run
import ClusterTransport.Discovery.Task
import ClusterTransport.DiscoveryService.Client
import ClusterTransport.DiscoveryService.Message
import ClusterTransport.DiscoveryService.Result
import ClusterTransport.DiscoveryService.StatusCode
import ClusterTransport.DomainName
import ClusterTransport.DomainName.Composition
import ClusterTransport.DomainName.Direction
import ClusterTransport.DomainName.Joiner
import ClusterTransport.DomainName.Label
import ClusterTransport.DomainName.Punycode
import ClusterTransport.DomainName.Replacement
import ClusterTransport.Endpoint
import ClusterTransport.EndpointPool.Basic
import ClusterTransport.EndpointPool.Picks
import ClusterTransport.EndpointPool.Pool
import ClusterTransport.Error
import ClusterTransport.Json.Basic
import ClusterTransport.Json.Reader
import ClusterTransport.Proofs.ChannelPool.Entries
import ClusterTransport.Proofs.ChannelPool.Traffic
import ClusterTransport.Proofs.Outcomes
import ClusterTransport.Proofs.Runs
import ClusterTransport.Readiness
import ClusterTransport.Simulation.Channels
import ClusterTransport.Simulation.Discovery
import ClusterTransport.Simulation.FileTree
import ClusterTransport.Simulation.Gate
import ClusterTransport.Simulation.Method
import ClusterTransport.Simulation.Timeline
import ClusterTransport.Simulation.Transport
import ClusterTransport.Status
import ClusterTransport.Text.Blank
import ClusterTransport.Text.CodeRange
import ClusterTransport.Text.Mark
import ClusterTransport.Text.Numeral
import ClusterTransport.Text.Pieces
import ClusterTransport.Text.Printable
import ClusterTransport.Text.Quoted
import ClusterTransport.Text.Utf8
import ClusterTransport.Toml.Document
import ClusterTransport.Toml.Scalar
import ClusterTransport.Transport.Adoption
import ClusterTransport.Transport.Basic
import ClusterTransport.Transport.Preparation
import ClusterTransport.Transport.Shutdown
import ClusterTransport.Transport.StreamCall
import ClusterTransport.Transport.UnaryCall
import ClusterTransport.Url.Basic
import ClusterTransport.Url.Ipv6
import ClusterTransport.Url.Percent
import ClusterTransport.Url.Web
import ClusterTransport.Wire.Field
import ClusterTransport.Wire.Varint
import ClusterTransport.Proofs.ChannelPool.Accounting
import ClusterTransport.Proofs.ChannelPool.Shutdown
import ClusterTransport.Proofs.ChannelPool.Rest
import ClusterTransport.Proofs.Discovery.Steps
import ClusterTransport.Proofs.Discovery.Guarding
import ClusterTransport.Proofs.Discovery.Activity
import ClusterTransport.Proofs.Discovery.LateCalls
import ClusterTransport.Proofs.Discovery.Overlap
import ClusterTransport.Proofs.EndpointPool.Marks
import ClusterTransport.Proofs.Transport.Activity
import ClusterTransport.Proofs.Transport.LastRound
import ClusterTransport.Proofs.EndpointPool.Index
import ClusterTransport.Proofs.EndpointPool.Lookup
import ClusterTransport.Proofs.EndpointPool.History
import ClusterTransport.Proofs.EndpointPool.Reports
import ClusterTransport.Proofs.EndpointPool.Representation
import ClusterTransport.Proofs.EndpointPool.LiveMarks
import ClusterTransport.Proofs.Balancing
import ClusterTransport.Proofs.EndpointPool.Selection
import ClusterTransport.Proofs.ChannelPool.Sparing
import ClusterTransport.Proofs.Transport.Rounds
import ClusterTransport.Proofs.Transport.Traffic
import ClusterTransport.Proofs.ChannelPool.Reading
import ClusterTransport.Proofs.ChannelPool.Sharing
import ClusterTransport.Proofs.Call.Sending
import ClusterTransport.Proofs.DiscoveryService.Rounds
import ClusterTransport.Proofs.Transport.Calling
import ClusterTransport.Proofs.Transport.Rejection
import ClusterTransport.Proofs.Transport.Expiry
import ClusterTransport.Proofs.Transport.CallSteps
import ClusterTransport.Proofs.Transport.Usability
import ClusterTransport.Proofs.Transport.Gating
import ClusterTransport.Proofs.Transport.Observing
import ClusterTransport.Proofs.Discovery.Timeline
import ClusterTransport.Proofs.Transport.Schedule
import ClusterTransport.Proofs.Text.Blank
import ClusterTransport.Proofs.Text.Numeral
import ClusterTransport.Proofs.Address
import ClusterTransport.Proofs.Address.Grammar
import ClusterTransport.Proofs.Url.Ipv6
import ClusterTransport.Proofs.Url.Host
import ClusterTransport.Proofs.ConnectionString
import ClusterTransport.Proofs.EndpointPool.Returning
import ClusterTransport.Proofs.EndpointPool.Selecting
import ClusterTransport.Proofs.Transport.Cancellation
import ClusterTransport.Proofs.ChannelPool.LiveConnections
import ClusterTransport.Proofs.Text.Pieces
import ClusterTransport.Proofs.Url.Form
import ClusterTransport.Proofs.Url.Reading
import ClusterTransport.Proofs.ConnectionString.Rendering
import ClusterTransport.Proofs.Url.Path
import ClusterTransport.Proofs.ConnectionString.Database
import ClusterTransport.Proofs.Config.Settings
import ClusterTransport.Proofs.Config.Layers
import ClusterTransport.Proofs.Config.Layering
import ClusterTransport.Proofs.Config.TextVariables
import ClusterTransport.Proofs.Balancing.Choice
import ClusterTransport.Proofs.Balancing.Rounding
import ClusterTransport.Proofs.Balancing.Loads
import ClusterTransport.Proofs.EndpointPool.Departures
import ClusterTransport.Proofs.Address.NormalForm
import ClusterTransport.Proofs.Channel.Authority
import ClusterTransport.Proofs.Channel.ServerName
import ClusterTransport.Proofs.Channel.Target
import ClusterTransport.Proofs.Wire.Field
import ClusterTransport.Proofs.DiscoveryService.Listing
import ClusterTransport.Proofs.Readiness.Crowd
import ClusterTransport.Proofs.Readiness.Leaving
import ClusterTransport.Proofs.Address.Identity
import ClusterTransport.Proofs.Balancing.Weights
import ClusterTransport.Proofs.Config.ReadingBack
