import BrokerClient.Dictionary.Order
import BrokerClient.Proofs.Client.Blocking
import BrokerClient.Proofs.Client.Conduct
import BrokerClient.Proofs.Client.FlowControl
import BrokerClient.Proofs.Client.Footing
import BrokerClient.Proofs.Client.Handles
import BrokerClient.Proofs.Client.LastError
import BrokerClient.Proofs.Client.Lockstep
import BrokerClient.Proofs.Client.Overlap
import BrokerClient.Proofs.Client.Publishing
import BrokerClient.Proofs.Client.Reading
import BrokerClient.Proofs.Client.Receiving
import BrokerClient.Proofs.Client.Registration
import BrokerClient.Proofs.Client.Registry
import BrokerClient.Proofs.Client.Replacing
import BrokerClient.Proofs.Client.Standing
import BrokerClient.Proofs.Client.Tracing
import BrokerClient.Proofs.Contents
import BrokerClient.Proofs.Decimals
import BrokerClient.Proofs.Decimals.Denoting
import BrokerClient.Proofs.Headers
import BrokerClient.Proofs.Json.Depth
import BrokerClient.Proofs.Json.Fields
import BrokerClient.Proofs.Json.Floats
import BrokerClient.Proofs.Json.Numerals
import BrokerClient.Proofs.Json.Passing
import BrokerClient.Proofs.Json.RoundTrip
import BrokerClient.Proofs.Json.Significands
import BrokerClient.Proofs.Network.Accounting
import BrokerClient.Proofs.Network.Alone
import BrokerClient.Proofs.Network.Bypassing
import BrokerClient.Proofs.Network.Closing
import BrokerClient.Proofs.Network.Conservation
import BrokerClient.Proofs.Network.Consumers
import BrokerClient.Proofs.Network.Course
import BrokerClient.Proofs.Network.Dialing
import BrokerClient.Proofs.Network.Handing
import BrokerClient.Proofs.Network.Holding
import BrokerClient.Proofs.Network.Interleaving
import BrokerClient.Proofs.Network.Knowledge
import BrokerClient.Proofs.Network.Lateness
import BrokerClient.Proofs.Network.Lifetimes
import BrokerClient.Proofs.Network.Likeness
import BrokerClient.Proofs.Network.Log
import BrokerClient.Proofs.Network.Lookups
import BrokerClient.Proofs.Network.Noninterference
import BrokerClient.Proofs.Network.Numbering
import BrokerClient.Proofs.Network.Once
import BrokerClient.Proofs.Network.Order
import BrokerClient.Proofs.Network.Receiver
import BrokerClient.Proofs.Network.Recovery
import BrokerClient.Proofs.Network.Refusals
import BrokerClient.Proofs.Network.RoundTrip
import BrokerClient.Proofs.Network.Run
import BrokerClient.Proofs.Network.Separation
import BrokerClient.Proofs.Network.Service
import BrokerClient.Proofs.Network.Session
import BrokerClient.Proofs.Network.Settling
import BrokerClient.Proofs.Network.Steps
import BrokerClient.Proofs.Network.Tracing
import BrokerClient.Proofs.Network.Turn
import BrokerClient.Proofs.Network.Upkeep
import BrokerClient.Proofs.Number.Rounding
import BrokerClient.Proofs.Number.Shortest
import BrokerClient.Proofs.Pings
import BrokerClient.Proofs.Queue
import BrokerClient.Proofs.Session.Receiving
import BrokerClient.Proofs.Session.Waiting
import BrokerClient.Proofs.Settings.Loading
import BrokerClient.Proofs.Settings.Variables
import BrokerClient.Session.Step
import BrokerClient.Settings.Document
import BrokerClient.Text.Utf8.RoundTrip
import BrokerClient.Transport.History
import BrokerClient.Transport.Wire
