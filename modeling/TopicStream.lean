import TopicStream.Command.Flags
import TopicStream.Command.Listening
import TopicStream.Command.Plan
import TopicStream.Command.Terminal
import TopicStream.Config
import TopicStream.Credential.Store
import TopicStream.Credential.Token
import TopicStream.Duration
import TopicStream.Engine.Call
import TopicStream.Engine.State
import TopicStream.Engine.Step
import TopicStream.Engine.Task
import TopicStream.Engine.Worker
import TopicStream.Error
import TopicStream.Event.Decoder
import TopicStream.Event.Record
import TopicStream.Event.Stream
import TopicStream.Http.Address
import TopicStream.Http.Request
import TopicStream.Http.Transport
import TopicStream.Http.Url
import TopicStream.Http.Wire
import TopicStream.Json.Basic
import TopicStream.Json.Fault
import TopicStream.Json.Parser
import TopicStream.Json.Printer
import TopicStream.Json.Shape
import TopicStream.KeyMap
import TopicStream.Main
import TopicStream.Number.Binary64
import TopicStream.Number.Shortest
import TopicStream.Proofs.Command.Flags
import TopicStream.Proofs.Command.Plan
import TopicStream.Proofs.Credential.Store
import TopicStream.Proofs.Credential.Token
import TopicStream.Proofs.Engine.Accounts
import TopicStream.Proofs.Engine.Announcement
import TopicStream.Proofs.Engine.Attempts
import TopicStream.Proofs.Engine.Calls
import TopicStream.Proofs.Engine.Changes
import TopicStream.Proofs.Engine.Core
import TopicStream.Proofs.Engine.Course
import TopicStream.Proofs.Engine.Credentials
import TopicStream.Proofs.Engine.Delivery
import TopicStream.Proofs.Engine.Dormancy
import TopicStream.Proofs.Engine.Lifetime
import TopicStream.Proofs.Engine.Log
import TopicStream.Proofs.Engine.Moves
import TopicStream.Proofs.Engine.Notes
import TopicStream.Proofs.Engine.Overtaking
import TopicStream.Proofs.Engine.Posting
import TopicStream.Proofs.Engine.Provenance
import TopicStream.Proofs.Engine.Reconnection
import TopicStream.Proofs.Engine.Registered
import TopicStream.Proofs.Engine.Reporting
import TopicStream.Proofs.Engine.Run
import TopicStream.Proofs.Engine.Scoping
import TopicStream.Proofs.Engine.Session
import TopicStream.Proofs.Engine.Silence
import TopicStream.Proofs.Engine.Slot
import TopicStream.Proofs.Engine.Subscribing
import TopicStream.Proofs.Engine.Teardown
import TopicStream.Proofs.Engine.Undoing
import TopicStream.Proofs.Engine.Waiting
import TopicStream.Proofs.Event.Chunking
import TopicStream.Proofs.Event.Frame
import TopicStream.Proofs.Event.Reading
import TopicStream.Proofs.Event.Record
import TopicStream.Proofs.Event.Stream
import TopicStream.Proofs.Http.Message
import TopicStream.Proofs.Http.Reply
import TopicStream.Proofs.Http.Url
import TopicStream.Proofs.Json.Grammar
import TopicStream.Proofs.Json.Number
import TopicStream.Proofs.Json.Quote
import TopicStream.Proofs.Json.Reading
import TopicStream.Proofs.Json.Strings
import TopicStream.Proofs.Json.Unambiguity
import TopicStream.Proofs.KeyMap
import TopicStream.Proofs.Number.Binary64
import TopicStream.Proofs.Subscription.Change
import TopicStream.Proofs.Subscription.Collection
import TopicStream.Proofs.Subscription.Log
import TopicStream.Proofs.Subscription.Options
import TopicStream.Proofs.Subscription.Registry
import TopicStream.Proofs.Text.Base64
import TopicStream.Proofs.Text.Form
import TopicStream.Proofs.Text.Order
import TopicStream.Proofs.Text.Utf8
import TopicStream.Session
import TopicStream.Simulation.Scenario
import TopicStream.Simulation.Transport
import TopicStream.Subscription.Change
import TopicStream.Subscription.Collection
import TopicStream.Subscription.Options
import TopicStream.Subscription.Registry
import TopicStream.Text.Base64
import TopicStream.Text.Form
import TopicStream.Text.Hex
import TopicStream.Text.Printable
import TopicStream.Text.Quoted
import TopicStream.Text.Utf8
