import MessageFlow.Account.Basic
import MessageFlow.Account.Document
import MessageFlow.Account.Lookup
import MessageFlow.Account.Prompt
import MessageFlow.Api.Body
import MessageFlow.Api.Routes
import MessageFlow.Cache
import MessageFlow.Contact.Email
import MessageFlow.Contact.Phone
import MessageFlow.Deployment
import MessageFlow.Document.Field
import MessageFlow.Document.Names
import MessageFlow.Document.Report
import MessageFlow.Document.Scalar
import MessageFlow.Document.Validated
import MessageFlow.Entries
import MessageFlow.Execution.Basic
import MessageFlow.Execution.Condition
import MessageFlow.Execution.Delay
import MessageFlow.Execution.Document
import MessageFlow.Flow.Basic
import MessageFlow.Flow.Document
import MessageFlow.Flow.Event
import MessageFlow.Flow.Kind
import MessageFlow.Flow.Successor
import MessageFlow.Flow.Trigger
import MessageFlow.Flow.Validation
import MessageFlow.Inbox
import MessageFlow.Json.Basic
import MessageFlow.Json.Expressible
import MessageFlow.Json.Printer
import MessageFlow.Json.Reader
import MessageFlow.Lead.Document
import MessageFlow.Lead.Upsert
import MessageFlow.Message.Assistant
import MessageFlow.Message.Delivery
import MessageFlow.Message.Gateway
import MessageFlow.Message.Length
import MessageFlow.Message.Notification
import MessageFlow.Message.Post
import MessageFlow.Message.Template
import MessageFlow.Number.Basic
import MessageFlow.Number.Binary64
import MessageFlow.Number.Shortest
import MessageFlow.Program.Basic
import MessageFlow.Program.Failure
import MessageFlow.Proofs.Accounts.Coherence
import MessageFlow.Proofs.Accounts.Service
import MessageFlow.Proofs.Accounts.Transparency
import MessageFlow.Proofs.Alone.Run
import MessageFlow.Proofs.Alone.Store
import MessageFlow.Proofs.Alone.Success
import MessageFlow.Proofs.Among.Answer
import MessageFlow.Proofs.Among.Failures
import MessageFlow.Proofs.Among.Knowledge
import MessageFlow.Proofs.Among.Message
import MessageFlow.Proofs.Among.Replies
import MessageFlow.Proofs.Among.Run
import MessageFlow.Proofs.Among.Sweep
import MessageFlow.Proofs.Among.Traversal
import MessageFlow.Proofs.Among.Version
import MessageFlow.Proofs.Apart
import MessageFlow.Proofs.Cache.History
import MessageFlow.Proofs.Cache.Lookup
import MessageFlow.Proofs.Contact.Email
import MessageFlow.Proofs.Contact.Phone
import MessageFlow.Proofs.Deletion.Final
import MessageFlow.Proofs.Deletion.Flow
import MessageFlow.Proofs.Deletion.Loop
import MessageFlow.Proofs.Deletion.Withdrawal
import MessageFlow.Proofs.Delivery.Indifference
import MessageFlow.Proofs.Delivery.Operations
import MessageFlow.Proofs.Delivery.Posting
import MessageFlow.Proofs.Delivery.Steering
import MessageFlow.Proofs.Delivery.Twins
import MessageFlow.Proofs.Discipline
import MessageFlow.Proofs.Errand.Frame
import MessageFlow.Proofs.Errand.InStep
import MessageFlow.Proofs.Errand.Operations
import MessageFlow.Proofs.Hearing
import MessageFlow.Proofs.Interleaving.Answers
import MessageFlow.Proofs.Interleaving.Change
import MessageFlow.Proofs.Interleaving.Consistent
import MessageFlow.Proofs.Interleaving.Desk
import MessageFlow.Proofs.Interleaving.Exclusive
import MessageFlow.Proofs.Interleaving.Node
import MessageFlow.Proofs.Interleaving.Obedience
import MessageFlow.Proofs.Interleaving.Rows
import MessageFlow.Proofs.Interleaving.Scene
import MessageFlow.Proofs.Interleaving.Schedule
import MessageFlow.Proofs.Interleaving.Shelved
import MessageFlow.Proofs.Interleaving.Sound
import MessageFlow.Proofs.Interleaving.Stranded
import MessageFlow.Proofs.Interleaving.Sweeping
import MessageFlow.Proofs.Interleaving.System
import MessageFlow.Proofs.Interleaving.Task
import MessageFlow.Proofs.Interleaving.Traversal
import MessageFlow.Proofs.Interleaving.Versions
import MessageFlow.Proofs.Interleaving.Writes
import MessageFlow.Proofs.Leads.Merge
import MessageFlow.Proofs.Leads.Upsert
import MessageFlow.Proofs.Manner
import MessageFlow.Proofs.Posts.Assistant
import MessageFlow.Proofs.Posts.Node
import MessageFlow.Proofs.Posts.Speech
import MessageFlow.Proofs.Posts.Task
import MessageFlow.Proofs.Reading.Account
import MessageFlow.Proofs.Reading.Document
import MessageFlow.Proofs.Reading.Execution
import MessageFlow.Proofs.Reading.Expressible
import MessageFlow.Proofs.Reading.Flow
import MessageFlow.Proofs.Reading.Stored
import MessageFlow.Proofs.Reading.Time
import MessageFlow.Proofs.Senders.Confinement
import MessageFlow.Proofs.Senders.Heard
import MessageFlow.Proofs.Senders.Isolation
import MessageFlow.Proofs.Senders.Transcript
import MessageFlow.Proofs.Start.Firing
import MessageFlow.Proofs.Start.Flows
import MessageFlow.Proofs.Start.Isolation
import MessageFlow.Proofs.Start.Launch
import MessageFlow.Proofs.Start.Matching
import MessageFlow.Proofs.Start.Trigger
import MessageFlow.Proofs.Stored.Outcome
import MessageFlow.Proofs.Stored.Parked
import MessageFlow.Proofs.Sweep.Progress
import MessageFlow.Proofs.Sweep.Turn
import MessageFlow.Proofs.Template.Simultaneous
import MessageFlow.Proofs.Template.Substitution
import MessageFlow.Proofs.Text.Classes
import MessageFlow.Proofs.Tickets.Claims
import MessageFlow.Proofs.Tickets.Delay
import MessageFlow.Proofs.Tickets.Grants
import MessageFlow.Proofs.Tickets.Ledger
import MessageFlow.Proofs.Tickets.LifeCycle
import MessageFlow.Proofs.Tickets.Parking
import MessageFlow.Proofs.Tickets.Provision
import MessageFlow.Proofs.Tickets.Rows
import MessageFlow.Proofs.Trail.Chart
import MessageFlow.Proofs.Trail.Effect
import MessageFlow.Proofs.Trail.Marks
import MessageFlow.Proofs.Trail.Replay
import MessageFlow.Proofs.Trail.Survey
import MessageFlow.Proofs.Trail.Task
import MessageFlow.Proofs.Trail.Track
import MessageFlow.Proofs.Trail.Traversal
import MessageFlow.Proofs.Trail.Walk
import MessageFlow.Proofs.Traversal.Journey
import MessageFlow.Proofs.Traversal.Lag
import MessageFlow.Proofs.Traversal.Limit
import MessageFlow.Proofs.Traversal.Pace
import MessageFlow.Proofs.Traversal.Successors
import MessageFlow.Proofs.Traversal.Targets
import MessageFlow.Proofs.Traversal.Visit
import MessageFlow.Proofs.Validation.Columns
import MessageFlow.Proofs.Validation.Delay
import MessageFlow.Proofs.Validation.Faultless
import MessageFlow.Proofs.Validation.Node
import MessageFlow.Proofs.Validation.Start
import MessageFlow.Proofs.Validation.Task
import MessageFlow.Proofs.Validation.Traversal
import MessageFlow.Proofs.Validation.Upkeep
import MessageFlow.Proofs.Validation.Watch
import MessageFlow.Run.Action
import MessageFlow.Run.Deletion
import MessageFlow.Run.Message
import MessageFlow.Run.Node
import MessageFlow.Run.Start
import MessageFlow.Run.Transition
import MessageFlow.Run.Traversal
import MessageFlow.Settings
import MessageFlow.Simulation.World
import MessageFlow.Store.Changes
import MessageFlow.Store.Executions
import MessageFlow.Store.Flows
import MessageFlow.Store.Query
import MessageFlow.Store.Tables
import MessageFlow.Store.Tickets
import MessageFlow.Sweep
import MessageFlow.Text.CaseTable
import MessageFlow.Text.Classes
import MessageFlow.Text.Lower
import MessageFlow.Text.Printable
import MessageFlow.Text.Quoted
import MessageFlow.Text.Search
import MessageFlow.Text.Utf8
import MessageFlow.Time.Calendar
import MessageFlow.Time.Fault
import MessageFlow.Time.Text
import MessageFlow.Time.Timestamp
import MessageFlow.Web.Address
import MessageFlow.Web.Domain
import MessageFlow.Web.Domain.Composed
import MessageFlow.Web.Domain.LabelTable
import MessageFlow.Web.Domain.MarkTable
import MessageFlow.Web.Domain.Punycode
import MessageFlow.Web.Domain.ScriptTable
import MessageFlow.Web.Host
import MessageFlow.Web.Percent
