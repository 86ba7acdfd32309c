import LanguageHost.Bus.Basic
import LanguageHost.Bus.Scripted
import LanguageHost.Child.Basic
import LanguageHost.Child.Conversation
import LanguageHost.Child.Executable
import LanguageHost.Child.Format
import LanguageHost.Child.Launch
import LanguageHost.Child.Program
import LanguageHost.Child.Scope
import LanguageHost.Child.Script
import LanguageHost.Child.Shell
import LanguageHost.Child.Tool
import LanguageHost.CommandLine
import LanguageHost.Console
import LanguageHost.Console.Emoji
import LanguageHost.Console.Layout
import LanguageHost.Console.Markup
import LanguageHost.Console.Style
import LanguageHost.Fault
import LanguageHost.FileSystem.Basic
import LanguageHost.FileSystem.Change
import LanguageHost.FileSystem.SearchPath
import LanguageHost.FileSystem.Step
import LanguageHost.Folders
import LanguageHost.Host.Adapter
import LanguageHost.Host.Changes
import LanguageHost.Host.Command
import LanguageHost.Host.Dialogue
import LanguageHost.Host.Listeners
import LanguageHost.Host.Operation
import LanguageHost.Host.Plugin
import LanguageHost.Host.Session
import LanguageHost.Host.State
import LanguageHost.Host.Wire
import LanguageHost.Journal.Basic
import LanguageHost.Journal.Command
import LanguageHost.Journal.Instant
import LanguageHost.Journal.Logger
import LanguageHost.Journal.Opening
import LanguageHost.Json.Basic
import LanguageHost.Json.Lenient
import LanguageHost.Json.Loose
import LanguageHost.Json.Printer
import LanguageHost.Json.Strict
import LanguageHost.Locate
import LanguageHost.Main
import LanguageHost.Members
import LanguageHost.Number.Binary64
import LanguageHost.Number.Shortest
import LanguageHost.Path.Basic
import LanguageHost.Preferences.Document
import LanguageHost.Preferences.Store
import LanguageHost.Proofs.Action
import LanguageHost.Proofs.AddedProjects
import LanguageHost.Proofs.Address
import LanguageHost.Proofs.Announcement
import LanguageHost.Proofs.Answering
import LanguageHost.Proofs.Attendance
import LanguageHost.Proofs.Audience
import LanguageHost.Proofs.Block
import LanguageHost.Proofs.Change
import LanguageHost.Proofs.Characters
import LanguageHost.Proofs.Closing
import LanguageHost.Proofs.Coherence
import LanguageHost.Proofs.Delivery
import LanguageHost.Proofs.DeltaLog
import LanguageHost.Proofs.DeltaTree
import LanguageHost.Proofs.Descent
import LanguageHost.Proofs.Digestible
import LanguageHost.Proofs.Dispatch
import LanguageHost.Proofs.Documents
import LanguageHost.Proofs.Entries
import LanguageHost.Proofs.FirstAnswer
import LanguageHost.Proofs.FolderSearch
import LanguageHost.Proofs.FolderView
import LanguageHost.Proofs.Folders
import LanguageHost.Proofs.Grammar
import LanguageHost.Proofs.Greeting
import LanguageHost.Proofs.Handshake
import LanguageHost.Proofs.InitialFolders
import LanguageHost.Proofs.Lifecycle
import LanguageHost.Proofs.Link
import LanguageHost.Proofs.Loading
import LanguageHost.Proofs.Locations
import LanguageHost.Proofs.LogUses
import LanguageHost.Proofs.Lookup
import LanguageHost.Proofs.NewsOrder
import LanguageHost.Proofs.Outbound
import LanguageHost.Proofs.Places
import LanguageHost.Proofs.PreferenceLog
import LanguageHost.Proofs.Printing
import LanguageHost.Proofs.Printout
import LanguageHost.Proofs.Reading
import LanguageHost.Proofs.Reentry
import LanguageHost.Proofs.Replies
import LanguageHost.Proofs.ResourceTree
import LanguageHost.Proofs.RootAddress
import LanguageHost.Proofs.RoundTrip
import LanguageHost.Proofs.SavedValues
import LanguageHost.Proofs.Saving
import LanguageHost.Proofs.SchemaCommands
import LanguageHost.Proofs.Seeding
import LanguageHost.Proofs.Shapes
import LanguageHost.Proofs.SharedRegistry
import LanguageHost.Proofs.Shutdown
import LanguageHost.Proofs.Standing
import LanguageHost.Proofs.StartFailures
import LanguageHost.Proofs.Strings
import LanguageHost.Proofs.StructuredSchemas
import LanguageHost.Proofs.Subscriptions
import LanguageHost.Proofs.Taking
import LanguageHost.Proofs.Talk
import LanguageHost.Proofs.Teardown
import LanguageHost.Proofs.Thinning
import LanguageHost.Proofs.Traversal
import LanguageHost.Proofs.Turn
import LanguageHost.Proofs.Unplugging
import LanguageHost.Proofs.Utf8
import LanguageHost.Proofs.Values
import LanguageHost.Proofs.View
import LanguageHost.Proofs.Wire
import LanguageHost.Proofs.Writing
import LanguageHost.Rejection
import LanguageHost.Report
import LanguageHost.Schema.Mapping
import LanguageHost.Server.Connection
import LanguageHost.Server.Definition
import LanguageHost.Server.Failure
import LanguageHost.Server.Framing
import LanguageHost.Server.Message
import LanguageHost.Server.Method
import LanguageHost.Server.Rehearsal
import LanguageHost.Server.Waiting
import LanguageHost.Server.YamlProvider
import LanguageHost.Settings
import LanguageHost.Text.Basic
import LanguageHost.Text.Blank
import LanguageHost.Text.Case
import LanguageHost.Text.Columns
import LanguageHost.Text.Literal
import LanguageHost.Text.Printable
import LanguageHost.Text.Utf8
import LanguageHost.UserPaths
import LanguageHost.Workspace.Delta
import LanguageHost.Workspace.Projects
import LanguageHost.Workspace.Resource
import LanguageHost.Workspace.Walk
import LanguageHost.Proofs.LogLines
import LanguageHost.Proofs.EventMasks
import LanguageHost.Proofs.ShownFile
