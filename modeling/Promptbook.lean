import Promptbook.Character.Age
import Promptbook.Character.Binary
import Promptbook.Character.Category
import Promptbook.Character.Fold
import Promptbook.Character.Octets
import Promptbook.Character.Ranges
import Promptbook.Character.Script
import Promptbook.Character.Segment
import Promptbook.Character.Table
import Promptbook.CommandLine.Arguments
import Promptbook.CommandLine.Run
import Promptbook.Distinct
import Promptbook.Files.DiskTree
import Promptbook.Files.MemoryTree
import Promptbook.Files.Path
import Promptbook.Files.View
import Promptbook.Glob.Match
import Promptbook.Glob.Token
import Promptbook.Json
import Promptbook.Main
import Promptbook.Pattern.Expr
import Promptbook.Pattern.Form
import Promptbook.Pattern.Machine
import Promptbook.Pattern.Meaning
import Promptbook.Pattern.Opening
import Promptbook.Pattern.Property
import Promptbook.Pattern.Reader
import Promptbook.Pattern.Size
import Promptbook.Pattern.Token
import Promptbook.Prompt.Basic
import Promptbook.Prompt.Collection
import Promptbook.Prompt.Json
import Promptbook.Prompt.Options
import Promptbook.Proofs.CommandLine.Reading
import Promptbook.Proofs.CommandLine.Rendering
import Promptbook.Proofs.Console.Accounts
import Promptbook.Proofs.Console.Lines
import Promptbook.Proofs.Console.Picking
import Promptbook.Proofs.Files.Changes
import Promptbook.Proofs.Files.InMemory
import Promptbook.Proofs.Files.Joining
import Promptbook.Proofs.Files.Layout
import Promptbook.Proofs.Files.OnDisk
import Promptbook.Proofs.Files.PlainPath
import Promptbook.Proofs.Files.StandIn
import Promptbook.Proofs.Loading.LeftOut
import Promptbook.Proofs.Loading.ListingOrder
import Promptbook.Proofs.Loading.Spread
import Promptbook.Proofs.Loading.Visits
import Promptbook.Proofs.Prompt.Merging
import Promptbook.Proofs.Prompt.Regrouping
import Promptbook.Proofs.Session.Exporting
import Promptbook.Proofs.Session.History
import Promptbook.Proofs.Session.Loaded
import Promptbook.Proofs.Session.Repeating
import Promptbook.Proofs.Session.Steps
import Promptbook.Proofs.Substitution.Calls
import Promptbook.Proofs.Substitution.Choice
import Promptbook.Proofs.Substitution.Expansion
import Promptbook.Proofs.Substitution.Finders
import Promptbook.Proofs.Substitution.Literal
import Promptbook.Proofs.Substitution.Mirrors
import Promptbook.Proofs.Substitution.OneScan
import Promptbook.Proofs.Substitution.Parts
import Promptbook.Proofs.Substitution.Replay
import Promptbook.Proofs.Substitution.Settled
import Promptbook.Proofs.Substitution.Steering
import Promptbook.Proofs.Substitution.Steps
import Promptbook.Proofs.Substitution.Transcript
import Promptbook.Proofs.Template.Accepted
import Promptbook.Proofs.Template.Entries
import Promptbook.Proofs.Template.Faults
import Promptbook.Proofs.Template.FirstFault
import Promptbook.Proofs.Template.Grammar
import Promptbook.Proofs.Template.HeaderLine
import Promptbook.Proofs.Template.Ignored
import Promptbook.Proofs.Template.Joined
import Promptbook.Proofs.Template.LineNumbers
import Promptbook.Proofs.Template.Naming
import Promptbook.Proofs.Template.Records
import Promptbook.Proofs.Template.Remarks
import Promptbook.Proofs.Template.RoundTrip
import Promptbook.Proofs.Template.Segments
import Promptbook.Proofs.Template.Spelling
import Promptbook.Proofs.Template.Standing
import Promptbook.Proofs.Text.Cut
import Promptbook.Proofs.Text.Escape
import Promptbook.Proofs.Text.Lines
import Promptbook.Proofs.Text.OctetOrder
import Promptbook.Proofs.Text.Trim
import Promptbook.Proofs.Text.Written
import Promptbook.Proofs.Workspace.Edits
import Promptbook.Substitution.Console
import Promptbook.Substitution.Engine
import Promptbook.Substitution.Placeholder
import Promptbook.Substitution.Scripted
import Promptbook.Substitution.Search
import Promptbook.Substitution.Source
import Promptbook.Template.Error
import Promptbook.Template.Parser
import Promptbook.Template.Writer
import Promptbook.Text.Blank
import Promptbook.Text.Escape
import Promptbook.Text.Lines
import Promptbook.Text.Utf8
import Promptbook.Text.WordChar
import Promptbook.Toml.Document
import Promptbook.Toml.Text
import Promptbook.Workspace.Config
import Promptbook.Workspace.Error
import Promptbook.Workspace.Loader
import Promptbook.Workspace.Session
