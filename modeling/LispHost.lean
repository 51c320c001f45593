import LispHost.Binary
import LispHost.Binary.Reader
import LispHost.Binary.Stepwise
import LispHost.Bridge
import LispHost.Cli.Arguments
import LispHost.Cli.LogFilter
import LispHost.Cli.Pattern
import LispHost.Cli.Run
import LispHost.Config.Field
import LispHost.Config.Format
import LispHost.Config.Ini
import LispHost.Config.Json
import LispHost.Config.Json5
import LispHost.Config.Load
import LispHost.Config.Place
import LispHost.Config.Ron
import LispHost.Config.Settings
import LispHost.Config.Substitution
import LispHost.Config.Toml
import LispHost.Config.Toml.Table
import LispHost.Config.Toml.Time
import LispHost.Config.Tree
import LispHost.Config.Yaml
import LispHost.Config.Yaml.Block
import LispHost.Config.Yaml.Cursor
import LispHost.Config.Yaml.Label
import LispHost.Config.Yaml.Node
import LispHost.Config.Yaml.Plain
import LispHost.Config.Yaml.Quoted
import LispHost.Config.Yaml.Scalar
import LispHost.Config.Yaml.Token
import LispHost.Console
import LispHost.Decode
import LispHost.Ending
import LispHost.Error
import LispHost.Guest
import LispHost.Guest.Code
import LispHost.Guest.Instance
import LispHost.Guest.Script
import LispHost.Guest.Script.Reader
import LispHost.Heap
import LispHost.Heap.Table
import LispHost.Json
import LispHost.Json.Reader
import LispHost.Limits
import LispHost.Main
import LispHost.Memory
import LispHost.Projection
import LispHost.Projection.Json
import LispHost.Projection.Terminal
import LispHost.Proofs.Bridge.Binding
import LispHost.Proofs.Bridge.Bootstrap
import LispHost.Proofs.Bridge.Bounds
import LispHost.Proofs.Bridge.Content
import LispHost.Proofs.Bridge.Disguise
import LispHost.Proofs.Bridge.Earlier
import LispHost.Proofs.Bridge.Effects
import LispHost.Proofs.Bridge.Exits
import LispHost.Proofs.Bridge.Faults
import LispHost.Proofs.Bridge.Growth
import LispHost.Proofs.Bridge.HandOff
import LispHost.Proofs.Bridge.Introspection
import LispHost.Proofs.Bridge.Output
import LispHost.Proofs.Bridge.OwnFailures
import LispHost.Proofs.Bridge.Pages
import LispHost.Proofs.Bridge.Runs
import LispHost.Proofs.Bridge.StoreLimits
import LispHost.Proofs.Bridge.Visits
import LispHost.Proofs.Cli.Discipline
import LispHost.Proofs.Cli.Settings
import LispHost.Proofs.Config.Layering
import LispHost.Proofs.Config.Places
import LispHost.Proofs.Config.References
import LispHost.Proofs.Config.Settings
import LispHost.Proofs.Config.Written
import LispHost.Proofs.Decode.Ancestors
import LispHost.Proofs.Decode.Depth
import LispHost.Proofs.Decode.Detection
import LispHost.Proofs.Decode.Following
import LispHost.Proofs.Decode.Rules
import LispHost.Proofs.Decode.Runs
import LispHost.Proofs.Decode.Survey
import LispHost.Proofs.Decode.Transcript
import LispHost.Proofs.Decode.Truncation
import LispHost.Proofs.Guest.Calls
import LispHost.Proofs.Guest.Effects
import LispHost.Proofs.Guest.Fuel
import LispHost.Proofs.Guest.Minimal
import LispHost.Proofs.Guest.Still
import LispHost.Proofs.Json.Layout
import LispHost.Proofs.Json.Reading
import LispHost.Proofs.Json.Strings
import LispHost.Proofs.Memory.Accesses
import LispHost.Proofs.Memory.Bytes
import LispHost.Proofs.Projection.Notation
import LispHost.Proofs.Projection.Reader
import LispHost.Proofs.Projection.Rendering
import LispHost.Proofs.Report.Lossless
import LispHost.Proofs.Script.Building
import LispHost.Proofs.Script.Calls
import LispHost.Proofs.Script.Content
import LispHost.Proofs.Script.Layout
import LispHost.Proofs.Script.Metering
import LispHost.Proofs.Script.Relocation
import LispHost.Proofs.Script.Trees
import LispHost.Proofs.Session.Events
import LispHost.Proofs.Session.Exchanges
import LispHost.Proofs.Session.Input
import LispHost.Proofs.Session.Law
import LispHost.Proofs.Session.OneShot
import LispHost.Proofs.Session.Printing
import LispHost.Proofs.Session.Turns
import LispHost.Proofs.Syscall.Accounts
import LispHost.Proofs.Syscall.VectoredWrite
import LispHost.Proofs.Tag.Codes
import LispHost.Proofs.Tag.Inserts
import LispHost.Proofs.Terminal.Screen
import LispHost.Proofs.Text.Digits
import LispHost.Proofs.Text.Utf8
import LispHost.Proofs.Text.WellFormed
import LispHost.Proofs.View.Content
import LispHost.Proofs.View.LiveDecode
import LispHost.Proofs.View.Resolved
import LispHost.Proofs.View.Strings
import LispHost.Proofs.Word.Reader
import LispHost.Report
import LispHost.Row
import LispHost.Session
import LispHost.Syscall
import LispHost.Tag
import LispHost.Text.Blank
import LispHost.Text.Cased
import LispHost.Text.Diacritic
import LispHost.Text.Digits
import LispHost.Text.Edition
import LispHost.Text.Glyph
import LispHost.Text.Letter
import LispHost.Text.Lowercase
import LispHost.Text.Mark
import LispHost.Text.Numeral
import LispHost.Text.Quoted
import LispHost.Text.Ranges
import LispHost.Text.Scan
import LispHost.Text.Utf8
import LispHost.Text.WordChar
import LispHost.View
import LispHost.Wire
import LispHost.Word
import LispHost.Word.Reader
