import StoreGuard.Chain
import StoreGuard.CommandLine.Arguments
import StoreGuard.CommandLine.Run
import StoreGuard.Context
import StoreGuard.Dictionary
import StoreGuard.Floating.Basic
import StoreGuard.Floating.Shortest
import StoreGuard.Floating.Text
import StoreGuard.Json.Basic
import StoreGuard.Json.Datum
import StoreGuard.Json.Decode
import StoreGuard.Json.Document
import StoreGuard.Json.Mismatch
import StoreGuard.Json.Numeral
import StoreGuard.Json.Printer
import StoreGuard.Limits.Basic
import StoreGuard.Limits.Reading
import StoreGuard.Main
import StoreGuard.Pattern.Class
import StoreGuard.Pattern.Parser
import StoreGuard.Pattern.Regex
import StoreGuard.Pattern.Search
import StoreGuard.Pattern.Size
import StoreGuard.Proofs.Assembly
import StoreGuard.Proofs.Basic
import StoreGuard.Proofs.Chain
import StoreGuard.Proofs.CommandLine.Run
import StoreGuard.Proofs.Context
import StoreGuard.Proofs.Dictionary
import StoreGuard.Proofs.Floating.Order
import StoreGuard.Proofs.Json.Datum
import StoreGuard.Proofs.Json.Fields
import StoreGuard.Proofs.Json.Found
import StoreGuard.Proofs.Json.Lines
import StoreGuard.Proofs.Json.Nesting
import StoreGuard.Proofs.Json.Record
import StoreGuard.Proofs.Json.RoundTrip
import StoreGuard.Proofs.Json.Says
import StoreGuard.Proofs.Json.Spelling
import StoreGuard.Proofs.Json.Tree
import StoreGuard.Proofs.Limits.Datum
import StoreGuard.Proofs.Limits.Document
import StoreGuard.Proofs.Limits.Evidence
import StoreGuard.Proofs.Limits.Guard
import StoreGuard.Proofs.Limits.Json
import StoreGuard.Proofs.Limits.Looser
import StoreGuard.Proofs.Limits.Printed
import StoreGuard.Proofs.Limits.Reading
import StoreGuard.Proofs.Limits.Report
import StoreGuard.Proofs.Limits.Status
import StoreGuard.Proofs.Limits.Storable
import StoreGuard.Proofs.Limits.Stored
import StoreGuard.Proofs.Limits.Tightest
import StoreGuard.Proofs.Pattern.Row
import StoreGuard.Proofs.Pattern.Search
import StoreGuard.Proofs.Report
import StoreGuard.Proofs.Rules.Address
import StoreGuard.Proofs.Rules.BuiltIn
import StoreGuard.Proofs.Rules.CharacterClass
import StoreGuard.Proofs.Rules.Echo
import StoreGuard.Proofs.Rules.Measure
import StoreGuard.Proofs.Rules.Number
import StoreGuard.Proofs.Rules.Stored
import StoreGuard.Proofs.Rules.Text
import StoreGuard.Proofs.Store.Clients
import StoreGuard.Proofs.Store.Fusion
import StoreGuard.Proofs.Store.Guard
import StoreGuard.Proofs.Store.Machine
import StoreGuard.Proofs.Store.Memory
import StoreGuard.Proofs.Store.Run
import StoreGuard.Proofs.Store.Stack
import StoreGuard.Proofs.Text.ByteOrder
import StoreGuard.Proofs.Text.Utf8
import StoreGuard.Proofs.Toml.Lines
import StoreGuard.Proofs.Toml.Table
import StoreGuard.Proofs.Toml.Value
import StoreGuard.Proofs.Unicode.CodeSet
import StoreGuard.Proofs.Verdict
import StoreGuard.Proofs.Violation
import StoreGuard.Proofs.Violation.Given
import StoreGuard.Report
import StoreGuard.Rule
import StoreGuard.Rules.Number
import StoreGuard.Rules.Stored
import StoreGuard.Rules.Text
import StoreGuard.Store.Basic
import StoreGuard.Store.Failure
import StoreGuard.Store.Guard
import StoreGuard.Text.Character
import StoreGuard.Text.Quoted
import StoreGuard.Text.Utf8
import StoreGuard.Toml.Document
import StoreGuard.Toml.Number
import StoreGuard.Toml.Table
import StoreGuard.Toml.Text
import StoreGuard.Unicode.Age
import StoreGuard.Unicode.Binary
import StoreGuard.Unicode.CaseFold
import StoreGuard.Unicode.CodeSet
import StoreGuard.Unicode.GeneralCategory
import StoreGuard.Unicode.Lookup
import StoreGuard.Unicode.Script
import StoreGuard.Unicode.ScriptExtensions
import StoreGuard.Unicode.Segmentation
import StoreGuard.Verdict
import StoreGuard.Violation
