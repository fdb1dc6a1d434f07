import ModuleBundler.Bundle.Error
import ModuleBundler.Bundle.Script
import ModuleBundler.Bundle.Writer
import ModuleBundler.CommandLine.Arguments
import ModuleBundler.CommandLine.Build
import ModuleBundler.CommandLine.Error
import ModuleBundler.Compilation
import ModuleBundler.Compiler.Config
import ModuleBundler.Compiler.Run
import ModuleBundler.Decimal.Binary
import ModuleBundler.Decimal.Fixed
import ModuleBundler.Decimal.Read
import ModuleBundler.Decimal.Shortest
import ModuleBundler.Execution
import ModuleBundler.FileSystem.Disk
import ModuleBundler.FileSystem.Host
import ModuleBundler.FileSystem.Memory
import ModuleBundler.FileSystem.Recorder
import ModuleBundler.Graph
import ModuleBundler.Graph.Shared
import ModuleBundler.Graph.Walk
import ModuleBundler.Hook.Basic
import ModuleBundler.Hook.Invocation
import ModuleBundler.Hook.Registry
import ModuleBundler.Hook.Task
import ModuleBundler.Json.Decode
import ModuleBundler.Json.Document
import ModuleBundler.Json.Quote
import ModuleBundler.Json.Value
import ModuleBundler.Loader.Builtin
import ModuleBundler.Loader.Rule
import ModuleBundler.Log
import ModuleBundler.Lowering.Accessor
import ModuleBundler.Lowering.Emission
import ModuleBundler.Lowering.Lower
import ModuleBundler.Lowering.Splice
import ModuleBundler.Main
import ModuleBundler.Module
import ModuleBundler.Module.Builder
import ModuleBundler.Module.Decode
import ModuleBundler.Module.Transformer
import ModuleBundler.ModuleId
import ModuleBundler.OrderedMap
import ModuleBundler.Path
import ModuleBundler.Plugin.Api
import ModuleBundler.Plugin.Builtin
import ModuleBundler.Project
import ModuleBundler.Project.Config
import ModuleBundler.Project.Decode
import ModuleBundler.Project.Error
import ModuleBundler.Project.Load
import ModuleBundler.Project.Setting
import ModuleBundler.Regex.CharacterSet
import ModuleBundler.Regex.Expression
import ModuleBundler.Regex.Property
import ModuleBundler.Regex.Reader
import ModuleBundler.Report
import ModuleBundler.Script.Character
import ModuleBundler.Script.Expression
import ModuleBundler.Script.Function
import ModuleBundler.Script.Lexer
import ModuleBundler.Script.Literal
import ModuleBundler.Script.Name
import ModuleBundler.Script.Parser
import ModuleBundler.Script.Pattern
import ModuleBundler.Script.Program
import ModuleBundler.Script.Statement
import ModuleBundler.Script.Token
import ModuleBundler.Script.Tree
import ModuleBundler.Text.Literal
import ModuleBundler.Text.Utf8
import ModuleBundler.Unicode.Alphanumeric
import ModuleBundler.Unicode.Blank
import ModuleBundler.Unicode.Boundaries
import ModuleBundler.Unicode.CaseMapping
import ModuleBundler.Unicode.Category
import ModuleBundler.Unicode.Identifier
import ModuleBundler.Unicode.Printable
import ModuleBundler.Unicode.WritingSystem
import ModuleBundler.Proofs.Bundle.Execution
import ModuleBundler.Proofs.Bundle.Loader
import ModuleBundler.Proofs.Bundle.Writer
import ModuleBundler.Proofs.Compiler.Artifact
import ModuleBundler.Proofs.Compiler.Dependence
import ModuleBundler.Proofs.Compiler.Order
import ModuleBundler.Proofs.Compiler.Plain
import ModuleBundler.Proofs.Compiler.Reading
import ModuleBundler.Proofs.Compiler.Stages
import ModuleBundler.Proofs.Compiler.Step
import ModuleBundler.Proofs.Compiler.Watch
import ModuleBundler.Proofs.Coupling
import ModuleBundler.Proofs.Execution.Limit
import ModuleBundler.Proofs.Execution.Route
import ModuleBundler.Proofs.FileSystem.Consistency
import ModuleBundler.Proofs.FileSystem.Dependence
import ModuleBundler.Proofs.FileSystem.Memory
import ModuleBundler.Proofs.FileSystem.Reading
import ModuleBundler.Proofs.FileSystem.Record
import ModuleBundler.Proofs.Graph.Breadth
import ModuleBundler.Proofs.Graph.Course
import ModuleBundler.Proofs.Graph.Discovery
import ModuleBundler.Proofs.Graph.Expansion
import ModuleBundler.Proofs.Graph.Growth
import ModuleBundler.Proofs.Graph.Limit
import ModuleBundler.Proofs.Graph.Sharing
import ModuleBundler.Proofs.Graph.Store
import ModuleBundler.Proofs.Graph.Termination
import ModuleBundler.Proofs.Graph.Written
import ModuleBundler.Proofs.Hook.Frame
import ModuleBundler.Proofs.Hook.Fuel
import ModuleBundler.Proofs.Hook.History
import ModuleBundler.Proofs.Hook.Isolation
import ModuleBundler.Proofs.Hook.Mode
import ModuleBundler.Proofs.Hook.Parallel
import ModuleBundler.Proofs.Hook.Registry
import ModuleBundler.Proofs.Hook.Schedule
import ModuleBundler.Proofs.Hook.Watch
import ModuleBundler.Proofs.Json.Canonical
import ModuleBundler.Proofs.Json.Compact
import ModuleBundler.Proofs.Json.Grammar
import ModuleBundler.Proofs.Json.Members
import ModuleBundler.Proofs.Json.Reading
import ModuleBundler.Proofs.Json.Record
import ModuleBundler.Proofs.Json.Scalar
import ModuleBundler.Proofs.Loader.Json
import ModuleBundler.Proofs.Loader.Pipeline
import ModuleBundler.Proofs.Loader.Raw
import ModuleBundler.Proofs.Lowering.Accessor
import ModuleBundler.Proofs.Lowering.Assignments
import ModuleBundler.Proofs.Lowering.DefaultImport
import ModuleBundler.Proofs.Lowering.Dependencies
import ModuleBundler.Proofs.Lowering.Evaluation
import ModuleBundler.Proofs.Lowering.Exports
import ModuleBundler.Proofs.Lowering.Generated
import ModuleBundler.Proofs.Lowering.Imports
import ModuleBundler.Proofs.Lowering.Layout
import ModuleBundler.Proofs.Lowering.Outline
import ModuleBundler.Proofs.Lowering.Preamble
import ModuleBundler.Proofs.Lowering.Reading
import ModuleBundler.Proofs.Lowering.Reexport
import ModuleBundler.Proofs.Lowering.Requirements
import ModuleBundler.Proofs.Lowering.Rewriting
import ModuleBundler.Proofs.Lowering.Separation
import ModuleBundler.Proofs.Lowering.Splice
import ModuleBundler.Proofs.Lowering.Stable
import ModuleBundler.Proofs.Mirror
import ModuleBundler.Proofs.Module.Joining
import ModuleBundler.Proofs.Module.Probing
import ModuleBundler.Proofs.ModuleId
import ModuleBundler.Proofs.Path
import ModuleBundler.Proofs.Path.Ancestors
import ModuleBundler.Proofs.Path.Steps
import ModuleBundler.Proofs.Plugin.Manifest
import ModuleBundler.Proofs.Project.Config
import ModuleBundler.Proofs.Project.Decode
import ModuleBundler.Proofs.Project.Layers
import ModuleBundler.Proofs.Project.Load
import ModuleBundler.Proofs.Script.Binding
import ModuleBundler.Proofs.Script.Border
import ModuleBundler.Proofs.Script.Call
import ModuleBundler.Proofs.Script.Chain
import ModuleBundler.Proofs.Script.Compound
import ModuleBundler.Proofs.Script.Expression
import ModuleBundler.Proofs.Script.Front
import ModuleBundler.Proofs.Script.Function
import ModuleBundler.Proofs.Script.Gap
import ModuleBundler.Proofs.Script.Import
import ModuleBundler.Proofs.Script.Literal
import ModuleBundler.Proofs.Script.Loop
import ModuleBundler.Proofs.Script.Operand
import ModuleBundler.Proofs.Script.Pattern
import ModuleBundler.Proofs.Script.Program
import ModuleBundler.Proofs.Script.Progress
import ModuleBundler.Proofs.Script.Relocation.Expression
import ModuleBundler.Proofs.Script.Relocation.Function
import ModuleBundler.Proofs.Script.Relocation.Parser
import ModuleBundler.Proofs.Script.Relocation.Pattern
import ModuleBundler.Proofs.Script.Relocation.Program
import ModuleBundler.Proofs.Script.Relocation.Scan
import ModuleBundler.Proofs.Script.Relocation.Statement
import ModuleBundler.Proofs.Script.Run
import ModuleBundler.Proofs.Script.Scan
import ModuleBundler.Proofs.Script.Simple
import ModuleBundler.Proofs.Script.Site
import ModuleBundler.Proofs.Script.Spelling
import ModuleBundler.Proofs.Script.Statement
import ModuleBundler.Proofs.Script.Track
import ModuleBundler.Proofs.Script.Word
import ModuleBundler.Proofs.Script.Yield
import ModuleBundler.Proofs.World
