import NativeBridge.Binding.Session
import NativeBridge.Engine.LogSink
import NativeBridge.Engine.Stub
import NativeBridge.Engine.Entities
import NativeBridge.Engine.World
import NativeBridge.Expansion.Blittable
import NativeBridge.Expansion.Export
import NativeBridge.Main
import NativeBridge.Proofs.Host.Request
import NativeBridge.Proofs.Host.ExportTable
import NativeBridge.Proofs.Binding.Process
import NativeBridge.Proofs.Export.Position
import NativeBridge.Proofs.Export.Resolution
import NativeBridge.Proofs.Export.Acceptance
import NativeBridge.Proofs.Generation.Run
import NativeBridge.Proofs.Generation.Hosting
import NativeBridge.Proofs.Generation.NativeFunctions
import NativeBridge.Proofs.Stub.BlockSize
import NativeBridge.Proofs.Stub.Call
import NativeBridge.Proofs.Layout.Placement
import NativeBridge.Proofs.Layout.Alignment
import NativeBridge.Proofs.Path
import NativeBridge.Proofs.TypeMap.Containment
import NativeBridge.Proofs.TypeMap.Progress
import NativeBridge.Proofs.TypeMap.Steps
import NativeBridge.Proofs.TypeMap.Walk
import NativeBridge.Proofs.TypeMap.Build
import NativeBridge.Proofs.TypeMap.Leaves
import NativeBridge.Proofs.TypeMap.Traversal
import NativeBridge.Proofs.TypeMap.Termination
import NativeBridge.Proofs.Generation.Artifacts
import NativeBridge.Proofs.Host.Listing
import NativeBridge.Proofs.Binding.History
import NativeBridge.Proofs.TypeMap.Lookup
import NativeBridge.Proofs.Export.Uses
import NativeBridge.Proofs.Export.Imports
import NativeBridge.Proofs.Stub.Assertions
import NativeBridge.Proofs.Stub.SlotSize
import NativeBridge.Proofs.Stub.Lines
import NativeBridge.Proofs.Stub.Exports
import NativeBridge.Proofs.Stub.Registration
import NativeBridge.Proofs.Generation.Emission
import NativeBridge.Proofs.TypeMap.Registration
import NativeBridge.Proofs.Declarations.Types
import NativeBridge.Proofs.Declarations.Exports
import NativeBridge.Proofs.Declarations.Reading
import NativeBridge.Proofs.Expansion.Export
import NativeBridge.Proofs.Expansion.Blittable
import NativeBridge.Proofs.Expansion.Helpers
import NativeBridge.Proofs.Source.Parser
import NativeBridge.Proofs.Annotation.Arguments
import NativeBridge.Proofs.TypeMap.Order
import NativeBridge.Proofs.Generation.Separation
import NativeBridge.Proofs.Stub.Kinds
import NativeBridge.Proofs.Engine.World
import NativeBridge.Proofs.Engine.Spawning
import NativeBridge.Proofs.Engine.Store
import NativeBridge.Proofs.Export.Spelling
import NativeBridge.Proofs.Export.Batch
import NativeBridge.Proofs.Stub.Members
import NativeBridge.Proofs.Stub.RelativeNames
import NativeBridge.Proofs.Annotation.Items
import NativeBridge.Proofs.Expansion.Reading
import NativeBridge.Proofs.Files.Directories
import NativeBridge.Proofs.Files.Texts
import NativeBridge.Proofs.Generation.Sources
import NativeBridge.Proofs.Generation.Writing
import NativeBridge.Proofs.Generation.Repetition
import NativeBridge.Proofs.Naming.SnakeCase
import NativeBridge.Proofs.Naming.Idiomatic
import NativeBridge.Proofs.Export.MethodNames
import NativeBridge.Proofs.Stub.Scope
import NativeBridge.Proofs.Stub.Identifiers
import NativeBridge.Proofs.Engine.Sum
import NativeBridge.Proofs.Engine.LogSink
import NativeBridge.Proofs.CommandLine.Configuration
import NativeBridge.Proofs.Stub.ItemPaths
