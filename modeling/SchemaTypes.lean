import SchemaTypes.Identifier.Style
import SchemaTypes.Toml.Decoder
import SchemaTypes.Schema.Manifest
import SchemaTypes.Schema.Storage
import SchemaTypes.Declaration.Text
import SchemaTypes.Declaration.OfCatalog
import SchemaTypes.Files.Tree
import SchemaTypes.Ignore.Folder
import SchemaTypes.Project.SettingsFile
import SchemaTypes.Project.Pass
import SchemaTypes.Project.Watch
import SchemaTypes.CommandLine.Session
import SchemaTypes.Main
import SchemaTypes.Proofs.Schema.Consistency
import SchemaTypes.Proofs.Schema.History
import SchemaTypes.Proofs.Project.Pass
import SchemaTypes.Proofs.Project.Repetition
import SchemaTypes.Proofs.Project.Rehearsal
import SchemaTypes.Proofs.Declaration.OfCatalog
import SchemaTypes.Proofs.Project.Locality
import SchemaTypes.Proofs.Declaration.Property
import SchemaTypes.Proofs.Identifier.Ascii
import SchemaTypes.Proofs.Project.Coverage
import SchemaTypes.Proofs.Declaration.Line
import SchemaTypes.Proofs.Declaration.Reading
import SchemaTypes.Proofs.Declaration.Injectivity
import SchemaTypes.Proofs.Schema.Refusal
import SchemaTypes.Proofs.Project.Watching
import SchemaTypes.Proofs.Project.Generation
import SchemaTypes.Proofs.Text.ByteOrder
import SchemaTypes.Proofs.Text.Joined
import SchemaTypes.Proofs.Declaration.Imports
import SchemaTypes.Proofs.Declaration.Literal
import SchemaTypes.Proofs.Declaration.Keys
import SchemaTypes.Proofs.Identifier.Letters
import SchemaTypes.Proofs.Declaration.Comment
import SchemaTypes.Proofs.Declaration.Decoration
import SchemaTypes.Proofs.Schema.Blame
import SchemaTypes.Proofs.Files.FileName
import SchemaTypes.Proofs.Project.Naming
import SchemaTypes.Proofs.Project.Accounting
import SchemaTypes.Proofs.Project.Checking
import SchemaTypes.Proofs.CommandLine.Checking
import SchemaTypes.Proofs.Declaration.Capture
import SchemaTypes.Proofs.Declaration.Composition
import SchemaTypes.Proofs.Identifier.Words
import SchemaTypes.Proofs.Identifier.ImportPath
import SchemaTypes.Proofs.Identifier.Spelling
import SchemaTypes.Proofs.Toml.Keys
import SchemaTypes.Proofs.Toml.Record
import SchemaTypes.Proofs.Schema.Manifest
import SchemaTypes.Proofs.Project.Precedence
import SchemaTypes.Proofs.Project.Discovery
import SchemaTypes.Proofs.Project.OutputFolder
