import SnapshotTypes.Emission
import SnapshotTypes.FileTree
import SnapshotTypes.Main
import SnapshotTypes.Text.Spelled
import SnapshotTypes.Proofs.Text.Split
import SnapshotTypes.Proofs.Assembly.RecordTable
import SnapshotTypes.Proofs.Assembly.Translation
import SnapshotTypes.Proofs.Assembly.Failure
import SnapshotTypes.Proofs.Emission.Lines
import SnapshotTypes.Proofs.Emission.Tokens
import SnapshotTypes.Proofs.Emission.Unambiguous
import SnapshotTypes.Proofs.Assembly.Layouts
import SnapshotTypes.Proofs.TypeName.Characters
import SnapshotTypes.Proofs.Json.Outcomes
import SnapshotTypes.Proofs.Json.Tree
import SnapshotTypes.Proofs.Json.TreeReading
import SnapshotTypes.Proofs.Json.Skipping
import SnapshotTypes.Proofs.Json.Simulation
import SnapshotTypes.Proofs.Json.RecordSimulation
import SnapshotTypes.Proofs.Json.TreeSnapshot
import SnapshotTypes.Proofs.Assembly.Dependence
import SnapshotTypes.Proofs.Assembly.FieldTypes
import SnapshotTypes.Proofs.Assembly.Partition
import SnapshotTypes.Proofs.Assembly.Clashes
import SnapshotTypes.Proofs.Assembly.Names
import SnapshotTypes.Proofs.TypeName.Spelling
import SnapshotTypes.Proofs.TypeName.Identifiers
import SnapshotTypes.Proofs.FilePath.Enclosing
import SnapshotTypes.Proofs.FilePath.LastComponent
import SnapshotTypes.Proofs.Loading
import SnapshotTypes.Proofs.CommandLine.Words
import SnapshotTypes.Proofs.CommandLine.Phrases
import SnapshotTypes.Proofs.FileTree.Walking
import SnapshotTypes.Proofs.FileTree.Requests
import SnapshotTypes.Proofs.FileTree.Growth
import SnapshotTypes.Proofs.Generation.Stages
import SnapshotTypes.Proofs.Generation.Failure
import SnapshotTypes.Proofs.Generation.Repetition
import SnapshotTypes.Proofs.Emission.Strokes
import SnapshotTypes.Proofs.Assembly.FieldNames
import SnapshotTypes.Proofs.TypeName.NormalForm
import SnapshotTypes.Proofs.TypeName.SnakeCase
import SnapshotTypes.Proofs.Assembly.SnakeCase
import SnapshotTypes.Proofs.Yaml.Quoted
import SnapshotTypes.Proofs.Yaml.Turns
import SnapshotTypes.Proofs.Yaml.Lexemes
import SnapshotTypes.Proofs.Yaml.Tokens
import SnapshotTypes.Proofs.Yaml.Nodes
import SnapshotTypes.Proofs.Yaml.Reading
import SnapshotTypes.Proofs.Decoding
import SnapshotTypes.Proofs.Emission.PropertyNames
import SnapshotTypes.Proofs.Emission.Unions
import SnapshotTypes.Proofs.Assembly.Collisions
import SnapshotTypes.Proofs.Json.Brackets
import SnapshotTypes.Proofs.Json.Truncation
import SnapshotTypes.Proofs.Json.Locality
import SnapshotTypes.Proofs.Json.Remainder
import SnapshotTypes.Proofs.Json.Leads
import SnapshotTypes.Proofs.Json.FaultPaths
import SnapshotTypes.Proofs.Json.Misfits
