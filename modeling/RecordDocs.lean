import RecordDocs.AnnotatedClass
import RecordDocs.Annotation.Access
import RecordDocs.Annotation.Builtin
import RecordDocs.Annotation.Expression
import RecordDocs.Annotation.Fault
import RecordDocs.Annotation.Formation
import RecordDocs.Annotation.Memory
import RecordDocs.Annotation.Rendering
import RecordDocs.Annotation.Sameness
import RecordDocs.Annotation.Scope
import RecordDocs.Annotation.Substitution
import RecordDocs.Annotation.Token
import RecordDocs.Annotation.TypeForm
import RecordDocs.Annotation.Vocabulary
import RecordDocs.Annotation.Wording
import RecordDocs.Command.Invocation
import RecordDocs.Command.Options
import RecordDocs.Command.Run
import RecordDocs.DocNode
import RecordDocs.Expansion
import RecordDocs.Files.FileTree
import RecordDocs.Files.Path
import RecordDocs.Frontend.Basic
import RecordDocs.Frontend.Discovery
import RecordDocs.Json.Reader
import RecordDocs.Json.Writer
import RecordDocs.Keyed
import RecordDocs.Logging
import RecordDocs.Main
import RecordDocs.Number.Binary64
import RecordDocs.Number.FloatLiteral
import RecordDocs.Number.Integer
import RecordDocs.Number.Shortest
import RecordDocs.Proofs.Attempt
import RecordDocs.Proofs.CycleGuard
import RecordDocs.Proofs.ExpansionParts
import RecordDocs.Proofs.Locality
import RecordDocs.Proofs.ReferenceChain
import RecordDocs.Proofs.ReferenceGraph
import RecordDocs.Proofs.RegistryRecords
import RecordDocs.Publication
import RecordDocs.Record
import RecordDocs.Reflection
import RecordDocs.Registry
import RecordDocs.Schema.Document
import RecordDocs.Service
import RecordDocs.Session
import RecordDocs.Settings
import RecordDocs.Signature
import RecordDocs.Text.Blank
import RecordDocs.Text.CharacterName
import RecordDocs.Text.CharacterName.Alias
import RecordDocs.Text.CharacterName.Alphabets
import RecordDocs.Text.CharacterName.Historic
import RecordDocs.Text.CharacterName.Modern
import RecordDocs.Text.CharacterName.Notation
import RecordDocs.Text.CharacterName.Pictures
import RecordDocs.Text.CharacterName.Shapes
import RecordDocs.Text.CharacterName.Syllabaries
import RecordDocs.Text.CharacterName.Symbols
import RecordDocs.Text.Code
import RecordDocs.Text.Compatibility
import RecordDocs.Text.CompatibilityTable
import RecordDocs.Text.Identifier
import RecordDocs.Text.Lines
import RecordDocs.Text.Lowercase
import RecordDocs.Text.Margin
import RecordDocs.Text.Percent
import RecordDocs.Text.Printable
import RecordDocs.Text.Quoted
import RecordDocs.Text.Surrogate
import RecordDocs.Text.Utf8
import RecordDocs.Text.WordCharacter
import RecordDocs.Value
import RecordDocs.Yaml.Cursor
import RecordDocs.Yaml.Event
import RecordDocs.Yaml.Node
import RecordDocs.Yaml.Property
import RecordDocs.Yaml.Reader
import RecordDocs.Yaml.Scalar
import RecordDocs.Yaml.Tag
import RecordDocs.Yaml.Timestamp
import RecordDocs.Yaml.Token
import RecordDocs.Yaml.TokenList
import RecordDocs.Yaml.Writer
import RecordDocs.Proofs.Inlining
import RecordDocs.Proofs.Brackets
import RecordDocs.Proofs.SignatureGrammar
import RecordDocs.Proofs.SignatureRendering
import RecordDocs.Proofs.JsonText
import RecordDocs.Proofs.WrittenTrees
import RecordDocs.Proofs.PublicationText
import RecordDocs.Proofs.Outcomes
import RecordDocs.Proofs.WrittenDocuments
import RecordDocs.Proofs.JsonValues
import RecordDocs.Proofs.SchemaGrammar
import RecordDocs.Proofs.SessionHistory
import RecordDocs.Proofs.SchemaFiles
import RecordDocs.Proofs.FileChanges
import RecordDocs.Proofs.RunSteps
import RecordDocs.Proofs.AllOrNothing
import RecordDocs.Proofs.BuildRuns
import RecordDocs.Proofs.PublishedTrees
import RecordDocs.Proofs.FrontendDiscovery
import RecordDocs.Proofs.SettingsFiles
import RecordDocs.Proofs.Pruning
import RecordDocs.Proofs.ReferenceLaws
import RecordDocs.Proofs.DeclaredNames
import RecordDocs.Proofs.RepeatedMembers
import RecordDocs.Proofs.RepeatedDeclarations
import RecordDocs.Proofs.TextLabels
import RecordDocs.Proofs.SignatureArguments
import RecordDocs.Proofs.CommaPieces
import RecordDocs.Proofs.AnnotationSignatures
import RecordDocs.Proofs.ParametersAndLiterals
import RecordDocs.Proofs.FieldReadings
import RecordDocs.Proofs.UnresolvableFields
import RecordDocs.Proofs.PlainReadings
import RecordDocs.Proofs.TreeWalks
import RecordDocs.Proofs.ReadTrees
import RecordDocs.Proofs.PayloadGrammar
import RecordDocs.Proofs.TextsAsDocLines
import RecordDocs.Proofs.DistinctPaths
import RecordDocs.Proofs.ExpansionNotes
import RecordDocs.Proofs.RegistryMerging
import RecordDocs.Proofs.SettingsByKey
import RecordDocs.Proofs.TreesApart
import RecordDocs.Proofs.LoadsApart
import RecordDocs.Proofs.HiddenSettings
import RecordDocs.Proofs.EncodedText
import RecordDocs.Proofs.TextPieces
import RecordDocs.Proofs.ListedTypes
import RecordDocs.Proofs.RegistryTables
import RecordDocs.Proofs.Members
import RecordDocs.Proofs.DocSpellings
import RecordDocs.Proofs.CleanedText
import RecordDocs.Proofs.WrittenDocs
import RecordDocs.Proofs.LoggerSetup
import RecordDocs.Proofs.AngledTexts
