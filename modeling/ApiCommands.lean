import ApiCommands.Text.Alphanumeric
import ApiCommands.Text.Blank
import ApiCommands.Text.CharRuns
import ApiCommands.Text.Digits
import ApiCommands.Text.Base64
import ApiCommands.Text.Half
import ApiCommands.Text.LetterCase
import ApiCommands.Text.NameChars
import ApiCommands.Text.Percent
import ApiCommands.Text.Pieces
import ApiCommands.Text.Printable
import ApiCommands.Text.Quoted
import ApiCommands.Number.Binary64
import ApiCommands.Number.Numeral
import ApiCommands.Number.Shortest
import ApiCommands.Calendar.DateTime
import ApiCommands.Calendar.MailDate
import ApiCommands.Document.Display
import ApiCommands.Document.Json.Reader
import ApiCommands.Document.Json.Writer
import ApiCommands.Document.Value
import ApiCommands.Document.Yaml.Cursor
import ApiCommands.Document.Yaml.PlainValue
import ApiCommands.Document.Yaml.Reader
import ApiCommands.Document.Yaml.Refusal
import ApiCommands.Document.Yaml.ScalarText
import ApiCommands.Document.Yaml.Token
import ApiCommands.Charset
import ApiCommands.Charset.ByteTable
import ApiCommands.Charset.CharRows
import ApiCommands.Charset.ChineseRows
import ApiCommands.Charset.DoubleBytes
import ApiCommands.Charset.JapaneseRows
import ApiCommands.Charset.KoreanRows
import ApiCommands.Charset.TaiwaneseRows
import ApiCommands.Charset.Units
import ApiCommands.Charset.Utf7
import ApiCommands.Charset.Utf8
import ApiCommands.Compression.ContentCoding
import ApiCommands.Compression.Inflate
import ApiCommands.DomainName
import ApiCommands.DomainName.Composition
import ApiCommands.DomainName.Direction
import ApiCommands.DomainName.LabelChars
import ApiCommands.DomainName.Marks
import ApiCommands.DomainName.Punycode
import ApiCommands.Outcome.Error
import ApiCommands.Outcome.Fault
import ApiCommands.Outcome.Issue
import ApiCommands.Outcome.Note
import ApiCommands.Validation.Checked
import ApiCommands.Validation.Models
import ApiCommands.Validation.WrittenInt
import ApiCommands.Naming.CommandName
import ApiCommands.Naming.Domain
import ApiCommands.Naming.Grouping
import ApiCommands.Naming.Identifier
import ApiCommands.Naming.MethodName
import ApiCommands.Naming.PathShape
import ApiCommands.Naming.Rule
import ApiCommands.Naming.Segment
import ApiCommands.Naming.Slug
import ApiCommands.Naming.Tables
import ApiCommands.Naming.Tables.Override
import ApiCommands.Naming.Tables.Reading
import ApiCommands.Naming.Tables.Standard
import ApiCommands.Naming.Taken
import ApiCommands.Naming.Words
import ApiCommands.Spec.Collection
import ApiCommands.Spec.Operation
import ApiCommands.Spec.Parameters
import ApiCommands.Spec.PathTemplate
import ApiCommands.Spec.Source
import ApiCommands.Schema.Api
import ApiCommands.Schema.BodyFields
import ApiCommands.Schema.Composition
import ApiCommands.Schema.Kind
import ApiCommands.Schema.Pointer
import ApiCommands.Tree.CommandTree
import ApiCommands.Tree.Placement
import ApiCommands.Storage.ArtifactFiles
import ApiCommands.Storage.AtomicWrite
import ApiCommands.Storage.Disk
import ApiCommands.Storage.DiskPath
import ApiCommands.Storage.Workplace
import ApiCommands.Settings
import ApiCommands.Artifact.ClientModule
import ApiCommands.Artifact.CommandModule
import ApiCommands.Artifact.DocText
import ApiCommands.Artifact.Generation
import ApiCommands.Artifact.Handler
import ApiCommands.Artifact.Model.Catalog
import ApiCommands.Artifact.Model.Field
import ApiCommands.Artifact.Model.Names
import ApiCommands.Artifact.ModelModule
import ApiCommands.Call.Address
import ApiCommands.Call.Arguments
import ApiCommands.Call.Client
import ApiCommands.Call.Content
import ApiCommands.Call.Envelope
import ApiCommands.Call.Exchange
import ApiCommands.Call.Host
import ApiCommands.Call.Payload
import ApiCommands.Call.Request
import ApiCommands.Call.RetryDelay
import ApiCommands.Call.Session
import ApiCommands.Body.Assignment
import ApiCommands.Body.Options
import ApiCommands.CommandLine.Invocation
import ApiCommands.CommandLine.Options
import ApiCommands.CommandLine.Report
import ApiCommands.CommandLine.Run
import ApiCommands.Main
import ApiCommands.Proofs.Text.LetterCase
import ApiCommands.Proofs.Naming.Taken
import ApiCommands.Proofs.Naming.Grouping
import ApiCommands.Proofs.Naming.Identifier
import ApiCommands.Proofs.Naming.Slug
import ApiCommands.Proofs.Naming.CommandName
import ApiCommands.Proofs.Outcome.Note
import ApiCommands.Proofs.Spec.Collection
import ApiCommands.Proofs.Tree.CommandTree
import ApiCommands.Proofs.Artifact.Generation
import ApiCommands.Proofs.Artifact.CommandModule
import ApiCommands.Proofs.Call.Arguments
import ApiCommands.Proofs.Spec.Operation
import ApiCommands.Proofs.Artifact.ClientModule
import ApiCommands.Proofs.Artifact.Handler
import ApiCommands.Proofs.Artifact.HandlerParameters
import ApiCommands.Proofs.Naming.LaxLibrary
import ApiCommands.Proofs.Naming.MethodName
import ApiCommands.Proofs.Artifact.BoundNames
import ApiCommands.Proofs.Artifact.ClientAttributes
import ApiCommands.Proofs.Document.Entries
import ApiCommands.Proofs.Schema.Reference
import ApiCommands.Proofs.Schema.Composition
import ApiCommands.Proofs.Schema.Merged
import ApiCommands.Proofs.Schema.BodyFields
import ApiCommands.Proofs.Schema.Agreement
import ApiCommands.Proofs.Tree.Arrangement
import ApiCommands.Proofs.Artifact.UnmappedTags
import ApiCommands.Proofs.Spec.AliasPaths
import ApiCommands.Proofs.Text.Pieces
import ApiCommands.Proofs.Text.Quoted
import ApiCommands.Proofs.Document.Json.Texts
import ApiCommands.Proofs.Body.Assignment
import ApiCommands.Proofs.Outcome.Result
import ApiCommands.Proofs.Body.Options
import ApiCommands.Proofs.Body.FieldOption
import ApiCommands.Proofs.Storage.Disk
import ApiCommands.Proofs.Storage.DiskPath
import ApiCommands.Proofs.Storage.AtomicWrite
import ApiCommands.Proofs.Storage.ArtifactFiles
import ApiCommands.Proofs.Artifact.Model.TypeText
import ApiCommands.Proofs.Artifact.Model.Names
import ApiCommands.Proofs.Artifact.Model.Classes
import ApiCommands.Proofs.Artifact.Model.Fields
import ApiCommands.Proofs.Artifact.Model.WireNames
import ApiCommands.Proofs.CommandLine.Check
import ApiCommands.Proofs.Call.Attempts
import ApiCommands.Proofs.Schema.FlatReading
import ApiCommands.Proofs.Schema.Descent
import ApiCommands.Proofs.Schema.Visit
import ApiCommands.Proofs.Schema.Rounds
import ApiCommands.Proofs.Artifact.Model.Walks
import ApiCommands.Proofs.Naming.Collision
import ApiCommands.Proofs.Naming.Fragments
import ApiCommands.Proofs.Naming.Words
import ApiCommands.Proofs.Naming.Alias
import ApiCommands.Proofs.Naming.Rule
import ApiCommands.Proofs.Spec.ParameterOrder
import ApiCommands.Proofs.Spec.MergedParameters
import ApiCommands.Proofs.Spec.Declarations
import ApiCommands.Proofs.Text.Percent
import ApiCommands.Proofs.Number.Shortest
import ApiCommands.Proofs.Text.Half
import ApiCommands.Proofs.Document.Display
import ApiCommands.Proofs.Call.Expansion
import ApiCommands.Proofs.Schema.Pointer
import ApiCommands.Proofs.Schema.WrittenPath
import ApiCommands.Proofs.Artifact.Model.Targets
import ApiCommands.Proofs.Schema.Resolution
import ApiCommands.Proofs.Call.Steps
import ApiCommands.Proofs.Call.Backoff
import ApiCommands.Proofs.CommandLine.Readers
import ApiCommands.Proofs.Storage.AllOrNothing
import ApiCommands.Proofs.Artifact.Docstrings
import ApiCommands.Proofs.Text.LoweredTwice
import ApiCommands.Proofs.Validation.Checked
import ApiCommands.Proofs.Naming.TableFields
import ApiCommands.Proofs.Naming.Overrides
import ApiCommands.Proofs.Naming.PathShape
import ApiCommands.Proofs.Naming.FragmentSearch
import ApiCommands.Proofs.Artifact.CandidateChains
