import SchemaScribe.Main
import SchemaScribe.Proofs.DeclaredSchema
import SchemaScribe.Proofs.JoinColumns
import SchemaScribe.Proofs.SecondaryTable
import SchemaScribe.Proofs.KeyHolders
import SchemaScribe.Proofs.Views
import SchemaScribe.Proofs.DialectImports
import SchemaScribe.Proofs.TableIndependence
import SchemaScribe.Proofs.PrimaryKey
import SchemaScribe.Proofs.UniqueIndexes
import SchemaScribe.Proofs.JoinConditions
import SchemaScribe.Proofs.RelationshipAppended
import SchemaScribe.Proofs.ConstraintColumns
import SchemaScribe.Proofs.DrawingDirection
import SchemaScribe.Proofs.CascadePolicy
import SchemaScribe.Proofs.DiagramDocument
import SchemaScribe.Proofs.UnreadEntries
import SchemaScribe.Proofs.GenerationOutcome
import SchemaScribe.Proofs.QuotedNames
import SchemaScribe.Proofs.ServerDefaultLiteral
import SchemaScribe.Proofs.SqlLiteral
import SchemaScribe.Proofs.CommentLines
import SchemaScribe.Proofs.DocstringLiteral
import SchemaScribe.Proofs.EnumerationValues
import SchemaScribe.Proofs.DanglingReferences
import SchemaScribe.Proofs.ColumnKeywords
import SchemaScribe.Proofs.ArrayTypes
import SchemaScribe.Proofs.ArrayValues
import SchemaScribe.Proofs.SelfReferences
import SchemaScribe.Proofs.PrintedPolicy
import SchemaScribe.Proofs.Identifiers
import SchemaScribe.Proofs.AssociationNames
import SchemaScribe.Proofs.LoadOutcome
import SchemaScribe.Proofs.Settings
import SchemaScribe.Proofs.Delivery
import SchemaScribe.Proofs.LetterCase
import SchemaScribe.Proofs.ClassNames
import SchemaScribe.Proofs.DeclaredSizes
