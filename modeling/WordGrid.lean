import WordGrid.Cell
import WordGrid.Command.Arguments
import WordGrid.Command.Run
import WordGrid.Command.Usage
import WordGrid.Command.Workspace
import WordGrid.Decimal.Shortest
import WordGrid.Entity
import WordGrid.Exchange.EntityRecord
import WordGrid.Exchange.Field
import WordGrid.Exchange.PictureRecord
import WordGrid.Exchange.TreeRecord
import WordGrid.Exchange.TypeRecord
import WordGrid.Failure
import WordGrid.Grammar.Binding
import WordGrid.Grammar.Declaration
import WordGrid.Grammar.Generics
import WordGrid.Grammar.Slot
import WordGrid.Grammar.TypeForm
import WordGrid.Invalid
import WordGrid.Journal.Event
import WordGrid.Journal.Level
import WordGrid.Journal.Notice
import WordGrid.Json.Reader
import WordGrid.Json.Value
import WordGrid.Json.Writer
import WordGrid.Layout.Banner
import WordGrid.Layout.EntityRows
import WordGrid.Layout.Filler
import WordGrid.Layout.Sheet
import WordGrid.Layout.TextForm
import WordGrid.Main
import WordGrid.Node
import WordGrid.Outline.Declarations
import WordGrid.Outline.Document
import WordGrid.Outline.Modifiers
import WordGrid.Outline.Reading
import WordGrid.Outline.Requirements
import WordGrid.Outline.Types
import WordGrid.Outline.Walk
import WordGrid.Phrase
import WordGrid.Picture.Checksum
import WordGrid.Picture.Colour
import WordGrid.Picture.Lettering
import WordGrid.Picture.Painting
import WordGrid.Picture.Precision
import WordGrid.Picture.Shelf
import WordGrid.Predicate
import WordGrid.Proofs.Absence
import WordGrid.Proofs.Descent
import WordGrid.Proofs.EntityShape
import WordGrid.Proofs.Failures
import WordGrid.Proofs.Joining
import WordGrid.Proofs.Recovery
import WordGrid.Proofs.Results
import WordGrid.Proofs.TypeEquation
import WordGrid.Proofs.WalkInduction
import WordGrid.Requirement
import WordGrid.Settings.Basic
import WordGrid.Settings.Check
import WordGrid.Settings.Load
import WordGrid.Settings.SizeText
import WordGrid.Source
import WordGrid.Text.Blank
import WordGrid.Text.Digit
import WordGrid.Text.Integer
import WordGrid.Text.Path
import WordGrid.Text.Plain
import WordGrid.Text.Printable
import WordGrid.Text.Quoted
import WordGrid.Text.Resemblance
import WordGrid.Text.Upper
import WordGrid.Text.UpperTable
import WordGrid.Text.Utf8
import WordGrid.TypeExpr
import WordGrid.Proofs.Relabelling
import WordGrid.Proofs.Displacement
import WordGrid.Proofs.Blocks
import WordGrid.Proofs.Traversal
import WordGrid.Proofs.BlockDecoding
import WordGrid.Proofs.Spelling
import WordGrid.Proofs.TypeImage
import WordGrid.Proofs.EntityDecoding
import WordGrid.Proofs.Imports
import WordGrid.Proofs.FirstLook
import WordGrid.Proofs.Comments
import WordGrid.Proofs.CommentedParts
import WordGrid.Proofs.CommentedWalk
import WordGrid.Proofs.CommentedSlots
import WordGrid.Proofs.ClosureDepth
import WordGrid.Proofs.LastMember
import WordGrid.Proofs.Locations
import WordGrid.Proofs.Names
import WordGrid.Proofs.BannerOverlay
import WordGrid.Proofs.TextColumns
import WordGrid.Proofs.Attempts
import WordGrid.Proofs.BindingAnnotations
import WordGrid.Proofs.CaseReading
import WordGrid.Proofs.FaultSearch
import WordGrid.Proofs.FillerSuffix
import WordGrid.Proofs.Coverage
import WordGrid.Proofs.Visibility
