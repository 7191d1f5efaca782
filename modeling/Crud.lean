import Crud.Keyword.Parse
import Crud.Main
import Crud.Proofs.Assignments
import Crud.Proofs.BindingNames
import Crud.Proofs.BindingSetters
import Crud.Proofs.BoundMarkers
import Crud.Proofs.Clause
import Crud.Proofs.ClauseIndependence
import Crud.Proofs.ClauseLeaves
import Crud.Proofs.ClauseStructure
import Crud.Proofs.ColumnLiterals
import Crud.Proofs.ColumnParts
import Crud.Proofs.ColumnPieces
import Crud.Proofs.ColumnReferences
import Crud.Proofs.ColumnResolution
import Crud.Proofs.ColumnSegments
import Crud.Proofs.CompileFaults
import Crud.Proofs.Description
import Crud.Proofs.DialectChange
import Crud.Proofs.EmptyGroups
import Crud.Proofs.FragmentMarkers
import Crud.Proofs.Gapped
import Crud.Proofs.GroupConnector
import Crud.Proofs.Growth
import Crud.Proofs.JsonNumber
import Crud.Proofs.JsonShape
import Crud.Proofs.JsonText
import Crud.Proofs.KeptConditions
import Crud.Proofs.Keys
import Crud.Proofs.ListedColumns
import Crud.Proofs.Lists
import Crud.Proofs.Literal
import Crud.Proofs.Masking
import Crud.Proofs.NestedValues
import Crud.Proofs.Parentheses
import Crud.Proofs.PositionalValues
import Crud.Proofs.ReadLiterals
import Crud.Proofs.ReadingOrder
import Crud.Proofs.Recoding
import Crud.Proofs.RecognisedTexts
import Crud.Proofs.Resolution
import Crud.Proofs.RewrittenColumns
import Crud.Proofs.TableAliases
import Crud.Proofs.Texts
import Crud.Proofs.TrailingConnector
import Crud.Proofs.Trimming
import Crud.Proofs.ValueBlindness
import Crud.Proofs.WrittenClause
import Crud.Statement.Step
import Crud.Proofs.Lists
import Crud.Proofs.Texts
