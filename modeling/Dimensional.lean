import Dimensional.Number.Style
import Dimensional.Number.Reading
import Dimensional.Unit.Product
import Dimensional.World
import Dimensional.Formula.Engine
import Dimensional.Catalog.Command
import Dimensional.Catalog.Source
import Dimensional.Main
import Dimensional.Proofs.Literal
import Dimensional.Proofs.Sentence
import Dimensional.Proofs.Grammar
import Dimensional.Proofs.Parser
import Dimensional.Proofs.TokenPlace
import Dimensional.Proofs.ViablePrefix
import Dimensional.Proofs.ErrorToken
import Dimensional.Proofs.DimensionAlgebra
import Dimensional.Proofs.BaseLayout
import Dimensional.Proofs.UnitDimension
import Dimensional.Proofs.Evaluation
import Dimensional.Proofs.DimensionCheck
import Dimensional.Proofs.DepthGuard
import Dimensional.Proofs.NamesRead
import Dimensional.Proofs.Postorder
import Dimensional.Proofs.Exact
import Dimensional.Proofs.Calibration
import Dimensional.Proofs.Restoring
import Dimensional.Proofs.Magnitude
import Dimensional.Proofs.ParseCache
import Dimensional.Proofs.Recency
import Dimensional.Proofs.History
import Dimensional.Proofs.Freezing
import Dimensional.Proofs.Registration
import Dimensional.Proofs.Rounding
import Dimensional.Proofs.Shortest
import Dimensional.Proofs.Spelling
import Dimensional.Proofs.LexemeShape
import Dimensional.Proofs.LongestLexeme
import Dimensional.Proofs.Rendering
import Dimensional.Proofs.RoundTrip
import Dimensional.Proofs.NetCount
import Dimensional.Proofs.ProductDimension
import Dimensional.Proofs.MemberWalk
import Dimensional.Proofs.Exponent
import Dimensional.Proofs.Conversion
import Dimensional.Proofs.Crossing
import Dimensional.Proofs.NotANumber
import Dimensional.Proofs.Building
import Dimensional.Proofs.Alike
import Dimensional.Proofs.BuiltCatalog
import Dimensional.Proofs.PureName
import Dimensional.Proofs.Refusal
import Dimensional.Proofs.Rearrangement
import Dimensional.Proofs.Tiling
import Dimensional.Proofs.LiteralExtent
import Dimensional.Proofs.Unplaced
import Dimensional.Proofs.Padding
import Dimensional.Proofs.NestingCounter
import Dimensional.Proofs.TreeHeight
import Dimensional.Proofs.PowerLiteral
