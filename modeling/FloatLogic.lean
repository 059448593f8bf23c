import FloatLogic.Collect
import FloatLogic.Double.Comparison
import FloatLogic.Environment.Lemmas
import FloatLogic.Formula.Rendering
import FloatLogic.Grouping
import FloatLogic.Log
import FloatLogic.Proofs.Collections.LastWrite
import FloatLogic.Proofs.Collections.SetHistory
import FloatLogic.Proofs.Decimal.Reading
import FloatLogic.Proofs.Digest.NegationChains
import FloatLogic.Proofs.Double.Agreement
import FloatLogic.Proofs.Double.DecimalText
import FloatLogic.Proofs.Double.Fields
import FloatLogic.Proofs.Evaluation.Definedness
import FloatLogic.Proofs.Evaluation.Dependence
import FloatLogic.Proofs.Evaluation.FirstFailure
import FloatLogic.Proofs.Evaluation.RefusalLog
import FloatLogic.Proofs.Evaluation.ZeroSign
import FloatLogic.Proofs.Folding.Canonical
import FloatLogic.Proofs.Folding.ConstructionLog
import FloatLogic.Proofs.Folding.Deletion
import FloatLogic.Proofs.Folding.Laws
import FloatLogic.Proofs.Folding.StaticValue
import FloatLogic.Proofs.Folding.Swapping
import FloatLogic.Proofs.Folding.Value
import FloatLogic.Proofs.Grouping.Classes
import FloatLogic.Proofs.Layout.Content
import FloatLogic.Proofs.Layout.Flat
import FloatLogic.Proofs.Layout.Line
import FloatLogic.Proofs.Layout.Segment
import FloatLogic.Proofs.Layout.Terminal
import FloatLogic.Proofs.Layout.Writer
import FloatLogic.Proofs.Memory.Calls
import FloatLogic.Proofs.Memory.Congruence
import FloatLogic.Proofs.Memory.Construction
import FloatLogic.Proofs.Occurrence.Path
import FloatLogic.Proofs.Rendering.Colors
import FloatLogic.Proofs.Rendering.Groups
import FloatLogic.Proofs.Rendering.LineBreaks
import FloatLogic.Proofs.Rendering.Lines
import FloatLogic.Proofs.Rendering.Nesting
import FloatLogic.Proofs.Rendering.StyledTexts
import FloatLogic.Proofs.Rendering.Width
import FloatLogic.Proofs.Text.Injective
import FloatLogic.Sharing
import FloatLogic.VarSet
