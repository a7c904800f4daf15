import Reckon.Calculation
import Reckon.Expression
import Reckon.Grammar
import Reckon.Lexis
import Reckon.Likeness
import Reckon.Meaning
import Reckon.Parser.Machine
import Reckon.Proofs.Binary64.Agreement
import Reckon.Proofs.Calculation
import Reckon.Proofs.Course
import Reckon.Proofs.Dump
import Reckon.Proofs.Expression.Rendering
import Reckon.Proofs.Folding
import Reckon.Proofs.Height
import Reckon.Proofs.Json.Reload
import Reckon.Proofs.Lexis.Blanking
import Reckon.Proofs.Lexis.Classification
import Reckon.Proofs.Lexis.Concatenation
import Reckon.Proofs.Lexis.LongestRun
import Reckon.Proofs.Lexis.Scanning
import Reckon.Proofs.Lexis.Skipping
import Reckon.Proofs.Likeness
import Reckon.Proofs.Meaning
import Reckon.Proofs.NestingLimit
import Reckon.Proofs.Parser.Discipline
import Reckon.Proofs.Readback
import Reckon.Proofs.Size
import Reckon.Proofs.Substitution
import Reckon.Proofs.Viability
import Reckon.Skipped
import Reckon.Tree.Codec
import Reckon.Tree.Dump
