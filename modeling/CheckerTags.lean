import CheckerTags.Binary.Form
import CheckerTags.CheckedType.Guard
import CheckerTags.Declaration.Step
import CheckerTags.Flags.Step
import CheckerTags.Json.Kind
import CheckerTags.Json.Literal
import CheckerTags.Proofs.AbsentList
import CheckerTags.Proofs.BitLaw
import CheckerTags.Proofs.FlagTracking
import CheckerTags.Proofs.Keywords
import CheckerTags.Proofs.KindOrder
import CheckerTags.Proofs.TextRoundTrip
import CheckerTags.Proofs.ByteForm
import CheckerTags.Proofs.IdleSteps
import CheckerTags.Proofs.KindJson
import CheckerTags.Proofs.KnownBits
import CheckerTags.Proofs.UnknownBits
import CheckerTags.Proofs.TextJoin
import CheckerTags.Proofs.Pieces
import CheckerTags.Proofs.ForeignText
import CheckerTags.Proofs.Consistency
import CheckerTags.Proofs.KindSets
import CheckerTags.Proofs.FirstMatch
import CheckerTags.Proofs.Nesting
import CheckerTags.Proofs.KindLists
import CheckerTags.Proofs.BooleanLaws
import CheckerTags.Proofs.PieceQueries
import CheckerTags.Proofs.TypeGuards
import CheckerTags.Proofs.Independence
import CheckerTags.Proofs.KeywordClasses
import CheckerTags.Proofs.NumeralForms
