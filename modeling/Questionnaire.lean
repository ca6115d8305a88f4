import Questionnaire.Document.Submission
import Questionnaire.Main
import Questionnaire.Proofs.Agreement
import Questionnaire.Proofs.ChoiceIds
import Questionnaire.Proofs.Commuting
import Questionnaire.Proofs.Draft
import Questionnaire.Proofs.Frame
import Questionnaire.Proofs.Judgement
import Questionnaire.Proofs.Mask.Trailing
import Questionnaire.Proofs.NumberRules
import Questionnaire.Proofs.OtherChoice
import Questionnaire.Proofs.QuestionIds
import Questionnaire.Proofs.Redelivery
import Questionnaire.Proofs.ShownOrder
import Questionnaire.Proofs.Stale
import Questionnaire.Proofs.Submission
import Questionnaire.Proofs.Presentation
import Questionnaire.Proofs.OtherLabel
import Questionnaire.Proofs.Decimal.Double
import Questionnaire.Proofs.Decimal.Leading
import Questionnaire.Proofs.Command.Files
import Questionnaire.Proofs.Json.Finite
import Questionnaire.Proofs.Document.Finite
import Questionnaire.Proofs.Command.Editing
import Questionnaire.Proofs.Unanswered
import Questionnaire.Proofs.Address.Mailbox
import Questionnaire.Proofs.Document.Answer
import Questionnaire.Proofs.QuestionOrder
import Questionnaire.Proofs.ScratchCopy
import Questionnaire.Proofs.Selection
import Questionnaire.Proofs.ShownAnswer
import Questionnaire.Proofs.Requirement
import Questionnaire.Proofs.NumberOrder
import Questionnaire.Proofs.Json.Sorted
import Questionnaire.Proofs.Renderings
import Questionnaire.Proofs.Json.KeyOrder
import Questionnaire.Proofs.Responses
import Questionnaire.Proofs.Decimal.Rounding
import Questionnaire.Proofs.Decimal.Nearest
import Questionnaire.Proofs.Decimal.Shortest
import Questionnaire.Proofs.Decimal.ReadBack
import Questionnaire.Proofs.Decimal.Worth
import Questionnaire.Proofs.NumberAnswer
import Questionnaire.Proofs.Notices
