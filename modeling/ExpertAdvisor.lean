import ExpertAdvisor.Advisor.Draft
import ExpertAdvisor.Main
import ExpertAdvisor.Payload.Document
import ExpertAdvisor.Service.Application
import ExpertAdvisor.Proofs.Advisor.DistinctPayloads
import ExpertAdvisor.Proofs.Advisor.OpenPositions
import ExpertAdvisor.Proofs.Advisor.ValidDrafts
import ExpertAdvisor.Proofs.Command.ConfiguredRun
import ExpertAdvisor.Proofs.Service.Generation
import ExpertAdvisor.Proofs.Payload.Restoration
import ExpertAdvisor.Proofs.Payload.RespelledPayload
import ExpertAdvisor.Proofs.Advisor.ContainedName
import ExpertAdvisor.Proofs.Indicator.BlankedComments
import ExpertAdvisor.Proofs.Indicator.IgnoredComments
import ExpertAdvisor.Proofs.Command.OverriddenConfig
import ExpertAdvisor.Proofs.Command.MalformedConfig
import ExpertAdvisor.Proofs.Command.NormalizedValues
import ExpertAdvisor.Proofs.Command.Delivery
import ExpertAdvisor.Proofs.Advisor.OwnEnumerations
import ExpertAdvisor.Proofs.Advisor.OpposedPositions
import ExpertAdvisor.Proofs.Json.EscapedText
import ExpertAdvisor.Proofs.Json.RoundTrip
import ExpertAdvisor.Proofs.Command.ListedInputs
import ExpertAdvisor.Proofs.Text.DecodedSources
import ExpertAdvisor.Proofs.Advisor.WrittenDefaults
import ExpertAdvisor.Proofs.Command.UnusableValues
import ExpertAdvisor.Proofs.Advisor.SettingLines
import ExpertAdvisor.Proofs.Number.IntegerReading
import ExpertAdvisor.Proofs.Number.RoundedIntegers
import ExpertAdvisor.Proofs.Command.KeptIntegers
import ExpertAdvisor.Proofs.Indicator.JoinedSources
import ExpertAdvisor.Proofs.Indicator.LineEnds
import ExpertAdvisor.Proofs.Indicator.InlineComments
import ExpertAdvisor.Proofs.Advisor.DispatchedDrafts
import ExpertAdvisor.Proofs.Command.SnippetRoutes
import ExpertAdvisor.Proofs.Advisor.DoubleLiterals
import ExpertAdvisor.Proofs.Code.LiteralEncoding
import ExpertAdvisor.Proofs.Indicator.AlignedLines
