import InlineLinkage.Case.Encoding
import InlineLinkage.Decimal.FloatText
import InlineLinkage.Main
import InlineLinkage.Proofs.GccDomain
import InlineLinkage.Proofs.OutcomeHash
import InlineLinkage.Proofs.Walks
import InlineLinkage.Proofs.RunTrace
import InlineLinkage.Proofs.ResumeChain
import InlineLinkage.Proofs.Trimming
import InlineLinkage.Proofs.LineText
import InlineLinkage.Proofs.Reproduction
import InlineLinkage.Proofs.Emission
import InlineLinkage.Proofs.WordSets
import InlineLinkage.Proofs.Laziness
import InlineLinkage.Proofs.ExhaustiveDomain
import InlineLinkage.Proofs.LateStatic
import InlineLinkage.Proofs.GnuInline
import InlineLinkage.Proofs.Acceptance
import InlineLinkage.Proofs.WarningRules
import InlineLinkage.Proofs.EnforcedWarnings
import InlineLinkage.Proofs.OneLine
import InlineLinkage.Proofs.ReportLines
import InlineLinkage.Proofs.CompactJson
import InlineLinkage.Proofs.CaseEncoding
import InlineLinkage.Proofs.ExternalCopy
import InlineLinkage.Proofs.HereDocuments
import InlineLinkage.Proofs.OutcomeEncoding
import InlineLinkage.Proofs.CaseArguments
import InlineLinkage.Proofs.DigestStream
import InlineLinkage.Proofs.StaticSupremacy
import InlineLinkage.Proofs.AcceptedLines
import InlineLinkage.Proofs.Indifference
import InlineLinkage.Proofs.LineSets
import InlineLinkage.Proofs.ScriptLayout
import InlineLinkage.Proofs.CanonicalOutcomes
import InlineLinkage.Proofs.TokenGrammar
import InlineLinkage.Proofs.QualifierWords
import InlineLinkage.Proofs.CasePositions
import InlineLinkage.Proofs.SettingTexts
import InlineLinkage.Proofs.ToolchainLookups
import InlineLinkage.Proofs.ProgressLines
