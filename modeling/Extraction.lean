import Extraction.Text.Letters
import Extraction.Decimal.Shortest
import Extraction.Json.Printer
import Extraction.Json.Reader
import Extraction.Error
import Extraction.Json.Path.Parser
import Extraction.Text.Properties
import Extraction.Text.CaseFold
import Extraction.Regex.Parser
import Extraction.Regex.Basic
import Extraction.Text.CaseMap
import Extraction.Text.Normalize
import Extraction.Markup.Parser
import Extraction.Markup.Printer
import Extraction.Markup.Content
import Extraction.Css.Match
import Extraction.XPath.Parser
import Extraction.Document.Select
import Extraction.Session.Config
import Extraction.Rule.Cache
import Extraction.Script.Engine
import Extraction.Extractor.Request
import Extraction.Extractor.Scripted
import Extraction.Proofs.KeptRules
import Extraction.Proofs.NodeSets
import Extraction.Proofs.RuleJoin
import Extraction.Proofs.RulePrint
import Extraction.Proofs.NestedText
import Extraction.Proofs.PathPrint
import Extraction.Proofs.ScriptWrites
import Extraction.Proofs.FilledVariables
import Extraction.Proofs.DirectRules
import Extraction.Proofs.PairScan
import Extraction.Proofs.PathPrinter
import Extraction.Proofs.JsonPlaces
import Extraction.Proofs.VisitedNodes
import Extraction.Proofs.AttributeValues
import Extraction.Proofs.DocumentOrder
import Extraction.Proofs.TreeTexts
import Extraction.Proofs.TextPositions
import Extraction.Proofs.ReadingFailures
import Extraction.Proofs.CacheHistory
import Extraction.Proofs.SurvivingPlaceholders
import Extraction.Proofs.IndependentReads
import Extraction.Proofs.StepComposition
import Extraction.Proofs.BalancedSelectors
import Extraction.Proofs.SingleText
import Extraction.Proofs.GroupNames
import Extraction.Proofs.ReplacementSpelling
import Extraction.Proofs.PathComposition
import Extraction.Proofs.DescentPlaces
import Extraction.Proofs.WrittenReferences
import Extraction.Proofs.SplitAccessor
import Extraction.Proofs.UntouchedText
import Extraction.Proofs.ParagraphLines
import Extraction.Proofs.NodeTexts
import Extraction.Proofs.CompletedAddresses
import Extraction.Proofs.PunycodeLabels
import Extraction.Proofs.DomainNames
import Extraction.Proofs.HostNames
import Extraction.Proofs.WrittenAddresses
import Extraction.Proofs.AddressPaths
import Extraction.Proofs.AddressForms
import Extraction.Proofs.SharedVariables
import Extraction.Proofs.CompiledRules
import Extraction.Proofs.MapEntries
import Extraction.Proofs.Outcomes
import Extraction.Proofs.TextBytes
import Extraction.Proofs.Base64Texts
import Extraction.Proofs.EncodedSets
