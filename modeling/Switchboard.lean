import Switchboard.Config.Schema
import Switchboard.Config.Validation
import Switchboard.Config.WebAddress
import Switchboard.Decimal.Binary64
import Switchboard.Decimal.Rounding
import Switchboard.Decimal.Shortest
import Switchboard.Domain.Mapping
import Switchboard.Domain.Name
import Switchboard.Domain.Punycode
import Switchboard.Echo
import Switchboard.Failure.Basic
import Switchboard.Failure.Reply
import Switchboard.Format.MediaRange
import Switchboard.Format.Negotiation
import Switchboard.Format.Quality
import Switchboard.Format.Registry
import Switchboard.Format.Serializer
import Switchboard.Http.Address
import Switchboard.Http.Framing
import Switchboard.Http.Headers
import Switchboard.Http.Method
import Switchboard.Http.Request
import Switchboard.Http.Response
import Switchboard.Http.Status
import Switchboard.Http.Target
import Switchboard.Http.Version
import Switchboard.Journal.Entry
import Switchboard.Journal.Event
import Switchboard.Journal.Metrics
import Switchboard.Pipeline.Contention
import Switchboard.Pipeline.Context
import Switchboard.Pipeline.Gateway
import Switchboard.Pipeline.History
import Switchboard.Pipeline.Hook
import Switchboard.Pipeline.Run
import Switchboard.Pipeline.Session
import Switchboard.Pipeline.Stage
import Switchboard.Pipeline.Workers
import Switchboard.Route.Pattern
import Switchboard.Route.Resolution
import Switchboard.Route.Table
import Switchboard.Shutdown
import Switchboard.Signalling
import Switchboard.Text.Ascii
import Switchboard.Text.Blank
import Switchboard.Text.Composition
import Switchboard.Text.Direction
import Switchboard.Text.Form
import Switchboard.Text.Joining
import Switchboard.Text.Marks
import Switchboard.Text.Percent
import Switchboard.Text.Pieces
import Switchboard.Text.Printable
import Switchboard.Text.Ranges
import Switchboard.Text.Unassigned
import Switchboard.Text.Utf8
import Switchboard.Toml.Document
import Switchboard.Toml.Reader
import Switchboard.Value.Basic
import Switchboard.Value.Printer
import Switchboard.Value.Reader
import Switchboard.Value.Shape
import Switchboard.Xml.Writer
import Switchboard.Proofs.PairedLists
import Switchboard.Proofs.SessionFrame
import Switchboard.Proofs.HookTurns
import Switchboard.Proofs.NegotiationAlike
import Switchboard.Proofs.RenderedResponse
import Switchboard.Proofs.ConcealedFailures
import Switchboard.Proofs.FormatList
import Switchboard.Proofs.StageOrder
import Switchboard.Proofs.ErrorAnswer
import Switchboard.Proofs.FailedRun
import Switchboard.Proofs.OpaqueRuns
import Switchboard.Proofs.RouteIndex
import Switchboard.Proofs.RouteResolution
import Switchboard.Proofs.PatternShape
import Switchboard.Proofs.SealedTable
import Switchboard.Proofs.PatternPaths
import Switchboard.Proofs.ReachableRoutes
import Switchboard.Proofs.SessionJournal
import Switchboard.Proofs.RunPoints
import Switchboard.Proofs.RunMilestones
import Switchboard.Proofs.Mishaps
import Switchboard.Proofs.ReportedOutcome
import Switchboard.Proofs.ConnectionWords
import Switchboard.Proofs.WireFraming
import Switchboard.Proofs.PinnedSettings
import Switchboard.Proofs.DelayedWorlds
import Switchboard.Proofs.Bystanders
import Switchboard.Proofs.LoggedLines
import Switchboard.Proofs.CompletionLine
import Switchboard.Proofs.SuccessfulRun
import Switchboard.Proofs.AcceptedFormats
import Switchboard.Proofs.LinkRoundTrip
import Switchboard.Proofs.Numerals
import Switchboard.Proofs.XmlReader
import Switchboard.Proofs.XmlStructure
import Switchboard.Proofs.Interleavings
import Switchboard.Proofs.SlotAccounts
import Switchboard.Proofs.DueHandlers
import Switchboard.Proofs.RunInvariants
import Switchboard.Proofs.TimedContention
import Switchboard.Proofs.SignalSteps
import Switchboard.Proofs.HeardSignals
import Switchboard.Proofs.MetricTotals
import Switchboard.Proofs.RunFrame
import Switchboard.Proofs.CountedRuns
import Switchboard.Proofs.StageTrail
import Switchboard.Proofs.StageItinerary
import Switchboard.Proofs.RangePrecedence
import Switchboard.Proofs.AcceptPreference
import Switchboard.Proofs.ShadowedRoutes
import Switchboard.Proofs.ClaimedFormats
import Switchboard.Proofs.ForcedChoice
import Switchboard.Proofs.TokenSpelling
import Switchboard.Proofs.UnrestrictedRoute
import Switchboard.Proofs.BoundParts
import Switchboard.Proofs.TemplateGrammar
import Switchboard.Proofs.EqualShapes
import Switchboard.Proofs.DeclaredFormats
import Switchboard.Proofs.SourceChains
import Switchboard.Proofs.XmlCharacters
import Switchboard.Proofs.OverdueHandlers
import Switchboard.Proofs.QualityValues
import Switchboard.Proofs.OctetScan
