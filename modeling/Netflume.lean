import Netflume.Decoder
import Netflume.Wire
import Netflume.ParseRefinement
import Netflume.Framing
import Netflume.ParseSafety
import Netflume.ParseInvariant
import Netflume.Truncation
import Netflume.TruncationExact
import Netflume.Repacketisation
import Netflume.Encode
import Netflume.TemplateGrammar
import Netflume.LearnedTemplates
import Netflume.ParseCalls
import Netflume.RoundTrip
import Netflume.RecordTiling
import Netflume.RepeatedNames
import Netflume.TemplateCache
import Netflume.TemplateLog
import Netflume.SequenceClean
import Netflume.SequenceLoss
import Netflume.SequenceStream
import Netflume.SequenceStabilise
import Netflume.SequenceStale
import Netflume.SequenceReorder
import Netflume.SequenceLearning
import Netflume.SequenceLedger
import Netflume.SequenceWarned
import Netflume.SamplingTable
import Netflume.SamplingOverflow
import Netflume.SamplingV5
import Netflume.DecoderCore
import Netflume.DecoderLedger
import Netflume.DecoderEvents
import Netflume.Projection
import Netflume.Isolation
import Netflume.Exporting
import Netflume.InventedLoss
import Netflume.Flow
import Netflume.FlowTotal
import Netflume.FieldNames
import Netflume.FlowExact
import Netflume.FlowStamps
import Netflume.Collector
import Netflume.TableKeys
import Netflume.AcceptFilter
import Netflume.Receive
import Netflume.Handover
import Netflume.Listening
import Netflume.Spelling
import Netflume.Stopping
import Netflume.Ceilings
import Netflume.GapReport
import Netflume.Journal
import Netflume.DirectParse
import Netflume.RateLookups
import Netflume.Schema
import Netflume.PlainData
import Netflume.Values
import Netflume.V5RoundTrip
import Netflume.TextRoundTrip
import Netflume.CatchUp
import Netflume.Network
