import Fanout.Text.Blank
import Fanout.Text.Quoted
import Fanout.Text.Columns
import Fanout.Json.Decode
import Fanout.Target
import Fanout.Topology
import Fanout.Job.Descriptor
import Fanout.Identifier
import Fanout.Dispatch.Behavior
import Fanout.Service.Session
import Fanout.Version
import Fanout.Console.Table
import Fanout.Console.Invocation
import Fanout.Console.Failure
import Fanout.Console.Listing
import Fanout.Console.Program
import Fanout.Main
import Fanout.Service.Interleaving
import Fanout.Proofs.EffectCounts
import Fanout.Proofs.FirstHandles
import Fanout.Proofs.LaneRuns
import Fanout.Proofs.Trails
import Fanout.Proofs.RunOrder
import Fanout.Proofs.Seats
import Fanout.Proofs.Carrying
import Fanout.Proofs.ScheduleOrder
import Fanout.Proofs.ScheduleRefinement
import Fanout.Proofs.EndedRuns
import Fanout.Proofs.BroadcastRecords
import Fanout.Proofs.PermitConservation
import Fanout.Proofs.ExactlyOnce
import Fanout.Proofs.FirstTurn
import Fanout.Proofs.ThrottledBroadcast
import Fanout.Proofs.RecordCoherence
import Fanout.Proofs.RequestCourses
import Fanout.Proofs.RequestDecisions
import Fanout.Proofs.PastCalls
import Fanout.Proofs.VoidRequests
import Fanout.Proofs.JobIds
import Fanout.Proofs.StatusHistories
import Fanout.Proofs.LoneRuns
import Fanout.Proofs.BareHandles
import Fanout.Proofs.FirstOccurrences
import Fanout.Proofs.Isolation
import Fanout.Proofs.TopologyLoading
import Fanout.Proofs.ClockReadings
import Fanout.Proofs.RecordTimes
import Fanout.Proofs.Json.Grammar
import Fanout.Proofs.Json.Words
import Fanout.Proofs.Json.Sequences
import Fanout.Proofs.Json.Reading
import Fanout.Proofs.Json.Writing
import Fanout.Proofs.Json.Layout
import Fanout.Proofs.Json.Records
import Fanout.Proofs.Json.Fields
import Fanout.Proofs.WireForms
import Fanout.Proofs.ObjectForms
import Fanout.Proofs.RoundTrips
import Fanout.Proofs.AnyNodeDraws
import Fanout.Proofs.TextParts
import Fanout.Proofs.Listings
import Fanout.Proofs.EchoedRecords
import Fanout.Proofs.NodeNames
import Fanout.Proofs.ProgramFailures
import Fanout.Proofs.BroadcastRows
import Fanout.Proofs.PrintedIds
import Fanout.Proofs.NodesOption
import Fanout.Proofs.OptionScans
import Fanout.Proofs.NodeLists
import Fanout.Proofs.TargetIdentity
import Fanout.Proofs.TopologyBuilding
import Fanout.Proofs.MemberRows
import Fanout.Proofs.RecordedCalls
