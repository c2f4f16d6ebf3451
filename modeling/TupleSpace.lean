import TupleSpace.Command
import TupleSpace.Client.Config
import TupleSpace.Network.Schedule
import TupleSpace.Replica.Connection
import TupleSpace.Take.Race
import TupleSpace.Proofs.Sorting
import TupleSpace.Proofs.Space
import TupleSpace.Proofs.Table
import TupleSpace.Proofs.TakeMachine
import TupleSpace.Proofs.Race
import TupleSpace.Proofs.RacePhase
import TupleSpace.Proofs.RaceSafety
import TupleSpace.Proofs.RaceProgress
import TupleSpace.Proofs.LevelRace
import TupleSpace.Proofs.LevelRounds
import TupleSpace.Proofs.Standoff
import TupleSpace.Proofs.LoneRace
import TupleSpace.Proofs.RaceOutcome
import TupleSpace.Proofs.Sequential
import TupleSpace.Proofs.SequencedService
import TupleSpace.Proofs.NetworkRun
import TupleSpace.Proofs.TakeDecision
import TupleSpace.Proofs.TakeTranscript
import TupleSpace.Proofs.LoneExchange
import TupleSpace.Proofs.LoneTake
import TupleSpace.Proofs.ReplicaStep
import TupleSpace.Proofs.WaitingTakes
import TupleSpace.Proofs.NetworkHistory
import TupleSpace.Proofs.Dispatch
import TupleSpace.Proofs.TakeRelease
import TupleSpace.Proofs.RaceAgreement
import TupleSpace.Proofs.OtherJobs
import TupleSpace.Proofs.ClientCalls
import TupleSpace.Proofs.TakePhases
import TupleSpace.Proofs.TakeAmongOthers
import TupleSpace.Proofs.JobWork
import TupleSpace.Proofs.JobMail
import TupleSpace.Proofs.SharedNames
import TupleSpace.Proofs.TakeWork
import TupleSpace.Proofs.SharedSession
import TupleSpace.Proofs.NumberedTakes
import TupleSpace.Proofs.StoreConservation
import TupleSpace.Proofs.RepeatedNumbers
import TupleSpace.Proofs.Wakeups
import TupleSpace.Proofs.LineTransport
import TupleSpace.Proofs.ReplicaLedger
import TupleSpace.Proofs.NumberedQueries
import TupleSpace.Proofs.OrderedSessions
import TupleSpace.Proofs.TakeResumed
import TupleSpace.Proofs.NumbersDrawn
import TupleSpace.Proofs.LonePut
import TupleSpace.Proofs.PatternWhole
import TupleSpace.Proofs.HeldEntries
import TupleSpace.Proofs.QueueOrder
import TupleSpace.Proofs.ReplyOrder
import TupleSpace.Proofs.RetryBudget
import TupleSpace.Proofs.CollectorWakeups
import TupleSpace.Proofs.NotedLocks
import TupleSpace.Proofs.ExchangeCourse
import TupleSpace.Proofs.FanOut
import TupleSpace.Proofs.FirstAnswer
import TupleSpace.Proofs.TypedText
import TupleSpace.Proofs.AddressForm
import TupleSpace.Proofs.RegistryCalls
import TupleSpace.Proofs.OrderedRegistry
import TupleSpace.Proofs.Endpoints
import TupleSpace.Proofs.StartedReplicas
import TupleSpace.Proofs.CommandGrammar
import TupleSpace.Proofs.LiteralPattern
import TupleSpace.Proofs.CommutingOperations
import TupleSpace.Proofs.GateSections
import TupleSpace.Proofs.RecordedOutcomes
