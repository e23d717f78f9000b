import RemoteSimgrid.LibraryMachine
import RemoteSimgrid.LibraryUnorderedMap
import RemoteSimgrid.LibraryMutexTable
import RemoteSimgrid.Messages
import RemoteSimgrid.Interthread
import RemoteSimgrid.ServeCommand
import RemoteSimgrid.ServeLaunch
import RemoteSimgrid.ServeInvariant
import RemoteSimgrid.ServeRuns
import RemoteSimgrid.SimgridCalls
import RemoteSimgrid.SimulationStore
import RemoteSimgrid.SimulationDecision
import RemoteSimgrid.SimulationThread
import RemoteSimgrid.SimulationCases
import RemoteSimgrid.SimulationSteps
import RemoteSimgrid.SimulationInvariant
import RemoteSimgrid.SimulationTurns
import RemoteSimgrid.SimulationBlocked
import RemoteSimgrid.SimulationSuspended
import RemoteSimgrid.ClientHandles
import RemoteSimgrid.ClientHandlesInvariant
import RemoteSimgrid.ClientHandlesRuns
import RemoteSimgrid.MutexRefinement
import RemoteSimgrid.SimgridRendezvous
import RemoteSimgrid.SimulationDelivery
import RemoteSimgrid.SimulationDeliveryInvariant
import RemoteSimgrid.SimulationDeliveryLog
import RemoteSimgrid.SimulationDeliveryRuns
import RemoteSimgrid.SimulationExchange
import RemoteSimgrid.SimulationExchangeRuns
import RemoteSimgrid.TcpSocket
import RemoteSimgrid.MessageFraming
import RemoteSimgrid.ServeLoop
import RemoteSimgrid.ServeLoopSteps
import RemoteSimgrid.ServeLoopSockets
import RemoteSimgrid.ServeLoopDescriptors
import RemoteSimgrid.ServeLoopClosing
import RemoteSimgrid.ServeLoopReads
import RemoteSimgrid.ServeLoopKill
import RemoteSimgrid.ServerThreads
import RemoteSimgrid.ServerReturn
import RemoteSimgrid.SimulationCreation
import RemoteSimgrid.ServerCreation
import RemoteSimgrid.ServerRounds
import RemoteSimgrid.ServerHandshake
import RemoteSimgrid.LibraryWireSize
import RemoteSimgrid.SimulationOwnership
import RemoteSimgrid.SimulationUnknown
import RemoteSimgrid.SimulationOperations
import RemoteSimgrid.ServeBarelyConnected
import RemoteSimgrid.MessageLimits
import RemoteSimgrid.MessageSizes
import RemoteSimgrid.ClientConnection
import RemoteSimgrid.ServerAgreement
import RemoteSimgrid.SimulationThinkTime
import RemoteSimgrid.SimulationAsked
import RemoteSimgrid.SimulationReceive
import RemoteSimgrid.ClientComms
import RemoteSimgrid.ClientCommsRuns
import RemoteSimgrid.ClientWaitAny
import RemoteSimgrid.ServerSockets
import RemoteSimgrid.ServerWires
import RemoteSimgrid.ServerFirstMessage
import RemoteSimgrid.ServeConnectionVector
import RemoteSimgrid.Selector
import RemoteSimgrid.TcpSocketCalls
import RemoteSimgrid.ServeCloseSockets
import RemoteSimgrid.ServeLoopPass
import RemoteSimgrid.ServeSelectorCalls
import RemoteSimgrid.ClientEnvironment
import RemoteSimgrid.LibraryShellWords
import RemoteSimgrid.ClientKillCommand
import RemoteSimgrid.ClientDelivery
import RemoteSimgrid.ClientCollections
import RemoteSimgrid.SimulationSections
import RemoteSimgrid.LibraryRaising
import RemoteSimgrid.RsgCommands
import RemoteSimgrid.RsgAddActor
import RemoteSimgrid.RsgLaunch
import RemoteSimgrid.RsgStatus
import RemoteSimgrid.SimulationFinished
import RemoteSimgrid.ClientObservations
import RemoteSimgrid.ClientThreadsRuns
import RemoteSimgrid.ClientFunctions
import RemoteSimgrid.ClientFunctionsRuns
import RemoteSimgrid.SimulationAnswers
import RemoteSimgrid.ClientReplies
import RemoteSimgrid.ClientSemaphores
import RemoteSimgrid.ClientRequests
import RemoteSimgrid.ServeLoopReader
import RemoteSimgrid.RsgAwaited
