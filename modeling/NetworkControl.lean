import NetworkControl.SharedSocket
import NetworkControl.UdpReceiver
import NetworkControl.RateAgreement
import NetworkControl.LinkEpochs
import NetworkControl.LinkLoss
import NetworkControl.LossAccounting
import NetworkControl.RegistrationFlag
import NetworkControl.Codec
import NetworkControl.SerializeOnce
import NetworkControl.NewestState
import NetworkControl.ConnectionLifecycle
import NetworkControl.FirstSpawn
import NetworkControl.GhostEntities
import NetworkControl.Roster
import NetworkControl.Playback
import NetworkControl.Departure
import NetworkControl.LateInput
import NetworkControl.StreamDiscipline
import NetworkControl.FailedCalls
import NetworkControl.MainViewModel
import NetworkControl.Console
import NetworkControl.EntityIdentity
import NetworkControl.Shutdown
import NetworkControl.CatchUp
import NetworkControl.ExactLoss
import NetworkControl.ElapsedTime
import NetworkControl.Snapshots
import NetworkControl.ReachableSpeed
import NetworkControl.InputOwnership
import NetworkControl.NanInput
import NetworkControl.InputWrap
import NetworkControl.TickClock
import NetworkControl.PortEntry
import NetworkControl.IntervalDivisor
import NetworkControl.ConfigFile
import NetworkControl.EntityView
import NetworkControl.Fairness
import NetworkControl.ClientThreads
import NetworkControl.ClientShutdown
import NetworkControl.ClientProgress
import NetworkControl.ClientAtomicity
import NetworkControl.WorldAgreement
import NetworkControl.ShutdownProgress
import NetworkControl.StreamingWorker
import NetworkControl.StateOrigin
import NetworkControl.AnyStream
import NetworkControl.MeasuredLoss
import NetworkControl.RetrySpacing
import NetworkControl.Ownership
import NetworkControl.SocketOwnership
import NetworkControl.ServerProcess
import NetworkControl.ServerSockets
import NetworkControl.ServerLifetime
import NetworkControl.ServerRaces
import NetworkControl.ServerExit
