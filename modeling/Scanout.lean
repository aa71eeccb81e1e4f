import Scanout.BackendHistory
import Scanout.ConfigFile
import Scanout.ConfigWriter
import Scanout.DeveloperText
import Scanout.ErrorKind
import Scanout.HeldBuffers
import Scanout.LogFilter
import Scanout.RecordingDevice
import Scanout.SimulatedCard
import Scanout.SimulatedDevice
import Scanout.SimulatedDirectory
import Scanout.Proofs.ActionStages
import Scanout.Proofs.ClaimLedger
import Scanout.Proofs.CrtcIsolation
import Scanout.Proofs.FramePacing
import Scanout.Proofs.LinkStates
import Scanout.Proofs.CalmActs
import Scanout.Proofs.CrtcTable
import Scanout.Proofs.ModesetChoices
import Scanout.Proofs.TeardownRoundTrip
import Scanout.Proofs.BufferLedger
import Scanout.Proofs.ScanoutSafety
import Scanout.Proofs.OtherOutputs
import Scanout.Proofs.StableNames
import Scanout.Proofs.TeardownSilence
import Scanout.Proofs.ResourceConservation
import Scanout.Proofs.ReleasedContext
import Scanout.Proofs.ContextRelease
import Scanout.Proofs.FramebufferCache
import Scanout.Proofs.ConfigRoundTrip
import Scanout.Proofs.ModeRequestGrammar
import Scanout.Proofs.ModesetFailures
import Scanout.Proofs.DarkenedCrtcs
import Scanout.Proofs.QueuedEvents
import Scanout.Proofs.ModesetOutcomes
import Scanout.Proofs.WrittenModeRequests
import Scanout.Proofs.ReconciledScans
import Scanout.Proofs.PresentedFrames
import Scanout.Proofs.AwaitedTeardowns
import Scanout.Proofs.ModeMatching
import Scanout.Proofs.RawModeRoundTrip
import Scanout.Proofs.EncoderMasks
import Scanout.Proofs.ClaimHistory
import Scanout.Proofs.ConfigOverlay
