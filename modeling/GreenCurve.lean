import GreenCurve.LifecycleSafety
import GreenCurve.StallLimits
import GreenCurve.GuardBudget
import GreenCurve.UnsettledRecord
import GreenCurve.DurableUncertainty
import GreenCurve.OperationRun
import GreenCurve.CorrectionLaw
import GreenCurve.DriverRecoverySafety
import GreenCurve.ClockProtection
import GreenCurve.RestoreConvergence
import GreenCurve.RestoreOutcome
import GreenCurve.StartupMigration
import GreenCurve.TransactionRollback
import GreenCurve.SnapshotSync
import GreenCurve.ProfileBankLaw
import GreenCurve.SavedProfile
import GreenCurve.FanRuntime
import GreenCurve.ResumeLimit
import GreenCurve.EnvelopeLaw
import GreenCurve.UpdateChannelLaw
import GreenCurve.UpdatePackage
import GreenCurve.GpuAgreement
import GreenCurve.ClientLaw
import GreenCurve.DomainProjection
import GreenCurve.ProfileTransition
import GreenCurve.CurveTransition
import GreenCurve.BuilderArithmetic
import GreenCurve.TrustBoundary
import GreenCurve.PublicationLaw
import GreenCurve.GpuUuidLaw
import GreenCurve.AutoProfileLaw
import GreenCurve.RecoveryLoop
import GreenCurve.InstallerLaw
import GreenCurve.LogFingerprint
import GreenCurve.PowerShellLiteral
import GreenCurve.FixedPointLaw
import GreenCurve.RoutingLaw
import GreenCurve.CurveVerification
import GreenCurve.VfWriteLaw
import GreenCurve.RedactionLaw
import GreenCurve.IniReload
import GreenCurve.ContainerLaw
import GreenCurve.AssetLaw
import GreenCurve.UpdateSignature
import GreenCurve.PathChain
import GreenCurve.UpdateCommandLaw
import GreenCurve.UpdateTransportLaw
import GreenCurve.DebugLogRun
import GreenCurve.ProtocolStateLaw
import GreenCurve.GuiConnection
