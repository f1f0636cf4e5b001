import SkyAutoPlayer.AppCore.PlannerAccounting
import SkyAutoPlayer.DispatchCore.FeasibleGenerations
import SkyAutoPlayer.Player.TimingAgreement
import SkyAutoPlayer.Player.ScheduleAdmission
import SkyAutoPlayer.Player.CallbackIsolation
import SkyAutoPlayer.Player.StartupPublication
import SkyAutoPlayer.Player.OwnerIdentity
import SkyAutoPlayer.Player.PauseAccounting
import SkyAutoPlayer.Desktop.EventDelivery
import SkyAutoPlayer.Desktop.AnalysisAdmission
import SkyAutoPlayer.Desktop.CatalogOwners
import SkyAutoPlayer.Desktop.PreparedFresh
import SkyAutoPlayer.Desktop.CatalogRoundTrip
import SkyAutoPlayer.Desktop.PresentationProgress
import SkyAutoPlayer.Desktop.CalibrationOrder
import SkyAutoPlayer.Desktop.UpdateRevisions
import SkyAutoPlayer.DesktopUi.TransportOperations
import SkyAutoPlayer.DispatchCore.PauseFailures
import SkyAutoPlayer.AppCore.ScheduleConservation
import SkyAutoPlayer.DispatchWin32.KeyDown
import SkyAutoPlayer.AppCore.PlannerOrder
import SkyAutoPlayer.AppCore.CatalogPaging
import SkyAutoPlayer.Player.TimingMonotone
import SkyAutoPlayer.Player.HoldForensics
import SkyAutoPlayer.Player.HealthWindow
import SkyAutoPlayer.AppCore.RiskAnalysis
import SkyAutoPlayer.DesktopUi.ShuffleTraversal
import SkyAutoPlayer.DispatchWin32.RejectedPackets
import SkyAutoPlayer.Player.TelemetryRecord
import SkyAutoPlayer.Desktop.CalibrationAgreement
import SkyAutoPlayer.Player.WakeGuarantees
import SkyAutoPlayer.Desktop.ViewportFresh
import SkyAutoPlayer.DispatchCore.CoordinatorRuns
