import Poise.Foundation.Rounding
import Poise.Foundation.Trace
import Poise.Foundation.Intervals
import Poise.Comfort.Schedule
import Poise.Properties.ScheduleReference
import Poise.Hub.Boiler
import Poise.Properties.BoilerRuns
import Poise.Comfort.DualSetpoint
import Poise.Comfort.ThermalShock
import Poise.Properties.CoolingEdge
import Poise.Comfort.MouldRisk
import Poise.Properties.MouldLatch
import Poise.Control.TickResolve
import Poise.Control.Override
import Poise.Control.WriteEconomy
import Poise.Control.ExternalOverride
import Poise.Control.PipelineActuate
import Poise.Control.AdoptionChannels
import Poise.Properties.SetpointAdoption
import Poise.Properties.ModeAdoption
import Poise.Control.TickSetpoint
import Poise.Properties.WriteEconomyRuns
import Poise.Control.ModeNudge
import Poise.Properties.ModeEconomy
import Poise.Properties.AdoptionCorrection
import Poise.Control.ComfortActivation
import Poise.Control.OverrideRuntime
import Poise.Persistence.Codec
import Poise.Properties.CommitLaws
import Poise.Properties.ConvergenceWatchdog
import Poise.Properties.DecodeTotal
import Poise.Properties.HoldLifecycle
import Poise.Properties.RestartRoundTrip
import Poise.Properties.TierActivation
import Poise.Properties.TierDwell
import Poise.Control.Calibration
import Poise.Control.CalibrationStages
import Poise.Properties.CalibrationMoves
import Poise.Foundation.Grid
import Poise.Properties.CalibrationSnap
import Poise.Properties.CalibrationAnchor
import Poise.Foundation.Covariance
import Poise.Comfort.Ventilation
import Poise.Comfort.VentEpisode
import Poise.Properties.VentAdvice
import Poise.Properties.EpisodeEnds
import Poise.Properties.EpisodeProtection
import Poise.Properties.PromptBudget
import Poise.Multi.Lifecycle
import Poise.Properties.CompressorGuard
import Poise.Control.FanFirst
import Poise.Properties.FanFirstRuns
import Poise.Properties.BoostHome
import Poise.Safety.HeatingFailure
import Poise.Properties.FailureWindows
import Poise.Foundation.Binary64
import Poise.Estimation.TauTrust
import Poise.Properties.TrustWindow
import Poise.Estimation.ThermalEkf
import Poise.Properties.EkfCovariance
import Poise.Properties.EkfInfluence
import Poise.Control.Constraints
import Poise.Properties.ConstraintPrecedence
import Poise.Control.WriteTarget
import Poise.Properties.WriteEnvelope
import Poise.Properties.SettleTolerance
import Poise.Foundation.PiecewiseLinear
import Poise.Control.Forecast
import Poise.Properties.ForecastMean
import Poise.Properties.ForecastAnchor
import Poise.Properties.ComfortDecisionLaws
import Poise.Foundation.Bisection
import Poise.Properties.RequiredTemperature
import Poise.Foundation.Relaxation
import Poise.Control.OptimalStart
import Poise.Properties.OptimalStartStop
import Poise.Foundation.Text
import Poise.Foundation.Dict
import Poise.Hub.ServiceAction
import Poise.Properties.ActionRoundTrip
import Poise.Foundation.Mapping
import Poise.Persistence.Migration
import Poise.Properties.MigrationLaws
import Poise.Foundation.Greedy
import Poise.Hub.LoadShedding
import Poise.Properties.SheddingPrefix
import Poise.Diagnostics.TraceRecorder
import Poise.Properties.TraceOrder
import Poise.Properties.TraceRotation
import Poise.Foundation.Deadband
import Poise.Hub.Aggregate
import Poise.Properties.HubResponse
import Poise.Properties.SharedResources
import Poise.Runtime.EntryLifecycle
import Poise.Properties.EntryUnload
import Poise.Foundation.ExponentialMean
import Poise.Control.WindowAuto
import Poise.Properties.WindowAutoRuns
import Poise.Estimation.RunningMean
import Poise.Properties.RunningMeanHistory
import Poise.Estimation.TauSettle
import Poise.Properties.TauSettleSpread
import Poise.Estimation.SeasonlessRate
import Poise.Properties.HeatupClimbs
import Poise.Foundation.PastTime
import Poise.Comfort.Presence
import Poise.Properties.PresenceHold
import Poise.Comfort.Humidity
import Poise.Properties.DryLatch
import Poise.Multi.Arbitration
import Poise.Properties.ThermalArbitration
import Poise.Foundation.Excursions
import Poise.Diagnostics.OutcomeScoring
import Poise.Diagnostics.HdhSavings
import Poise.Properties.OutcomeSessions
import Poise.Properties.SessionMinutes
import Poise.Properties.OutcomeScores
import Poise.Properties.SavingsMonth
import Poise.Safety.SensorOutage
import Poise.Properties.SensorHandback
import Poise.Properties.SafeState
import Poise.Diagnostics.RegulationQuality
import Poise.Properties.QualityGate
import Poise.Control.ReferenceOffset
import Poise.Properties.OffsetTrust
import Poise.Control.PreheatPlan
import Poise.Properties.PreheatPromise
import Poise.Foundation.Hysteresis
import Poise.Control.ModeResolution
import Poise.Properties.ModeThrash
