import AnalyticsHub.Resilience.CircuitBreaker
import AnalyticsHub.Resilience.BreakerInvariant
import AnalyticsHub.Resilience.BreakerRuns
import AnalyticsHub.Resilience.Binary64
import AnalyticsHub.Resilience.Retry
import AnalyticsHub.Resilience.Callers
import AnalyticsHub.Analytics.Surd
import AnalyticsHub.Analytics.Window
import AnalyticsHub.Analytics.Anomaly
import AnalyticsHub.Analytics.Sensitivity
import AnalyticsHub.Analytics.ZScoreBound
import AnalyticsHub.Analytics.AnomalyLog
import AnalyticsHub.Analytics.Prediction
import AnalyticsHub.Analytics.Engines
import AnalyticsHub.Analytics.PredictionCache
import AnalyticsHub.Analytics.History
import AnalyticsHub.Analytics.Forecasting
import AnalyticsHub.Analytics.Trend
import AnalyticsHub.Schemas.Events
import AnalyticsHub.Pipeline.Ingestion
import AnalyticsHub.Analytics.Correlation
import AnalyticsHub.Analytics.CorrelationScan
import AnalyticsHub.Analytics.CorrelationGraph
import AnalyticsHub.Analytics.PatternAccounting
import AnalyticsHub.Analytics.CorrelationStats
import AnalyticsHub.Analytics.TimeShift
import AnalyticsHub.Analytics.CorrelationTimeShift
import AnalyticsHub.Analytics.Chrono
import AnalyticsHub.Analytics.CacheRefinement
import AnalyticsHub.Analytics.CorrelationTracking
import AnalyticsHub.Analytics.DetectorConcurrency
import AnalyticsHub.Analytics.PredictionStats
import AnalyticsHub.Adapters.Config
