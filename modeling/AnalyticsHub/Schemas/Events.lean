import AnalyticsHub.Analytics.Window

set_option autoImplicit false

/- The fields of an analytics event that the correlation engine reads. Uuids are natural
   numbers; the payload, schema version, environment and tags are carried by the engine but
   never read, and are left out. -/
namespace AnalyticsHub.Schemas

open AnalyticsHub.Analytics (DateTime)

inductive SourceModule where
  | llmObservatory
  | llmSentinel
  | llmCostOps
  | llmGovernanceDashboard
  | llmRegistry
  | llmPolicyEngine
  | llmAnalyticsHub
deriving DecidableEq, Repr

-- format!("{:?}", module): the variant's name.
def SourceModule.debugName : SourceModule → String
  | .llmObservatory => "LlmObservatory"
  | .llmSentinel => "LlmSentinel"
  | .llmCostOps => "LlmCostOps"
  | .llmGovernanceDashboard => "LlmGovernanceDashboard"
  | .llmRegistry => "LlmRegistry"
  | .llmPolicyEngine => "LlmPolicyEngine"
  | .llmAnalyticsHub => "LlmAnalyticsHub"

inductive EventType where
  | telemetry
  | security
  | cost
  | governance
  | lifecycle
  | audit
  | alert
deriving DecidableEq, Repr

def EventType.debugName : EventType → String
  | .telemetry => "Telemetry"
  | .security => "Security"
  | .cost => "Cost"
  | .governance => "Governance"
  | .lifecycle => "Lifecycle"
  | .audit => "Audit"
  | .alert => "Alert"

inductive Severity where
  | debug
  | info
  | warning
  | error
  | critical
deriving DecidableEq, Repr

def Severity.debugName : Severity → String
  | .debug => "Debug"
  | .info => "Info"
  | .warning => "Warning"
  | .error => "Error"
  | .critical => "Critical"

structure CommonEventFields where
  eventId : Nat
  timestamp : DateTime
  sourceModule : SourceModule
  eventType : EventType
  correlationId : Option Nat
  parentEventId : Option Nat
  severity : Severity
deriving DecidableEq, Repr

structure AnalyticsEvent where
  common : CommonEventFields
deriving DecidableEq, Repr

end AnalyticsHub.Schemas
