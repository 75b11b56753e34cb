import TomtitAgent.BuildHarness.Validation

/-!
# `contracts.py`: the task contract
-/

open Py

namespace Tomtit

/-- `_DEFAULT_HUMAN_APPROVAL_ACTIONS` -/
def defaultHumanApprovalActions : List PyStr :=
  [py "merge", py "push", py "deploy", py "dependency_change"]

structure TaskContract where
  taskId : PyStr
  title : PyStr
  goal : PyStr
  allowedPaths : List PyStr := []
  forbiddenPaths : List PyStr := []
  acceptanceCriteria : List PyStr := []
  requiredEvidence : List PyStr := []
  riskLevel : PyStr := py "medium"
  requiresHumanApprovalFor : List PyStr := defaultHumanApprovalActions
  broadScopeAllowed : Bool := false

end Tomtit
