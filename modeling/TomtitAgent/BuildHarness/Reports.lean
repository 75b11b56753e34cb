import TomtitAgent.Python.Value
import TomtitAgent.Python.Order

/-!
# `reports.py`: agent reports

`AgentReport` and the closed vocabulary of (role, status, result).
-/

open Py

namespace Tomtit

structure AgentReport where
  taskId : PyStr
  role : PyStr
  status : PyStr
  result : PyStr
  filesChanged : List PyStr := []
  testsRun : List PyStr := []
  blockers : List PyStr := []
  nextRecommendedAction : Option PyStr := none
  commitSha : Option PyStr := none
  rawText : PyStr := []
  parseOk : Bool := true
  parseError : Option PyStr := none

/-- `ALLOWED_STATUS_RESULT_BY_ROLE` -/
def allowedStatusResultByRole : List (PyStr × List (PyStr × PyStr)) :=
  [(py "implementer", [(py "IMPLEMENTED", py "PASS"), (py "BLOCKED", py "BLOCKED")]),
   (py "verifier", [(py "VERIFIED_PASS", py "PASS"), (py "NEEDS_FIX", py "NEEDS_FIX"),
     (py "BLOCKED", py "BLOCKED")]),
   (py "architect", [(py "CONTRACT_READY", py "PASS"), (py "BLOCKED", py "BLOCKED")]),
   (py "gatekeeper", [(py "GATED", py "PASS"), (py "GATED", py "NEEDS_FIX"),
     (py "BLOCKED", py "BLOCKED")]),
   (py "release_operator", [(py "MERGED", py "PASS"), (py "BLOCKED", py "BLOCKED")])]

def isAllowedStatusResult (role status result : PyStr) : Bool :=
  (status, result) ∈ (assoc allowedStatusResultByRole role).getD []

end Tomtit
