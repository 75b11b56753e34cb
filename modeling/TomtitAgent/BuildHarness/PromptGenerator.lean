import TomtitAgent.Python.StrEnum
import TomtitAgent.BuildHarness.Contracts

/-!
# `prompt_generator.py`: role prompts of a contract
-/

open Py

namespace Tomtit

inductive AgentRole
  | architect
  | implementer
  | verifier
  | gatekeeper
  | releaseOperator
deriving DecidableEq

instance : StrEnum AgentRole where
  clsName := py "AgentRole"
  members := [.architect, .implementer, .verifier, .gatekeeper, .releaseOperator]
  value
    | .architect => py "architect"
    | .implementer => py "implementer"
    | .verifier => py "verifier"
    | .gatekeeper => py "gatekeeper"
    | .releaseOperator => py "release_operator"
  mem_members a := by cases a <;> simp
  value_inj a b := by cases a <;> cases b <;> simp
  value_ascii a := by cases a <;> exact ascii_lit _ (by decide)

def bullets (items : List PyStr) (empty : PyStr) : PyStr :=
  if items ≠ [] then joinWith [newline] (items.map fun item => py "- " ++ item)
  else py "- " ++ empty

def machineSummaryBlock (contract : TaskContract) (role : AgentRole) (statuses : PyStr) : PyStr :=
  joinWith [newline]
    [py "## Required output — machine_summary", [],
     py "End your report with this fenced JSON block (exact key names):", [],
     py "```json", py "\x7b", py "  \"machine_summary\": \x7b",
     py "    \"task_id\": \"" ++ contract.taskId ++ py "\",",
     py "    \"role\": \"" ++ StrEnum.value role ++ py "\",",
     py "    \"status\": \"" ++ statuses ++ py "\",",
     py "    \"result\": \"PASS | NEEDS_FIX | BLOCKED\",",
     py "    \"files_changed\": [],", py "    \"tests_run\": [],", py "    \"blockers\": [],",
     py "    \"next_recommended_action\": null", py "  \x7d", py "\x7d", py "```"]

def contractHeader (contract : TaskContract) : PyStr :=
  joinWith [newline]
    [py "# Task " ++ contract.taskId ++ py " — " ++ contract.title, [],
     py "## Goal", contract.goal, [],
     py "## Allowed paths (scope)", bullets contract.allowedPaths
      (if contract.broadScopeAllowed then py "broad scope explicitly allowed" else py "(none)"), [],
     py "## Forbidden paths", bullets contract.forbiddenPaths (py "(none)"), [],
     py "## Acceptance criteria", bullets contract.acceptanceCriteria (py "(none)"), [],
     py "## Required evidence", bullets contract.requiredEvidence (py "(none)"), [],
     py "## Risk level", contract.riskLevel, [],
     py "## Human approval required for", bullets contract.requiresHumanApprovalFor (py "(none)")]

/-- The rules of a role, with the line that introduces them. -/
def roleRules : AgentRole → List PyStr
  | .implementer =>
    [py "## Role: IMPLEMENTER", [], py "Rules (non-negotiable):",
     py "- Implement ONLY within the allowed paths above.", py "- Do not merge.",
     py "- Do not push.", py "- Do not edit forbidden files.",
     py "- Do not add dependencies unless approved by a human first.",
     py "- Run and record the required evidence commands exactly as listed.",
     py "- Commit on a feature branch; report the exact commit SHA."]
  | .verifier =>
    [py "## Role: VERIFIER", [], py "Rules (non-negotiable):", py "- Verify only. Do not edit code.",
     py "- Do not commit. Do not merge. Do not push.",
     py "- Check scope: every changed file must be within the allowed paths.",
     py "- Check forbidden paths were not touched.",
     py "- Check dependency files were not changed without approval.",
     py "- Check the required tests/evidence were actually run and passed.",
     py "- Return exactly one verdict: PASS / NEEDS_FIX / BLOCKED."]
  | .releaseOperator =>
    [py "## Role: RELEASE_OPERATOR", [], py "Rules (non-negotiable):",
     py "- Merge/push ONLY after every gate has passed and human approval is recorded.",
     py "- Do not force push. Never rewrite remote history.",
     py "- Verify the exact commit identity (SHA) being merged matches the approved candidate.",
     py "- Verify clean tracked/staged state before and after the merge.",
     py "- Report the final remote SHA after the push."]
  | .architect =>
    [py "## Role: ARCHITECT", [], py "Rules:",
     py "- Refine the contract: scope, acceptance criteria, risks, evidence requirements.",
     py "- Do not implement. Do not merge. Do not push."]
  | .gatekeeper =>
    [py "## Role: GATEKEEPER", [], py "Rules:",
     py ("- Evaluate the change against the contract: scope, forbidden paths, dependencies, " ++
       "evidence."),
     py "- Do not edit code. Do not merge. Do not push.",
     py "- Return exactly one decision: PASS / REVIEW_REQUIRED / BLOCK."]

def roleStatuses : AgentRole → PyStr
  | .implementer => py "IMPLEMENTED | BLOCKED"
  | .verifier => py "VERIFIED | BLOCKED"
  | .releaseOperator => py "MERGED | BLOCKED"
  | .architect => py "CONTRACT_READY | BLOCKED"
  | .gatekeeper => py "GATED | BLOCKED"

def generatePrompt (contract : TaskContract) (role : AgentRole) : PyStr :=
  joinWith [newline] (contractHeader contract :: [] :: roleRules role ++
    [[], machineSummaryBlock contract role (roleStatuses role)])

end Tomtit
