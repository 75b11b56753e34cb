import TomtitAgent.Python.Value

/-!
# `validation.py`: identifiers and repository paths

* `isValidTaskId`, `isValidEvidenceId`   the identifier grammars, matched with `^...$`;
* `normalizeRepoPath`   a spelling of a repository-relative path to its canonical form.
-/

open Py

namespace Tomtit

def invalidRepoPathError (msg : PyStr) : PyExc := ⟨["InvalidRepoPathError", "ValueError"], msg⟩

/-- `_RE_TASK_ID` without its anchors. -/
def taskIdRe : PyStr → Bool :=
  tokenRe isAlnum (fun c => isAlnum c || c == 46 || c == 95 || c == 45) 127

/-- `_RE_ARTIFACT_NAME` without its anchors. -/
def artifactNameRe : PyStr → Bool := tokenRe isAlnum (fun c => isAlnum c || c == 95 || c == 45) 63

def isValidTaskId (value : PyStr) : Bool := dollar taskIdRe value

def isValidEvidenceId (value : PyStr) : Bool := dollar artifactNameRe value

/-! ### paths -/

/-- `_RE_WINDOWS_DRIVE` -/
def windowsDrive : PyStr → Bool
  | c :: 58 :: _ => isUpper c || isLower c
  | _ => false

/-- `while normalized.startswith("./"): normalized = normalized[2:]` -/
def dropDotSlash : PyStr → PyStr
  | 46 :: 47 :: rest => dropDotSlash rest
  | s => s

/-- The segments of a path, without empty ones and without `.`. -/
def pathSegments (path : PyStr) : List PyStr :=
  (path.splitOn 47).filter fun seg => seg ≠ [] ∧ seg ≠ [46]

section
variable (rt : Runtime)

def normalizeRepoPath (path : PyStr) : Except PyExc PyStr := do
  let raw := strip path
  raiseIf (raw = []) (invalidRepoPathError
    (py "empty or non-string path: " ++ reprStr rt path))
  raiseIf (raw.any isControl) (invalidRepoPathError
    (py "path contains control characters: " ++ reprStr rt path))
  raiseIf ([92, 92].isPrefixOf raw) (invalidRepoPathError
    (py "UNC path rejected: " ++ reprStr rt path))
  raiseIf (windowsDrive raw) (invalidRepoPathError
    (py "Windows drive path rejected: " ++ reprStr rt path))
  let normalized := replaceChar 92 47 raw
  raiseIf (normalized.head? = some 47) (invalidRepoPathError
    (py "absolute path rejected: " ++ reprStr rt path))
  let segments := pathSegments (dropDotSlash normalized)
  raiseIf (segments = []) (invalidRepoPathError
    (py "path resolves to nothing: " ++ reprStr rt path))
  raiseIf ([46, 46] ∈ segments) (invalidRepoPathError
    (py "path traversal segment rejected: " ++ reprStr rt path))
  return joinWith [47] segments

/-- `PurePosixPath(path).name` -/
def pathName (path : PyStr) : PyStr := (pathSegments path).getLast?.getD []

end

end Tomtit
