import TomtitAgent.Memory.Records

/-!
# `memory/contracts.py`: what is written to a memory backend, and what it returns
-/

open Py

namespace Tomtit

structure MemoryCandidate where
  type : MemoryType
  content : PyStr
  tags : List PyStr := []
  importance : PyFloat := weight05.float
  confidence : PyFloat := weight1.float
  evidenceRef : Option PyStr := none
  /-- the items of the dictionary, keys of any type -/
  metadata : List (PyVal × PyVal) := []

structure WriteResponse where
  writtenIds : List PyStr := []
  skipped : List PyStr := []

/-- A `ContextItem`, by what a recall reads of it. -/
structure ContextItem where
  content : PyStr
  /-- the items of the dictionary, keys of any type -/
  metadata : List (PyVal × PyVal) := []
  sourceRef : Option PyStr := none

structure ContextPack where
  items : List ContextItem
  degraded : Bool

/-- `metadata.get(key)` -/
def metadataGet (metadata : List (PyVal × PyVal)) (key : PyStr) : Option PyVal :=
  (metadata.find? fun kv => kv.1.asStr = some key).map Prod.snd

end Tomtit
