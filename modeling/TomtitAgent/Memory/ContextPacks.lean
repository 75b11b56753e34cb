import TomtitAgent.Confirmation.Models
import TomtitAgent.Memory.Contracts

/-!
# A retrieved `ContextPack` with all its fields
-/

open Py

namespace Tomtit

/-- `MemorySource` -/
inductive MemorySource where
  | remoteMemory | localMemory | file | user | prompt
deriving DecidableEq

/-- `Provenance` of an item -/
inductive ItemProvenance where
  | remote | fallback | user | file | prompt
deriving DecidableEq

/-- `Confidence` of an item -/
inductive ItemConfidence where
  | normal | limited | unknown
deriving DecidableEq

inductive Freshness where
  | fresh | stale | unknown
deriving DecidableEq

structure RetrievedItem extends ContextItem where
  type : MemoryType
  score : PyFloat
  tokens : Int
  source : MemorySource
  provenance : ItemProvenance
  confidence : ItemConfidence
  freshness : Freshness
  sourceType : SourceType := .memory
  trustLevel : TrustLevel := .untrustedEvidence

/-- `memory_source` of a pack -/
inductive MemoryBackend where
  | remote | localFallback
deriving DecidableEq

structure RetrievedPack where
  items : List RetrievedItem
  totalItems : Int
  tokensUsed : Int
  tokenBudget : Int
  truncated : Bool
  degraded : Bool
  memorySource : MemoryBackend

/-- The arguments of `retrieve_context_pack`. -/
structure RetrieveArgs where
  goal : PyStr
  userId : Option PyStr := none
  sessionId : Option PyStr := none
  tokenBudget : Int := 1500
  maxItems : Int := 20

end Tomtit
