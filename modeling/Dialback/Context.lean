import Dialback.Duration
import Dialback.Uuid
import Dialback.Version

/-!
Metadata that travels with every call: who calls, for which tenant, in which environment, and how
calls that belong together are told apart.
-/
namespace Dialback

abbrev ProcessorId := Uuid
abbrev CallId := Uuid
abbrev HeadId := Uuid
abbrev TenantId := Uuid
abbrev CorrelationId := Uuid

/-- Supplied by the calling application and handed back unchanged. -/
structure ExecutionContext where
  microservice : Uuid
  tenant : TenantId
  version : Version
  environment : String
  correlation : CorrelationId
  culture : String
  deriving DecidableEq, Repr

namespace ExecutionContext

/-- The context of an application that has chosen nothing; only the correlation is its own. -/
def standard (correlation : CorrelationId) : ExecutionContext where
  microservice := Uuid.null
  tenant := Uuid.null
  version := Version.release 0 0 0
  environment := "Development"
  correlation := correlation
  culture := "en-US"

instance : Inhabited ExecutionContext := ⟨standard Uuid.null⟩

def forTenant (tenant : TenantId) (correlation : CorrelationId) : ExecutionContext :=
  { standard correlation with tenant }

def withCorrelation (c : ExecutionContext) (correlation : CorrelationId) : ExecutionContext :=
  { c with correlation }

end ExecutionContext

/-- Attached to the connect arguments of every connection. -/
structure ArgumentsContext where
  head : HeadId
  pingInterval : Duration
  execution : ExecutionContext
  deriving DecidableEq, Repr

/-- Attached to a request and handed back on its response. -/
structure CallContext where
  call : CallId
  execution : ExecutionContext
  deriving DecidableEq, Repr, Inhabited

/-- Ordering domain of a request: calls of one partition are answered in the order of arrival. -/
structure PartitionKey where
  text : String
  deriving DecidableEq, Repr, Hashable

namespace PartitionKey

def unpartitioned : PartitionKey := ⟨""⟩

instance : Inhabited PartitionKey := ⟨unpartitioned⟩

/-- Code point order, which for well-formed texts is also the order of their bytes. -/
def sort (keys : List PartitionKey) : List PartitionKey :=
  keys.mergeSort fun a b => decide (a.text ≤ b.text)

end PartitionKey

/-- A failure that the remote end reports. -/
structure Failure where
  id : Uuid
  reason : String
  deriving DecidableEq, Repr, Inhabited

namespace Failure

def unidentified (reason : String) : Failure :=
  ⟨Uuid.null, reason⟩

def message (f : Failure) : String :=
  f.reason ++ " (" ++ f.id.render ++ ")"

end Failure
end Dialback
