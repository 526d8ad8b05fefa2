import Overlay.Controller.Failure
import Overlay.Tenant.Mode
import Overlay.Tenant.Stage

namespace Overlay.Tenant

open Controller Fabric JsonRpc Routing

inductive BadRequest
  | subnet (text : String)
  | unknownSwitch (mac : String) (switch : Dpid)
  deriving DecidableEq, Repr

def BadRequest.message : BadRequest → String
  | .subnet text => s!"invalid subnet '{text}'"
  | .unknownSwitch mac switch => s!"host {mac} is attached to unknown switch {switch}"

inductive ProvisioningError
  | badRequest (fault : BadRequest)
  | unknownType (type : String)
  | unsupported (mode : Mode)
  | topology (cause : TopologyError)
  | route (tenant? : Option TenantId) (cause : RouteError)
  | controller (stage : Stage) (tenant? : Option TenantId) (cause : Failure)

namespace ProvisioningError

def message : ProvisioningError → String
  | badRequest fault => s!"invalid params: {fault.message}"
  | unknownType type => s!"Unsupported network type '{type}'"
  | unsupported mode => s!"unsupported operation: network mode '{mode}' is not implemented"
  | topology cause => s!"physical topology rejected: {cause.message}"
  | route _ cause => s!"route computation failed: {cause.message}"
  | controller stage _ cause => s!"{stage} failed: {cause.message}"

def causes : ProvisioningError → List String
  | badRequest _ | unknownType _ | unsupported _ => []
  | topology cause => [cause.message]
  | route _ cause => cause.message :: (cause.cause?.map TopologyError.message).toList
  | controller _ _ cause => [cause.message]

def stage? : ProvisioningError → Option Stage
  | badRequest _ | unknownType _ | unsupported _ => none
  | topology _ => some .fetchTopology
  | route .. => some .computeRoute
  | controller stage .. => some stage

def tenant? : ProvisioningError → Option TenantId
  | route tenant? _ => tenant?
  | controller _ tenant? _ => tenant?
  | _ => none

def unknownTypeCode : Int64 := 1

def report (e : ProvisioningError) : Json :=
  .obj ((e.stage?.map fun s => ("step", .str s.name)).toList ++
    (e.tenant?.map fun t => ("tenantId", TenantId.codec.encode t)).toList ++
    [("detail", .str e.message)])

def toErrorObject (e : ProvisioningError) : ErrorObject :=
  match e with
  | badRequest _ => .invalidParams e.message
  | unknownType type =>
    { code := unknownTypeCode
      message := "Unsupported network type"
      data := some (.obj [("type", .str type)]) }
  | unsupported mode => (ErrorObject.invalidParams e.message).withData
    (.obj [("mode", .str mode.name)])
  | topology _ | route .. | controller .. =>
    (ErrorObject.internal "Provisioning failed").withData e.report

end ProvisioningError
end Overlay.Tenant
