namespace Overlay.Tenant

inductive Stage
  | fetchTopology
  | createNetwork
  | createSwitch
  | createLink
  | computeRoute
  | createSwitchRoute
  | createHost
  | startNetwork
  deriving DecidableEq, Repr

namespace Stage

def name : Stage → String
  | fetchTopology => "fetchTopology"
  | createNetwork => "createNetwork"
  | createSwitch => "createSwitch"
  | createLink => "createLink"
  | computeRoute => "computeRoute"
  | createSwitchRoute => "createSwitchRoute"
  | createHost => "createHost"
  | startNetwork => "startNetwork"

instance : ToString Stage := ⟨name⟩

end Stage
end Overlay.Tenant
