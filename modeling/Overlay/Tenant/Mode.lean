import Overlay.Text.Blank

namespace Overlay.Tenant

inductive Mode
  | bigSwitch
  | physical
  /-- The tenant defines the correspondence; networks of this mode are not built. -/
  | custom
  deriving DecidableEq, Repr

namespace Mode

def name : Mode → String
  | bigSwitch => "bigswitch"
  | physical => "physical"
  | custom => "custom"

instance : ToString Mode := ⟨name⟩

def ofName? : String → Option Mode
  | "bigswitch" => some bigSwitch
  | "physical" => some physical
  | "custom" => some custom
  | _ => none

@[simp] theorem ofName?_name (m : Mode) : ofName? m.name = some m := by cases m <;> rfl

def parse? (s : String) : Option Mode :=
  ofName? (String.ofList ((Text.trimBlank s.toList).map Char.toLower))

end Mode
end Overlay.Tenant
