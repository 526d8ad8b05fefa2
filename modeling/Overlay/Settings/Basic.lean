import Overlay.Net.IpAddress

namespace Overlay

structure Settings where
  address : Net.IpAddress
  port : UInt16
  controllerUrl : String
  /-- How long one call to the controller may take, in milliseconds. -/
  controllerTimeout : UInt64
  deriving DecidableEq, Repr

namespace Settings

def listenText (s : Settings) : String := s.address.withPort s.port

def defaultUrl : String := "http://127.0.0.1:8080"

def defaultTimeout : UInt64 := 5000

inductive Refusal
  | missingArgument
  | badValue
  | unknownArgument
  | noValue
  | repeatedOption
  | surplusValue
  | helpWanted
  | versionWanted
  deriving DecidableEq, Repr

inductive Parameter
  | address
  | port
  | controllerUrl
  | controllerTimeout
  deriving DecidableEq, Repr

structure Draft where
  address : Option Net.IpAddress := none
  port : Option UInt16 := none
  controllerUrl : Option String := none
  controllerTimeout : Option UInt64 := none
  deriving Repr

namespace Draft

def has (d : Draft) : Parameter → Bool
  | .address => d.address.isSome
  | .port => d.port.isSome
  | .controllerUrl => d.controllerUrl.isSome
  | .controllerTimeout => d.controllerTimeout.isSome

def port? (s : String) : Option UInt16 :=
  match Text.signedNumeral? (UInt64.size / 2) s.toList with
  | some (.ofNat n) => if n < UInt16.size then some (UInt16.ofNat n) else none
  | _ => none

def timeout? (s : String) : Option UInt64 :=
  (Text.numeral 10 UInt64.size s.toList).toOption.map UInt64.ofNat

def set? (d : Draft) (s : String) : Parameter → Option Draft
  | .address => (Net.IpAddress.parse? s).map fun a => { d with address := some a }
  | .port => (port? s).map fun n => { d with port := some n }
  | .controllerUrl => some { d with controllerUrl := some s }
  | .controllerTimeout => (timeout? s).map fun n => { d with controllerTimeout := some n }

def finish (d : Draft) : Except Refusal Settings :=
  match d.address, d.port with
  | some address, some port => .ok {
      address
      port
      controllerUrl := d.controllerUrl.getD defaultUrl
      controllerTimeout := d.controllerTimeout.getD defaultTimeout }
  | _, _ => .error .missingArgument

end Draft
end Settings
end Overlay
