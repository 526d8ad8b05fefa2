import Overlay.Settings.Basic

namespace Overlay.Settings

inductive Argument
  | separator
  | long (name : String) (value : Option String)
  | short (letter : Char)
  | value

def Argument.ofText (s : String) : Argument :=
  match s.toList with
  | ['-', '-'] => .separator
  | '-' :: '-' :: cs =>
    match cs.span (· ≠ '=') with
    | (name, []) => .long (String.ofList name) none
    | (name, _ :: text) => .long (String.ofList name) (some (String.ofList text))
  | '-' :: c :: _ => .short c
  | _ => .value

structure Reading where
  draft : Draft := {}
  places : List Parameter := [.address, .port]
  /-- A parameter whose value is not looked at yet, or still to come. -/
  pending : Option (Parameter × Option String) := none
  onlyValues : Bool := false

namespace Reading

def make (r : Reading) (p : Parameter) : Option String → Except Refusal Reading
  | none => .error .noValue
  | some s =>
    if r.draft.has p then .error .repeatedOption
    else
      match r.draft.set? s p with
      | some draft => .ok { r with draft }
      | none => .error .badValue

def settle (r : Reading) : Except Refusal Reading :=
  match r.pending with
  | none => .ok r
  | some (p, s) => { r with pending := none }.make p s

def place (r : Reading) (s : String) : Except Refusal Reading :=
  match r.places with
  | [] => .error .unknownArgument
  | p :: places => do return { ← r.settle with places, pending := some (p, some s) }

def option? : String → Option Parameter
  | "controller-url" => some .controllerUrl
  | "controller-timeout-ms" => some .controllerTimeout
  | _ => none

def longFlag? : String → Option Refusal
  | "help" => some .helpWanted
  | "version" => some .versionWanted
  | _ => none

def shortFlag? : Char → Option Refusal
  | 'h' => some .helpWanted
  | 'V' => some .versionWanted
  | _ => none

def ask (r : Reading) (wanted : Refusal) : Except Refusal Reading := do
  discard r.settle
  throw wanted

def long (r : Reading) (name : String) (value : Option String) : Except Refusal Reading :=
  match option? name, longFlag? name, value with
  | some p, _, none => do return { ← r.settle with pending := some (p, none) }
  | some p, _, some s => do (← r.settle).make p (some s)
  | none, some wanted, none => r.ask wanted
  | none, some _, some _ => .error .surplusValue
  | none, none, _ => .error .unknownArgument

def short (r : Reading) (letter : Char) : Except Refusal Reading :=
  match shortFlag? letter with
  | some wanted => r.ask wanted
  | none => .error .unknownArgument

def step (r : Reading) (s : String) : Except Refusal Reading :=
  if r.onlyValues then r.place s
  else
    match Argument.ofText s with
    | .separator => .ok { r with onlyValues := true }
    | .long name value => r.long name value
    | .short letter => r.short letter
    | .value =>
      match r.pending with
      | some (p, none) => .ok { r with pending := some (p, some s) }
      | _ => r.place s

end Reading

def fromVariable (p : Parameter) (value : Option String) (d : Draft) : Except Refusal Draft :=
  if d.has p then .ok d
  else
    match value with
    | none => .ok d
    | some s =>
      match d.set? s p with
      | some d => .ok d
      | none => .error .badValue

def read (arguments : List String) (environment : String → Option String) :
    Except Refusal Settings := do
  let r ← (← arguments.foldlM Reading.step {}).settle
  let d ← fromVariable .controllerUrl (environment "OVX_CONTROLLER_URL") r.draft
  let d ← fromVariable .controllerTimeout (environment "OVX_CONTROLLER_TIMEOUT_MS") d
  d.finish

end Overlay.Settings
