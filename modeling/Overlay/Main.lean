import Overlay.Controller.HttpClient
import Overlay.Planner.Methods
import Overlay.Settings.CommandLine

namespace Overlay

def Settings.Refusal.message : Settings.Refusal → String
  | .missingArgument => "an address and a port are required"
  | .badValue => "a value is not of the kind that is asked for"
  | .unknownArgument => "an argument is not known"
  | .noValue => "an option has no value"
  | .repeatedOption => "an option is given twice"
  | .surplusValue => "a flag takes no value"
  | .helpWanted =>
    "usage: ovx-planner [--controller-url URL] [--controller-timeout-ms N] ADDRESS PORT"
  | .versionWanted => "ovx-planner"

partial def serve (k : Controller σ) (input output : IO.FS.Stream) (s : Planner.Session σ) :
    IO Unit := do
  let line ← input.getLine
  unless line.isEmpty do
    let (response, s) := ((Planner.methods k).answerBytes line.toUTF8).run s
    output.putStrLn (JsonRpc.Response.codec.encode response).compact
    output.flush
    serve k input output s

end Overlay

open Overlay in
def main (arguments : List String) : IO UInt32 := do
  let url ← IO.getEnv "OVX_CONTROLLER_URL"
  let timeout ← IO.getEnv "OVX_CONTROLLER_TIMEOUT_MS"
  let environment (name : String) : Option String :=
    if name = "OVX_CONTROLLER_URL" then url else timeout
  match Settings.read arguments environment with
  | .error refusal =>
    IO.eprintln refusal.message
    return if refusal matches .helpWanted | .versionWanted then 0 else 2
  | .ok settings =>
    IO.eprintln s!"planning for {settings.listenText}"
    let k := Controller.HttpClient.controller settings.controllerUrl Controller.Transport.down
    serve k (← IO.getStdin) (← IO.getStdout) { controller := { transport := () } }
    return 0
