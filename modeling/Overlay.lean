import Overlay.JsonRpc.Post
import Overlay.Main
import Overlay.Proofs.Fabric.Build
import Overlay.Proofs.Fabric.PathText
import Overlay.Proofs.Fabric.Agreement
import Overlay.Proofs.Json.Layout
import Overlay.Proofs.JsonRpc.Response
import Overlay.Proofs.JsonRpc.Dispatch
import Overlay.Proofs.Controller.Reply
import Overlay.Proofs.Routing.Search
import Overlay.Proofs.Routing.Cache
import Overlay.Proofs.Routing.Path
import Overlay.Proofs.Routing.Route
import Overlay.Proofs.Routing.Routable
import Overlay.Proofs.Routing.Tally
import Overlay.Proofs.Routing.Isolation
import Overlay.Proofs.Tenant.Subnet
import Overlay.Proofs.Planner.Plan
import Overlay.Proofs.Planner.Session
import Overlay.Proofs.Planner.Provision
import Overlay.Proofs.Planner.FailStop
import Overlay.Proofs.Planner.Report
import Overlay.Proofs.Planner.BigSwitch
import Overlay.Proofs.Planner.Physical
import Overlay.Proofs.Planner.Conversation
import Overlay.Proofs.Planner.Feasible
import Overlay.Proofs.Planner.Admission
import Overlay.Proofs.Planner.NetworkType
import Overlay.Proofs.Planner.Service
import Overlay.Proofs.Planner.Ledger
import Overlay.Proofs.Planner.RouteAnswer
import Overlay.Proofs.Planner.Rearranged
import Overlay.Proofs.Fabric.Refusal
import Overlay.Proofs.Fabric.Views
import Overlay.Proofs.Planner.Unrouted
import Overlay.Proofs.Routing.Straight
import Overlay.Proofs.Routing.SearchLoop
import Overlay.Proofs.Fabric.DpidText
import Overlay.Proofs.Fabric.DpidGroups
import Overlay.Proofs.Planner.WireForms
import Overlay.Proofs.JsonRpc.RoundTrip
import Overlay.Proofs.Controller.Run
