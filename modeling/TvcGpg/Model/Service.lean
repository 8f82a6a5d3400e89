import TvcGpg.Model.Router

/-!
# The server as it serves

`main.rs` behind the start: the router with the metrics layer around it and the route
`/metrics` behind.  Requests come in, are in flight together, and leave in any order, with
an answer or without one; when a request is answered, the clock and the randomness are what
they are then.

`answered` is no part of the process.  It keeps what callers were sent, to compare it with
what the histogram has counted.
-/

namespace TvcGpg
namespace Service

open Lib Router

/-- The server: the observations of its histogram, by the labels of the child that made
them, the requests in flight, and what has been answered. -/
structure Server where
  observed : List Metrics.Labels
  pending : List Request
  answered : List (Request × Response)
  deriving DecidableEq, Repr

/-- The server before the first request. -/
def start : Server where
  observed := []
  pending := []
  answered := []

/-- What can happen to a server. -/
inductive Event
  | comes (request : Request)
  /-- The handler of a request in flight is done. -/
  | resolves (request : Request) (clock : Option UInt64) (entropy : Bytes)
  /-- The future of a request is dropped, as when a caller hangs up. -/
  | dropped (request : Request)
  deriving DecidableEq, Repr

/-- The labels an answer is counted under. -/
def labelsOf (request : Request) (response : Response) : Metrics.Labels :=
  (Metrics.call request.line).labels response.status.code

section Step

variable (crates : Crates) (exports : Team.ExportCrates) (axum : Axum) (state : ServerState)

/-- One step of the server. -/
def step (server : Server) : Event → Option Server
  | .comes request =>
      -- the route behind the layer is answered at once, and not counted
      if request.path = Metrics.metricsPath then some server
      else some { server with pending := server.pending ++ [request] }
  | .resolves request clock entropy =>
      if request ∈ server.pending then
        let response := handle crates exports axum state clock entropy request
        some {
          observed := server.observed ++ [labelsOf request response]
          pending := server.pending.erase request
          answered := server.answered ++ [(request, response)] }
      else none
  | .dropped request =>
      if request ∈ server.pending then
        some { server with pending := server.pending.erase request }
      else none

end Step

/-- The server as the metrics layer sees it. -/
def Server.metrics (server : Server) : Metrics.Server where
  series := server.observed.toFinset
  pending := server.pending.map fun request => Metrics.call request.line

end Service
end TvcGpg
