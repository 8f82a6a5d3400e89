import Mathlib.Data.Finset.Insert

/-!
# The request metrics

`layer.rs` around the router of `router.rs`, as `main.rs` puts them together: a
request that comes in becomes a future that has the labels of its method and its
path, and when the future resolves to a response the histogram gets the child of
these labels and the status.  The layer wraps the routes and the fallback; the
route `/metrics` is added behind it.

What the histogram counts is left out, and with it the clock.  A handler may
answer with any status.
-/

namespace TvcGpg
namespace Metrics

/-- The names of the standard HTTP methods. -/
def standardNames : List String :=
  ["OPTIONS", "GET", "POST", "PUT", "DELETE", "HEAD", "TRACE", "CONNECT", "PATCH"]

/-- Whether a character may stand in the name of a method. -/
def isTokenChar (c : Char) : Bool := c.isAlphanum || c ∈ "!#$%&'*+-.^_`|~".toList

/-- A method that is none of the standard ones, by its name. -/
structure Extension where
  name : String
  token : name ≠ "" ∧ name.toList.all isTokenChar = true
  other : name ∉ standardNames
  deriving DecidableEq, Repr

/-- The HTTP methods. -/
inductive Method
  | options
  | get
  | post
  | put
  | delete
  | head
  | trace
  | connect
  | patch
  | extension (name : Extension)
  deriving DecidableEq, Repr

instance : ToString Method where
  toString
    | .options => "OPTIONS"
    | .get => "GET"
    | .post => "POST"
    | .put => "PUT"
    | .delete => "DELETE"
    | .head => "HEAD"
    | .trace => "TRACE"
    | .connect => "CONNECT"
    | .patch => "PATCH"
    | .extension method => method.name

/-- Whether a method is one of the standard ones. -/
def Method.isStandard : Method → Bool
  | .extension _ => false
  | _ => true

/-- A status code. -/
structure StatusCode where
  code : Nat
  valid : 100 ≤ code ∧ code ≤ 999
  deriving DecidableEq, Repr

/-- What the layer and the router look at in a request. -/
structure Request where
  method : Method
  /-- `uri().path()`, as it was sent. -/
  path : String
  deriving DecidableEq, Repr

/-! ## The router -/

/-- The routes of `router_with_state`, with the methods that have a handler.  A `get`
handler serves HEAD too. -/
def routes : List (String × List Method) :=
  [("/health", [.get, .head]), ("/public-key", [.get, .head]),
    ("/revocation-certificate", [.get, .head]), ("/session-key", [.post])]

/-- The route `main` adds behind the layer. -/
def metricsPath : String := "/metrics"

/-- Whether the router can answer a request with this status: a path without a route goes
to the fallback, and a method without a handler is turned down. -/
def answers (request : Request) (status : StatusCode) : Bool :=
  match routes.lookup request.path with
  | none => status.code = 404
  | some methods => request.method ∈ methods || status.code = 405

/-! ## The layer -/

/-- A request in flight: the labels its future has, and the inner future. -/
structure ResponseFuture where
  inner : Request
  method : String
  path : String
  deriving DecidableEq, Repr

/-- The label values of a child of the histogram. -/
structure Labels where
  method : String
  path : String
  status : String
  deriving DecidableEq, Repr

/-- `MetricsService::call`. -/
def call (request : Request) : ResponseFuture where
  inner := request
  method := toString request.method
  path := request.path

/-- The label values `ResponseFuture::poll` asks the histogram for. -/
def ResponseFuture.labels (future : ResponseFuture) (status : StatusCode) : Labels where
  method := future.method
  path := future.path
  status := toString status.code

/-- The server, as far as the layer sees it. -/
structure Server where
  /-- The children of the histogram. -/
  series : Finset Labels
  pending : List ResponseFuture

/-- The server before the first request. -/
def start : Server where
  series := ∅
  pending := []

/-- What can happen to a server. -/
inductive Event
  | comes (request : Request)
  /-- A future resolves to a response or to an error. -/
  | resolves (future : ResponseFuture) (response : Option StatusCode)
  /-- A future is dropped, as when a caller hangs up. -/
  | dropped (future : ResponseFuture)
  deriving DecidableEq, Repr

/-- Whether a request that comes has a standard method. -/
def Event.isStandard : Event → Bool
  | .comes request => request.method.isStandard
  | _ => true

/-- One step of the server. -/
def step (server : Server) : Event → Option Server
  | .comes request =>
      if request.path = metricsPath then some server
      else some { server with pending := server.pending ++ [call request] }
  | .resolves future response =>
      if future ∈ server.pending then
        match response with
        | none => some { server with pending := server.pending.erase future }
        | some status =>
            if answers future.inner status then
              some { series := insert (future.labels status) server.series
                     pending := server.pending.erase future }
            else none
      else none
  | .dropped future =>
      if future ∈ server.pending then
        some { server with pending := server.pending.erase future }
      else none

end Metrics
end TvcGpg
