import TvcGpg.Model.Metrics
import TvcGpg.Model.TeamKeyExport

/-!
# The router

`router.rs` and `response.rs`, with the handler of `session_key.rs`: what the server
answers to a request, for every method and path there is.  The trace layer around the
routes is left out, and of a response everything but its status and its body.

A body is what arrives of it: a sender may break off.  What axum says on its own to a body
it could not read is its own wording, and comes as a parameter.
-/

namespace TvcGpg
namespace Router

open Lib Lib.Text Lib.Fallible

/-- Largest request body the app reads, in bytes. -/
def maxBodyBytes : Nat := 8192

/-- `AppState`, with the whole of the team key. -/
structure ServerState where
  quorumKey : P256Pair
  teamKey : Team.TeamKey
  allowlist : Allowlist
  appId : String

/-- The state, as far as a release uses it. -/
def ServerState.forRelease (state : ServerState) : AppState where
  quorumKey := state.quorumKey
  teamKey := state.teamKey.forRelease
  allowlist := state.allowlist
  appId := state.appId

/-- A request as the server receives it. -/
structure Request where
  method : Metrics.Method
  /-- `uri().path()`. -/
  path : String
  /-- What arrives of the body. -/
  body : Bytes
  /-- Whether the body ends, and does not break off. -/
  complete : Bool
  deriving DecidableEq, Repr

/-- What the metrics layer looks at in it. -/
def Request.line (request : Request) : Metrics.Request where
  method := request.method
  path := request.path

/-- The statuses the server answers with. -/
inductive Status
  | ok
  | badRequest
  | notFound
  | methodNotAllowed
  | payloadTooLarge
  | internalServerError
  deriving DecidableEq, Repr

/-- The number of a status. -/
def Status.number : Status → Nat
  | ok => 200
  | badRequest => 400
  | notFound => 404
  | methodNotAllowed => 405
  | payloadTooLarge => 413
  | internalServerError => 500

theorem Status.number_valid (status : Status) : 100 ≤ status.number ∧ status.number ≤ 999 := by
  cases status <;> decide

/-- The status as the metrics layer reads it. -/
def Status.code (status : Status) : Metrics.StatusCode where
  code := status.number
  valid := status.number_valid

/-- The status of an error answer. -/
def ofError : StatusCode → Status
  | .badRequest => .badRequest
  | .internalServerError => .internalServerError

/-- A response. -/
structure Response where
  status : Status
  body : Bytes
  deriving DecidableEq, Repr

/-- The texts of axum for a body it could not read. -/
structure Axum where
  /-- A body over the limit. -/
  lengthLimit : Bytes
  /-- A body that breaks off. -/
  unknownBody : Bytes

section Handlers

variable (crates : Crates) (exports : Team.ExportCrates) (axum : Axum)

/-- The derived `Serialize` of `ErrorResponse`. -/
def errorJson (message : String) : Json := .object [("error", .string message)]

/-- `IntoResponse` of `AppError`. -/
def intoResponse (error : AppError) : Response where
  status := ofError error.status
  body := asBytes (crates.json.write (errorJson error.message))

/-- What a handler that returns a result answers. -/
def answer (result : Except AppError Bytes) : Response :=
  match result with
  | .ok body => { status := .ok, body }
  | .error error => intoResponse crates error

/-- Handle `GET /health`. -/
def health : Response where
  status := .ok
  body := asBytes (crates.json.write (.object [("status", .string "healthy")]))

/-- Handle `GET /public-key`. -/
def publicKey (state : ServerState) : Except AppError String :=
  (state.teamKey.publicKeyArmored exports).mapError fun error =>
    .internal s!"failed to export the public key: {error}"

/-- Handle `GET /revocation-certificate`. -/
def revocationCertificate (state : ServerState) : Except AppError String :=
  (state.teamKey.revocationCertificateArmored exports).mapError fun error =>
    .internal s!"failed to export the revocation certificate: {error}"

/-- Handle `POST /session-key`.  `clock` is the seconds since the epoch, `none` for a clock
before it. -/
def sessionKey (state : ServerState) (clock : Option UInt64) (entropy body : Bytes) :
    Except AppError SessionKeyResponse := do
  let now ← okOr clock (.internal "the enclave clock is before the epoch")
  releaseSessionKey crates state.forRelease body now entropy

/-- The `Bytes` a handler takes: axum reads the body up to the limit. -/
def readBody (request : Request) : Except Response Bytes :=
  if maxBodyBytes < request.body.length then
    .error { status := .payloadTooLarge, body := axum.lengthLimit }
  else if request.complete then .ok request.body
  else .error { status := .badRequest, body := axum.unknownBody }

/-- The method router of a `get` handler, which serves HEAD without a body. -/
def get (request : Request) (handler : Response) : Response :=
  match request.method with
  | .get => handler
  | .head => { handler with body := [] }
  | _ => { status := .methodNotAllowed, body := [] }

/-- The method router of the `post` handler. -/
def post (request : Request) (handler : Bytes → Response) : Response :=
  match request.method with
  | .post =>
      match readBody axum request with
      | .ok body => handler body
      | .error response => response
  | _ => { status := .methodNotAllowed, body := [] }

/-- The router with a state, on a request. -/
def handle (state : ServerState) (clock : Option UInt64) (entropy : Bytes)
    (request : Request) : Response :=
  if request.path = "/health" then get request (health crates)
  else if request.path = "/public-key" then
    get request (answer crates ((publicKey exports state).map asBytes))
  else if request.path = "/revocation-certificate" then
    get request (answer crates ((revocationCertificate exports state).map asBytes))
  else if request.path = "/session-key" then
    post axum request fun body =>
      answer crates ((sessionKey crates state clock entropy body).map fun response =>
        asBytes (crates.json.write response.toJson))
  else { status := .notFound, body := [] }

end Handlers

end Router
end TvcGpg
