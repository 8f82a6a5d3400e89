import TvcGpg.Model.ClientRun

/-!
# The requests of the client

The part of `request.rs` that talks to the app: the two URLs, what is sent to them, and
what becomes of an answer.  `ureq`, with the agent the client builds, is a `Network`: it
answers a request or fails, and a status from 400 on is an error that still has its body.
-/

namespace TvcGpg
namespace Client

open Lib Lib.Text Lib.Fallible

/-- The body of an answer, as far as it can be read. -/
structure Body where
  bytes : Bytes
  /-- Whether it can be read to its end. -/
  complete : Bool
  deriving DecidableEq, Repr

/-- `ureq::Error`. -/
inductive HttpFailure
  | status (code : Nat) (body : Body)
  | transport (shown : String)
  deriving DecidableEq, Repr

/-- What `ureq` does for a client. -/
structure Network where
  /-- `agent().get(url).call()`. -/
  get : String → Except HttpFailure Body
  /-- `agent().post(url).send_json(..)`, by the bytes it sends. -/
  post : String → Bytes → Except HttpFailure Body
  /-- `Response::into_string`. -/
  intoString : Body → Option String

/-- `app_url` without a trailing slash. -/
def base (appUrl : String) : String :=
  String.ofList (appUrl.toList.rdropWhile fun c => c = '/')

/-- Where the app's public key is. -/
def publicKeyUrl (appUrl : String) : String := base appUrl ++ "/public-key"

/-- Where session key requests go. -/
def sessionKeyUrl (appUrl : String) : String := base appUrl ++ "/session-key"

/-- What `Read::take` leaves of a body for a reader that reads to the end of what it is
given: a body that breaks off before the limit cannot be read. -/
def Body.take (body : Body) (limit : Nat) : Option Bytes :=
  if body.complete ∨ limit ≤ body.bytes.length then some (body.bytes.take limit) else none

section Requests

variable (crates : Crates) (network : Network)

/-- Turn a ureq failure into a message that keeps the app's own wording. -/
def httpError (route : String) : HttpFailure → String
  | .status code body =>
      let text := (network.intoString body).getD ""
      let reason := ((crates.json.read (asBytes text)).bind fun value =>
        (value.index "error").asStr).getD text
      s!"{route} answered {code}: {reason}"
  | .transport _ => s!"{route} could not be reached"

/-- Fetch the app's armored OpenPGP public key. -/
def fetchPublicKey (appUrl : String) : Except String String := do
  let body ← (network.get (publicKeyUrl appUrl)).mapError (httpError crates network "/public-key")
  okOr (network.intoString body) "/public-key did not send a public key"

/-- Post a signed session key request and read the answer. -/
def postSessionKey (appUrl payload : String) (signature : Bytes) :
    Except String SessionKeyResponse := do
  let sent := sessionKeyBody crates payload signature
  let body ← (network.post (sessionKeyUrl appUrl) sent).mapError
    (httpError crates network "/session-key")
  let answer ← okOr (body.take maxResponseBytes) "/session-key did not send a session key"
  readResponse crates answer

end Requests

/-- A world whose app is reached over a network. -/
def online (crates : Crates) (network : Network) (world : World) : World :=
  { world with
    fetchPublicKey := fetchPublicKey crates network
    postSessionKey := postSessionKey crates network }

end Client
end TvcGpg
