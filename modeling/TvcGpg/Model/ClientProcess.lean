import TvcGpg.Lib.Logged
import TvcGpg.Model.ClientRun

/-!
# The client as a process

`lib.rs` and `main.rs` of the client once more, with what a run does to the world outside
the client written down as it happens: the request for the public key, the gpg that signs,
which is the tap, the request for the session key, and the gpg that decrypts.  What stands
between two of these is one function that does nothing outside.
-/

namespace TvcGpg
namespace Client

open Lib Lib.Text Lib.Fallible

/-- What a run does outside the client. -/
inductive Action
  | fetchesPublicKey (appUrl : String)
  | signs (args : List String) (payload : String)
  | postsSessionKey (appUrl payload : String) (signature : Bytes)
  | decrypts (sessionKey : String) (path : Path)
  deriving DecidableEq, Repr

/-- A run that writes down what it does. -/
abbrev ProcessM := EStateM String (List Action)

/-- What a run knows before anything leaves the machine. -/
structure Examined where
  quorum : P256Public
  message : Bytes
  pkesks : List PublicKeyEncryptedSessionKey

/-- What a run asks for. -/
structure Asked where
  pkesk : Bytes
  payload : String
  deriving DecidableEq, Repr

section Process

variable (crates : Crates) (world : World) (args : Decrypt)

/-- The part of `decrypt` before the public key is fetched. -/
def examine : Except String Examined := do
  let quorum ← pinnedQuorumKey crates args.quorumPublicKey
  let message ← readMessage world args.file
  let packets ← packetBytes crates message
  let pkesks ← sessionKeyPackets crates packets
  return { quorum, message, pkesks }

/-- The part between the public key and the signature. -/
def ask (pkesks : List PublicKeyEncryptedSessionKey) (appKey : String) : Except String Asked := do
  let subkeyId ← encryptionSubkeyId crates appKey
  let pkesk ← pkeskFor crates pkesks subkeyId
  let clock ← now world
  return {
    pkesk
    payload := payloadJson crates args.appId (crates.hexEncode pkesk)
      (transportPublicKey crates world.transport) clock }

/-- What is made of the answer. -/
def accept (quorum : P256Public) (appId : String) (transport : P256EncryptPair) (pkesk : Bytes)
    (response : SessionKeyResponse) : Except String String := do
  checkResponse crates response quorum appId (transportPublicKey crates transport) pkesk
  let plain ← openSessionKey crates transport response.wrappedSessionKey
  sessionKeyString plain

/-- The file gpg is given. -/
def handOver (message : Bytes) (sessionKey : String) : Except String Ready :=
  if isStdin args.file then do
    let files ← spill world message
    return { message, sessionKey, path := world.temporary, files }
  else return { message, sessionKey, path := args.file, files := world.files }

/-- `decrypt` up to its last call. -/
def prepareM : ProcessM Ready := do
  let examined ← liftExcept (examine crates world args)
  let appKey ← Logged.note (.fetchesPublicKey args.appUrl) (world.fetchPublicKey args.appUrl)
  let asked ← liftExcept (ask crates world args examined.pkesks appKey)
  let signature ← Logged.note (.signs (signArgs args.signer) asked.payload)
    (world.sign (signArgs args.signer) asked.payload)
  let response ← Logged.note (.postsSessionKey args.appUrl asked.payload signature)
    (world.postSessionKey args.appUrl asked.payload signature)
  let sessionKey ← liftExcept
    (accept crates examined.quorum args.appId world.transport asked.pkesk response)
  liftExcept (handOver world args examined.message sessionKey)

/-- What a run has done, and what it leaves. -/
def process (gpg : GpgRun) : List Action × Outcome :=
  match prepareM crates world args [] with
  | .error message done =>
      (done, { result := .error message, started := none, files := world.files })
  | .ok ready done =>
      let outcome := gpgDecrypt ready args.output gpg
      let done :=
        if outcome.started.isSome then done ++ [.decrypts ready.sessionKey ready.path] else done
      if isStdin args.file then
        (done, { outcome with files := outcome.files.removeName world.temporary })
      else (done, outcome)

end Process

/-- The exit code `main` leaves with. -/
def exitCode : Except String Nat → Nat
  | .ok code => code
  | .error _ => 1

end Client
end TvcGpg
