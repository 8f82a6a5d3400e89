import TvcGpg.Lib.FileSystem
import TvcGpg.Model.Client
import TvcGpg.Model.Gpg

/-!
# A run of the client

`lib.rs`: a `decrypt` from its arguments to the exit code, with the files it
reads and writes.  Everything the run meets outside the client is a `World`: the
files, stdin, the app, the clock, and the gpg that signs.  The gpg that decrypts
comes as a `GpgRun`, because what is said of a run is said for each of them.
-/

namespace TvcGpg
namespace Client

open Lib Lib.Text Lib.Fallible Lib.Files

/-- The name of a file. -/
abbrev Path := Bytes

/-- Arguments for `decrypt`. -/
structure Decrypt where
  appUrl : String
  appId : String
  quorumPublicKey : String
  signer : Option String
  output : Option Path
  file : Path

/-- What a run meets. -/
structure World where
  files : FileSystem Path
  /-- What stdin holds, `none` when it cannot be read. -/
  stdin : Option Bytes
  /-- `Path::display`. -/
  display : Path → String
  /-- `request::fetch_public_key`, by the URL of the app. -/
  fetchPublicKey : String → Except String String
  /-- The pair `P256EncryptPair::generate` draws. -/
  transport : P256EncryptPair
  /-- The seconds since the epoch, `none` for a clock before it. -/
  clock : Option UInt64
  /-- What comes of a gpg that signs, by its arguments and the payload. -/
  sign : List String → String → Except String Bytes
  /-- `request::post_session_key`, by URL, payload and signature. -/
  postSessionKey : String → String → Bytes → Except String SessionKeyResponse
  /-- The name `NamedTempFile::new` comes up with. -/
  temporary : Path
  /-- Whether the temporary file can be written. -/
  canSpill : Bool

/-- The gpg a run starts to decrypt. -/
structure GpgRun where
  starts : Bool
  /-- What it writes to its stdout. -/
  plaintext : Bytes
  /-- What `gpg::decrypt` returns once it has been started. -/
  result : Except String Nat

section Run

variable (crates : Crates) (world : World)

/-- Read the quorum public key the caller pinned out of band. -/
def pinnedQuorumKey (quorumPublicKey : String) : Except String P256Public := do
  let bytes ←
    okOr (crates.hexDecode (trim quorumPublicKey)) "the quorum public key is not hex"
  okOr (crates.p256.publicFromBytes bytes) "the quorum public key did not parse"

/-- Whether `file` asks for stdin. -/
def isStdin (file : Path) : Bool := file = asBytes "-"

/-- Read the message from a file, or from stdin when `file` is "-". -/
def readMessage (file : Path) : Except String Bytes :=
  if isStdin file then okOr world.stdin "stdin could not be read"
  else okOr (world.files.readFile file) s!"{world.display file} could not be read"

/-- The caller's clock, in seconds since the epoch. -/
def now : Except String UInt64 := okOr world.clock "this machine's clock is before the epoch"

/-- The part of `decrypt` between reading the message and handing it to gpg: the session
key of the message, in gpg's form. -/
def fetchSessionKey (args : Decrypt) (quorum : P256Public) (message : Bytes) :
    Except String String := do
  let packets ← packetBytes crates message
  let pkesks ← sessionKeyPackets crates packets
  let appKey ← world.fetchPublicKey args.appUrl
  let subkeyId ← encryptionSubkeyId crates appKey
  let pkesk ← pkeskFor crates pkesks subkeyId
  let transportText := transportPublicKey crates world.transport
  let clock ← now world
  let payload := payloadJson crates args.appId (crates.hexEncode pkesk) transportText clock
  let signature ← world.sign (signArgs args.signer) payload
  let response ← world.postSessionKey args.appUrl payload signature
  checkResponse crates response quorum args.appId transportText pkesk
  let plain ← openSessionKey crates world.transport response.wrappedSessionKey
  sessionKeyString plain

/-- Write a message read from stdin to a temporary file for gpg.  Where that fails the
temporary file is taken away again. -/
def spill (message : Bytes) : Except String (FileSystem Path) := do
  let files ← okOr (world.files.createNew world.temporary message) "no temporary file"
  require (world.canSpill = true) "the temporary file could not be written"
  return files

/-- What `gpg::decrypt` is called with. -/
structure Ready where
  message : Bytes
  sessionKey : String
  path : Path
  files : FileSystem Path

/-- `decrypt` up to its last call. -/
def prepare (args : Decrypt) : Except String Ready := do
  let quorum ← pinnedQuorumKey crates args.quorumPublicKey
  let message ← readMessage world args.file
  let sessionKey ← fetchSessionKey crates world args quorum message
  -- gpg reads the session key from stdin, so the message has to be a file
  if isStdin args.file then do
    let files ← spill world message
    return { message, sessionKey, path := world.temporary, files }
  else return { message, sessionKey, path := args.file, files := world.files }

end Run

/-- A gpg as it starts: the files there are, and its arguments. -/
structure Started where
  files : FileSystem Path
  args : List Bytes

/-- What is in the file it is told to read, its last argument. -/
def Started.message (started : Started) : Option Bytes :=
  started.args.getLast?.bind started.files.readFile

/-- What a run leaves. -/
structure Outcome where
  result : Except String Nat
  started : Option Started
  files : FileSystem Path

/-- `gpg::decrypt`: the output file is opened and emptied before gpg is started, and what
gpg writes goes straight into it. -/
def gpgDecrypt (ready : Ready) (output : Option Path) (gpg : GpgRun) : Outcome :=
  match output with
  | none =>
      if gpg.starts then
        { result := gpg.result, started := some ⟨ready.files, decryptArgs ready.path⟩
          files := ready.files }
      else
        { result := .error "gpg could not be started", started := none, files := ready.files }
  | some output =>
      match ready.files.create output with
      | none =>
          { result := .error "the output file could not be opened", started := none
            files := ready.files }
      | some (files, opened) =>
          if gpg.starts then
            { result := gpg.result, started := some ⟨files, decryptArgs ready.path⟩
              files := files.setContents opened gpg.plaintext }
          else { result := .error "gpg could not be started", started := none, files }

/-- Fetch a session key from the app and hand it to gpg. -/
def decrypt (crates : Crates) (world : World) (args : Decrypt) (gpg : GpgRun) : Outcome :=
  match prepare crates world args with
  | .error message => { result := .error message, started := none, files := world.files }
  | .ok ready =>
      let outcome := gpgDecrypt ready args.output gpg
      -- the temporary file goes when the run is over
      if isStdin args.file then
        { outcome with files := outcome.files.removeName world.temporary }
      else outcome

end Client
end TvcGpg
