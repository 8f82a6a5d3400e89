import Mathlib.Data.List.Infix
import TvcGpg.Lib.Buffers
import TvcGpg.Lib.Lines

/-!
# The calls of gpg

`gpg.rs`: the argument vectors of the two calls, the buffer the session key is
written into, and what the client does with the diagnostics of a decrypt.  A line
that `BufRead::lines` hands out is kept as the bytes of its string.
-/

namespace TvcGpg
namespace Client

open Lib Lib.Text Lib.Lines Lib.Buffers

/-- What gpg calls the session key in its own diagnostics. -/
def sessionKeyMarker : String := "seskey"

/-- The argv for a detached signature over the request payload. -/
def signArgs (signer : Option String) : List String :=
  ["--batch", "--no-armor", "--detach-sign", "--output", "-"] ++
    match signer with
    | none => []
    | some signer => ["--local-user", signer]

/-- The argv for a session key decrypt of the file at `path`. -/
def decryptArgs (path : Bytes) : List Bytes :=
  ["--batch", "--logger-fd", "2", "--override-session-key-fd", "0", "--decrypt",
    "--"].map asBytes ++ [path]

/-- Whether a gpg diagnostic line carries the session key. -/
def leaksSessionKey (line : Bytes) : Bool := decide (asBytes sessionKeyMarker <:+: line)

/-! ## The session key -/

/-- The pieces `{byte:02X}` is written in: a zero for each digit that is missing, and then
the upper case digits. -/
def upperHex02 (byte : UInt8) : List String :=
  let digits := (Nat.toDigits 16 byte.toNat).map Char.toUpper
  List.replicate (2 - digits.length) "0" ++ [String.ofList digits]

/-- `write!` into a string, piece after piece; a string takes everything. -/
def write (text : TextBuffer) (pieces : List String) : Except String TextBuffer :=
  .ok (text.pushAll pieces)

/-- `session_key_string` with the buffer its text is built in. -/
def sessionKeyBuffer (plain : Bytes) : Except String TextBuffer :=
  match plain with
  | [] => .error "the session key is empty"
  | algorithm :: key => do
      let text := TextBuffer.withCapacity (4 + key.length * 2)
      let text ← write text [toString algorithm, ":"]
      key.foldlM (fun text byte => write text (upperHex02 byte)) text

/-! ## The reader thread -/

/-- The loop of the reader thread over the pieces it reads: the lines it writes to
stderr, and the pieces it leaves. -/
def forwardLines : List Bytes → List Bytes × List Bytes
  | [] => ([], [])
  | raw :: raws =>
      match fromUtf8 raw with
      -- `lines` yields an error, and `map_while` ends the loop
      | none => ([], raws)
      | some _ =>
          let rest := forwardLines raws
          if leaksSessionKey (content raw) then rest else (content raw :: rest.1, rest.2)

/-- What the reader thread has done when its loop ends. -/
structure ReaderRun where
  /-- The lines written to stderr, in order. -/
  forwarded : List Bytes
  /-- The part of the stream that was not read. -/
  unread : Bytes
  deriving DecidableEq, Repr

/-- The reader thread on everything gpg writes to its diagnostics. -/
def readerThread (stream : Bytes) : ReaderRun :=
  let run := forwardLines (rawLines stream)
  { forwarded := run.1, unread := run.2.flatten }

end Client
end TvcGpg
