import TvcGpg.Model.Gpg

/-!
# gpg as a child process

`gpg.rs` once more: `sign` and `decrypt` from the moment gpg has been started.
The client, gpg and the reader thread run side by side and meet at two pipes,
gpg's stdin and the one gpg writes its result or its diagnostics to.  An event
is one step of one of them; the pipes hold any number of bytes, and a write puts
any part of what is left into its pipe.

gpg stands for the process and whatever it has started, so it may exit with a
pipe still open, and it may close one long before it exits.  Waiting for a child
that was started does not fail.  The text of an error stops where the source
appends the wording of the system.
-/

namespace TvcGpg
namespace Client

open Lib Lib.Text Lib.Lines

/-- How a process ended. -/
inductive ExitStatus
  | exited (code : UInt8)
  | signaled (signal : Nat) (coreDumped : Bool)
  deriving DecidableEq, Repr

/-- The signals of Linux, from 1 on. -/
def signalNames : List String :=
  ["SIGHUP", "SIGINT", "SIGQUIT", "SIGILL", "SIGTRAP", "SIGABRT", "SIGBUS", "SIGFPE", "SIGKILL",
    "SIGUSR1", "SIGSEGV", "SIGUSR2", "SIGPIPE", "SIGALRM", "SIGTERM", "SIGSTKFLT", "SIGCHLD",
    "SIGCONT", "SIGSTOP", "SIGTSTP", "SIGTTIN", "SIGTTOU", "SIGURG", "SIGXCPU", "SIGXFSZ",
    "SIGVTALRM", "SIGPROF", "SIGWINCH", "SIGIO", "SIGPWR", "SIGSYS"]

/-- What stands behind the number of a signal that has a name. -/
def signalString : Nat → String
  | 0 => ""
  | n + 1 =>
      match signalNames[n]? with
      | some name => s!" ({name})"
      | none => ""

namespace ExitStatus

/-- The exit code, `none` for a process a signal has ended. -/
def code : ExitStatus → Option Nat
  | exited code => some code.toNat
  | signaled _ _ => none

/-- Whether the process ended with the exit code zero. -/
def success (status : ExitStatus) : Bool := status.code = some 0

/-- `Display` of the standard library. -/
instance : ToString ExitStatus where
  toString
    | exited code => s!"exit status: {code}"
    | signaled signal coreDumped =>
        s!"signal: {signal}{signalString signal}" ++ if coreDumped then " (core dumped)" else ""

end ExitStatus

/-! ## gpg and its pipes -/

/-- A running or ended gpg, with the two pipes it shares with the client. -/
structure Gpg where
  /-- How it ended, once it has. -/
  exit : Option ExitStatus
  /-- Whether the client has waited for it. -/
  waitedFor : Bool
  /-- Whether something can still be read from stdin. -/
  stdinOpen : Bool
  /-- What was written to stdin and not read. -/
  stdin : Bytes
  /-- Whether something can still be written to the pipe back. -/
  outputOpen : Bool
  /-- What was written to the pipe back and not read. -/
  output : Bytes
  deriving DecidableEq, Repr

/-- gpg as it was started. -/
def Gpg.started : Gpg where
  exit := none
  waitedFor := false
  stdinOpen := true
  stdin := []
  outputOpen := true
  output := []

/-- What gpg can do. -/
inductive GpgEvent
  | reads (n : Nat)
  | writes (bytes : Bytes)
  | closesStdin
  | closesOutput
  | exits (status : ExitStatus)
  deriving DecidableEq, Repr

/-- A step of gpg, which may come at any time.  It can write as long as somebody holds the
other end of the pipe. -/
def Gpg.step (gpg : Gpg) (heard : Bool) : GpgEvent → Option Gpg
  | .reads n => if gpg.stdinOpen then some { gpg with stdin := gpg.stdin.drop n } else none
  | .writes bytes =>
      if gpg.outputOpen && heard then some { gpg with output := gpg.output ++ bytes } else none
  | .closesStdin => some { gpg with stdinOpen := false }
  | .closesOutput => some { gpg with outputOpen := false }
  | .exits status => if gpg.exit = none then some { gpg with exit := some status } else none

/-- What comes of one write to gpg's stdin. -/
inductive WriteOutcome
  /-- Nothing is left to write. -/
  | done
  | wrote (gpg : Gpg) (left : Bytes)
  /-- Nobody can read the pipe any more. -/
  | broken

/-- One round of `write_all`, which writes `n` of the bytes that are left. -/
def Gpg.write (gpg : Gpg) (left : Bytes) (n : Nat) : Option WriteOutcome :=
  if left = [] then some .done
  else if !gpg.stdinOpen then some .broken
  else if 0 < n ∧ n ≤ left.length then
    some (.wrote { gpg with stdin := gpg.stdin ++ left.take n } (left.drop n))
  else none

/-! ## `sign` -/

/-- Where `sign` stands. -/
inductive SignPoint
  | writing (left : Bytes)
  /-- The result of the write is kept, and stdin is closed. -/
  | reading (written : Except String Unit) (stdout : Bytes)
  | waiting (written : Except String Unit) (stdout : Bytes)
  | returned (result : Except String Bytes)

/-- A run of `sign`. -/
structure SignState where
  gpg : Gpg
  client : SignPoint

/-- The steps of a run of `sign`. -/
inductive SignEvent
  | gpg (event : GpgEvent)
  | clientWrites (n : Nat)
  | clientReads
  | clientWaits
  deriving DecidableEq, Repr

/-- The run of `sign` once gpg has been started. -/
def signStart (payload : Bytes) : SignState where
  gpg := .started
  client := .writing payload

/-- What `sign` returns for the exit status, the write and the output. -/
def signResult (status : ExitStatus) (written : Except String Unit) (stdout : Bytes) :
    Except String Bytes :=
  if !status.success then .error s!"gpg did not sign the request, it exited {status}"
  else written.map fun _ => stdout

/-- One step of a run of `sign`. -/
def signStep (s : SignState) : SignEvent → Option SignState
  | .gpg event => (s.gpg.step true event).map fun gpg => { s with gpg }
  | .clientWrites n =>
      match s.client with
      | .writing left =>
          (s.gpg.write left n).map fun
            | .done => { s with client := .reading (.ok ()) [] }
            | .wrote gpg left => { gpg, client := .writing left }
            | .broken => { s with client := .reading (.error "gpg did not take the payload") [] }
      | _ => none
  | .clientReads =>
      match s.client with
      | .reading written stdout =>
          -- `wait_with_output` reads until nobody can write any more
          if s.gpg.output = [] then
            if s.gpg.outputOpen then none else some { s with client := .waiting written stdout }
          else
            some { gpg := { s.gpg with output := [] }
                   client := .reading written (stdout ++ s.gpg.output) }
      | _ => none
  | .clientWaits =>
      match s.client, s.gpg.exit with
      | .waiting written stdout, some status =>
          some { gpg := { s.gpg with waitedFor := true }
                 client := .returned (signResult status written stdout) }
      | _, _ => none

/-! ## `decrypt` -/

/-- Where `decrypt` stands. -/
inductive DecryptPoint
  | writing (left : Bytes)
  | waiting
  | joining (status : ExitStatus)
  | returned (result : Except String Nat)

/-- A run of `decrypt`. -/
structure DecryptState where
  gpg : Gpg
  client : DecryptPoint
  /-- The lines the reader thread has written to stderr. -/
  forwarded : List Bytes
  /-- Whether the loop of the reader thread is over. -/
  readerDone : Bool

/-- The steps of a run of `decrypt`. -/
inductive DecryptEvent
  | gpg (event : GpgEvent)
  | clientWrites (n : Nat)
  | clientWaits
  | clientJoins
  | readerReads
  deriving DecidableEq, Repr

/-- The run of `decrypt` once gpg and the reader thread have been started. -/
def decryptStart (sessionKey : String) : DecryptState where
  gpg := .started
  client := .writing (asBytes (sessionKey ++ "\n"))
  forwarded := []
  readerDone := false

/-- The next piece `lines` reads: up to a line feed, or all there is when nothing more
can come. -/
def nextPiece (gpg : Gpg) : Option (Bytes × Bytes) :=
  match rawLines gpg.output with
  | [] => none
  | raw :: raws =>
      if raw.getLast? = some 0x0A ∨ gpg.outputOpen = false then some (raw, raws.flatten) else none

/-- One round of the loop of the reader thread. -/
def readerStep (s : DecryptState) : Option DecryptState :=
  if s.readerDone then none
  else
    match nextPiece s.gpg with
    | some (raw, rest) =>
        let s := { s with gpg := { s.gpg with output := rest } }
        match fromUtf8 raw with
        | none => some { s with readerDone := true }
        | some _ =>
            if leaksSessionKey (content raw) then some s
            else some { s with forwarded := s.forwarded ++ [content raw] }
    | none =>
        if s.gpg.output = [] ∧ s.gpg.outputOpen = false then some { s with readerDone := true }
        else none

/-- One step of a run of `decrypt`. -/
def decryptStep (s : DecryptState) : DecryptEvent → Option DecryptState
  | .gpg event => (s.gpg.step (!s.readerDone) event).map fun gpg => { s with gpg }
  | .clientWrites n =>
      match s.client with
      | .writing left =>
          (s.gpg.write left n).map fun
            | .done => { s with client := .waiting }
            | .wrote gpg left => { s with gpg, client := .writing left }
            -- gpg is not waited for, and the thread is left to itself
            | .broken =>
                { s with client := .returned (.error "gpg did not take the session key") }
      | _ => none
  | .clientWaits =>
      match s.client, s.gpg.exit with
      | .waiting, some status =>
          some { s with gpg := { s.gpg with waitedFor := true }, client := .joining status }
      | _, _ => none
  | .clientJoins =>
      match s.client with
      | .joining status =>
          if s.readerDone then
            some { s with client := .returned (.ok (status.code.getD 1)) }
          else none
      | _ => none
  | .readerReads => readerStep s

end Client
end TvcGpg
