import TvcGpg.Lib.Runs
import TvcGpg.Model.GpgProcess

/-!
# Whose verdict a run returns

A gpg that fails often exits before it has read its stdin, and then the client's
write breaks.  `sign` keeps the result of the write, waits, and looks at gpg's
exit status first, so its verdict is gpg's in every run (`sign_verdict`).
`decrypt` returns as soon as the write breaks (`broken_write_loses_verdict`),
and its reader thread ends at a line that is not UTF-8.  In the runs where
neither happens its verdict is gpg's too (`decrypt_verdict`).

Both calls do return: once gpg has exited and nobody can write to the pipe back
any more, `sign` can always go on to its result (`sign_returns`), and `decrypt`
can where neither of the two is in its way (`decrypt_returns`).
-/

namespace TvcGpg
namespace Client

open Lib Lib.Text Lib.Lines Lib.Runs

/-! ## What holds when a call returns -/

/-- `sign` returns after gpg has been waited for, and a failure of gpg is what it reports. -/
def SignVerdict (s : SignState) : Prop :=
  ∀ result, s.client = .returned result →
    ∃ status, s.gpg.exit = some status ∧ s.gpg.waitedFor = true ∧
      (status.success = false →
        result = .error s!"gpg did not sign the request, it exited {status}")

/-- `decrypt` returns after gpg has been waited for and its diagnostics have been read to
the end, and a failure of gpg comes back as its exit code. -/
def DecryptVerdict (s : DecryptState) : Prop :=
  ∀ result, s.client = .returned result →
    ∃ status, s.gpg.exit = some status ∧ s.gpg.waitedFor = true ∧
      (status.success = false → result = .ok (status.code.getD 1)) ∧
      s.gpg.outputOpen = false ∧ s.gpg.output = []

/-- gpg has exited, and nobody can write to the pipe back any more. -/
def Gpg.Ended (gpg : Gpg) : Prop := gpg.exit ≠ none ∧ gpg.outputOpen = false

/-- `sign` has returned. -/
def SignReturned (s : SignState) : Prop := ∃ result, s.client = .returned result

/-- `decrypt` has returned. -/
def DecryptReturned (s : DecryptState) : Prop := ∃ result, s.client = .returned result

/-! ## gpg's own steps -/

/-- An exit status stays, and nobody but the client waits. -/
theorem Gpg.step_exit {gpg gpg' : Gpg} {heard : Bool} {event : GpgEvent}
    (hStep : gpg.step heard event = some gpg') :
    (∀ status, gpg.exit = some status → gpg'.exit = some status) ∧
      gpg'.waitedFor = gpg.waitedFor := by
  cases event with
  | exits status =>
      rw [Gpg.step] at hStep
      split at hStep
      · rename_i hNone
        obtain rfl := Option.some.inj hStep
        refine ⟨?_, rfl⟩
        intro other hOther
        rw [hNone] at hOther
        cases hOther
      · cases hStep
  | closesStdin | closesOutput =>
      obtain rfl := Option.some.inj hStep
      exact ⟨fun _ hExit => hExit, rfl⟩
  | reads n | writes bytes =>
      rw [Gpg.step] at hStep
      split at hStep
      · obtain rfl := Option.some.inj hStep
        exact ⟨fun _ hExit => hExit, rfl⟩
      · cases hStep

/-- Nothing is written to a closed pipe. -/
theorem Gpg.step_closed {gpg gpg' : Gpg} {heard : Bool} {event : GpgEvent}
    (hStep : gpg.step heard event = some gpg') (hClosed : gpg.outputOpen = false) :
    gpg'.outputOpen = false ∧ gpg'.output = gpg.output := by
  cases event with
  | writes bytes =>
      rw [Gpg.step, hClosed] at hStep
      cases hStep
  | closesStdin =>
      obtain rfl := Option.some.inj hStep
      exact ⟨hClosed, rfl⟩
  | closesOutput =>
      obtain rfl := Option.some.inj hStep
      exact ⟨rfl, rfl⟩
  | reads n | exits status =>
      rw [Gpg.step] at hStep
      split at hStep
      · obtain rfl := Option.some.inj hStep
        exact ⟨hClosed, rfl⟩
      · cases hStep

/-- A write leaves everything but stdin as it is. -/
theorem Gpg.write_wrote {gpg gpg' : Gpg} {left left' : Bytes} {n : Nat}
    (hWrite : gpg.write left n = some (.wrote gpg' left')) :
    gpg'.exit = gpg.exit ∧ gpg'.waitedFor = gpg.waitedFor ∧ gpg'.outputOpen = gpg.outputOpen ∧
      gpg'.output = gpg.output := by
  unfold Gpg.write at hWrite
  split at hWrite
  · cases hWrite
  · split at hWrite
    · cases hWrite
    · split at hWrite
      · obtain ⟨rfl, rfl⟩ := WriteOutcome.wrote.inj (Option.some.inj hWrite)
        exact ⟨rfl, rfl, rfl, rfl⟩
      · cases hWrite

/-- All that is left can be written at once, unless nobody can read it. -/
theorem Gpg.write_all {gpg : Gpg} {left : Bytes} (hLeft : left ≠ [])
    (hOpen : gpg.stdinOpen = true) :
    gpg.write left left.length = some (.wrote { gpg with stdin := gpg.stdin ++ left } []) := by
  unfold Gpg.write
  rw [if_neg hLeft, hOpen, if_neg (by decide), if_pos ⟨List.length_pos_iff.mpr hLeft, le_refl _⟩,
    List.take_length, List.drop_length]

theorem Gpg.write_of_closed {gpg : Gpg} {left : Bytes} {n : Nat} (hLeft : left ≠ [])
    (hClosed : gpg.stdinOpen = false) : gpg.write left n = some .broken := by
  unfold Gpg.write
  rw [if_neg hLeft, hClosed]
  rfl

/-! ## `sign` -/

/-- A failure of gpg is reported before a failure of the write. -/
theorem signResult_of_failure {status : ExitStatus} (hFailed : status.success = false)
    (written : Except String Unit) (stdout : Bytes) :
    signResult status written stdout =
      .error s!"gpg did not sign the request, it exited {status}" := by
  unfold signResult
  rw [hFailed]
  rfl

/-- `sign` returns in one place, behind the wait. -/
theorem signStep_returned {s s' : SignState} {event : SignEvent} {result : Except String Bytes}
    (hStep : signStep s event = some s') (hReturned : s'.client = .returned result) :
    (∃ gpgEvent, event = .gpg gpgEvent ∧ s.client = .returned result) ∨
      ∃ status written stdout, s'.gpg.exit = some status ∧ s'.gpg.waitedFor = true ∧
        result = signResult status written stdout := by
  cases event with
  | gpg gpgEvent =>
      obtain ⟨gpg, -, rfl⟩ := Option.map_eq_some_iff.mp hStep
      exact Or.inl ⟨gpgEvent, rfl, hReturned⟩
  | clientWrites n =>
      rw [signStep] at hStep
      split at hStep
      · obtain ⟨outcome, -, rfl⟩ := Option.map_eq_some_iff.mp hStep
        cases outcome with
        | done | wrote gpg left | broken => cases hReturned
      · cases hStep
  | clientReads =>
      rw [signStep] at hStep
      split at hStep
      · split at hStep
        · split at hStep
          · cases hStep
          · obtain rfl := Option.some.inj hStep
            cases hReturned
        · obtain rfl := Option.some.inj hStep
          cases hReturned
      · cases hStep
  | clientWaits =>
      rw [signStep] at hStep
      split at hStep
      · rename_i written stdout status _ hExit
        obtain rfl := Option.some.inj hStep
        exact Or.inr ⟨status, written, stdout, hExit, rfl, (SignPoint.returned.inj hReturned).symm⟩
      · cases hStep

theorem signStep_verdict {s s' : SignState} {event : SignEvent} (hVerdict : SignVerdict s)
    (hStep : signStep s event = some s') : SignVerdict s' := by
  intro result hReturned
  rcases signStep_returned hStep hReturned with
    ⟨gpgEvent, rfl, hBefore⟩ | ⟨status, written, stdout, hExit, hWaited, rfl⟩
  · obtain ⟨status, hExit, hWaited, hResult⟩ := hVerdict result hBefore
    obtain ⟨gpg, hGpg, rfl⟩ := Option.map_eq_some_iff.mp hStep
    obtain ⟨hExits, hWaits⟩ := Gpg.step_exit hGpg
    exact ⟨status, hExits status hExit, hWaits.trans hWaited, hResult⟩
  · exact ⟨status, hExit, hWaited, fun hFailed => signResult_of_failure hFailed written stdout⟩

/-- In every run of `sign` the verdict is gpg's. -/
theorem sign_verdict {payload : Bytes} {events : List SignEvent} {s : SignState}
    (hRun : Run signStep Any (signStart payload) events s) : SignVerdict s := by
  apply hRun.invariant
  · intro result hReturned
    cases hReturned
  · intro s event s' hVerdict _ hStep
    exact signStep_verdict hVerdict hStep

/-- Behind the end of gpg's output, `sign` waits for gpg and returns. -/
theorem sign_returns_of_waiting {s : SignState} {written : Except String Unit} {stdout : Bytes}
    (hEnded : s.gpg.Ended) (hWaiting : s.client = .waiting written stdout) :
    Reaches signStep Any SignReturned s := by
  obtain ⟨status, hExit⟩ := Option.ne_none_iff_exists'.mp hEnded.1
  have hWaits : signStep s .clientWaits =
      some { gpg := { s.gpg with waitedFor := true }
             client := .returned (signResult status written stdout) } := by
    rw [signStep, hWaiting, hExit]
  exact reaches_of_step trivial hWaits (reaches_of_goal ⟨_, rfl⟩)

/-- What gpg has written is read, and then the end of it. -/
theorem sign_returns_of_reading {s : SignState} {written : Except String Unit} {stdout : Bytes}
    (hEnded : s.gpg.Ended) (hReading : s.client = .reading written stdout) :
    Reaches signStep Any SignReturned s := by
  have hAtEnd : ∀ s' : SignState, s'.gpg.Ended → s'.gpg.output = [] →
      (∃ stdout, s'.client = .reading written stdout) → Reaches signStep Any SignReturned s' := by
    rintro s' hEnded' hEmpty ⟨stdout', hReading'⟩
    have hEnds : signStep s' .clientReads =
        some { s' with client := .waiting written stdout' } := by
      rw [signStep, hReading']
      dsimp only
      rw [if_pos hEmpty, hEnded'.2]
      rfl
    exact reaches_of_step trivial hEnds (sign_returns_of_waiting hEnded' rfl)
  by_cases hEmpty : s.gpg.output = []
  · exact hAtEnd s hEnded hEmpty ⟨stdout, hReading⟩
  · have hReads : signStep s .clientReads =
        some { gpg := { s.gpg with output := [] }
               client := .reading written (stdout ++ s.gpg.output) } := by
      rw [signStep, hReading]
      dsimp only
      rw [if_neg hEmpty]
    exact reaches_of_step trivial hReads (hAtEnd _ hEnded rfl ⟨_, rfl⟩)

/-- Once gpg has ended, `sign` can go on to its result from wherever it stands. -/
theorem sign_returns {s : SignState} (hEnded : s.gpg.Ended) :
    Reaches signStep Any SignReturned s := by
  have hAtEnd : ∀ s' : SignState, s'.gpg.Ended → s'.client = .writing [] →
      Reaches signStep Any SignReturned s' := by
    intro s' hEnded' hWriting
    have hDone : signStep s' (.clientWrites 0) =
        some { s' with client := .reading (.ok ()) [] } := by
      rw [signStep, hWriting]
      rfl
    exact reaches_of_step trivial hDone (sign_returns_of_reading hEnded' rfl)
  cases hClient : s.client with
  | returned result => exact reaches_of_goal ⟨result, hClient⟩
  | waiting written stdout => exact sign_returns_of_waiting hEnded hClient
  | reading written stdout => exact sign_returns_of_reading hEnded hClient
  | writing left =>
      by_cases hLeft : left = []
      · subst hLeft
        exact hAtEnd s hEnded hClient
      · cases hOpen : s.gpg.stdinOpen with
        | true =>
            have hWrites : signStep s (.clientWrites left.length) =
                some { gpg := { s.gpg with stdin := s.gpg.stdin ++ left }
                       client := .writing [] } := by
              rw [signStep, hClient]
              dsimp only
              rw [Gpg.write_all hLeft hOpen]
              rfl
            exact reaches_of_step trivial hWrites (hAtEnd _ hEnded rfl)
        | false =>
            -- the result of the write is kept, and the call goes on
            have hBreaks : signStep s (.clientWrites 0) = some { s with
                client := .reading (.error "gpg did not take the payload") [] } := by
              rw [signStep, hClient]
              dsimp only
              rw [Gpg.write_of_closed hLeft hOpen]
              rfl
            exact reaches_of_step trivial hBreaks (sign_returns_of_reading hEnded rfl)

/-! ## `decrypt` -/

/-- What a step of `decrypt` can be. -/
inductive DecryptMove (s : DecryptState) : DecryptEvent → DecryptState → Prop
  | gpg {event : GpgEvent} {gpg' : Gpg} (moves : s.gpg.step (!s.readerDone) event = some gpg') :
      DecryptMove s (.gpg event) { s with gpg := gpg' }
  | writes {n : Nat} {left left' : Bytes} {gpg' : Gpg} (writing : s.client = .writing left)
      (wrote : s.gpg.write left n = some (.wrote gpg' left')) :
      DecryptMove s (.clientWrites n) { s with gpg := gpg', client := .writing left' }
  | written {n : Nat} {left : Bytes} (writing : s.client = .writing left) :
      DecryptMove s (.clientWrites n) { s with client := .waiting }
  | broken {n : Nat} {left : Bytes} (writing : s.client = .writing left)
      (broke : s.gpg.write left n = some .broken) :
      DecryptMove s (.clientWrites n)
        { s with client := .returned (.error "gpg did not take the session key") }
  | waits {status : ExitStatus} (waiting : s.client = .waiting)
      (exited : s.gpg.exit = some status) :
      DecryptMove s .clientWaits
        { s with gpg := { s.gpg with waitedFor := true }, client := .joining status }
  | joins {status : ExitStatus} (joining : s.client = .joining status)
      (done : s.readerDone = true) :
      DecryptMove s .clientJoins { s with client := .returned (.ok (status.code.getD 1)) }
  | takes {raw rest : Bytes} {text : String} (running : s.readerDone = false)
      (piece : nextPiece s.gpg = some (raw, rest)) (isText : fromUtf8 raw = some text) :
      DecryptMove s .readerReads
        { s with
          gpg := { s.gpg with output := rest }
          forwarded := s.forwarded ++
            if leaksSessionKey (content raw) then [] else [content raw] }
  | stops {raw rest : Bytes} (running : s.readerDone = false)
      (piece : nextPiece s.gpg = some (raw, rest)) (noText : fromUtf8 raw = none) :
      DecryptMove s .readerReads
        { s with gpg := { s.gpg with output := rest }, readerDone := true }
  | ends (running : s.readerDone = false) (empty : s.gpg.output = [])
      (closed : s.gpg.outputOpen = false) :
      DecryptMove s .readerReads { s with readerDone := true }

/-- A round of the reader thread. -/
theorem readerStep_move {s s' : DecryptState} (hStep : readerStep s = some s') :
    DecryptMove s .readerReads s' := by
  unfold readerStep at hStep
  split at hStep
  · cases hStep
  · rename_i hNotDone
    have hRunning : s.readerDone = false := by
      simpa using hNotDone
    split at hStep
    · rename_i raw rest hPiece
      dsimp only at hStep
      cases hText : fromUtf8 raw with
      | none =>
          rw [hText] at hStep
          obtain rfl := Option.some.inj hStep
          exact .stops hRunning hPiece hText
      | some text =>
          rw [hText] at hStep
          have hTakes := DecryptMove.takes hRunning hPiece hText
          dsimp only at hStep
          split at hStep
          · rename_i hLeaks
            obtain rfl := Option.some.inj hStep
            rw [if_pos hLeaks, List.append_nil] at hTakes
            exact hTakes
          · rename_i hLeaks
            obtain rfl := Option.some.inj hStep
            rw [if_neg hLeaks] at hTakes
            exact hTakes
    · split at hStep
      · rename_i hEnd
        obtain rfl := Option.some.inj hStep
        exact .ends hRunning hEnd.1 hEnd.2
      · cases hStep

theorem decryptStep_move {s s' : DecryptState} {event : DecryptEvent}
    (hStep : decryptStep s event = some s') : DecryptMove s event s' := by
  cases event with
  | gpg gpgEvent =>
      obtain ⟨gpg, hGpg, rfl⟩ := Option.map_eq_some_iff.mp hStep
      exact .gpg hGpg
  | clientWrites n =>
      rw [decryptStep] at hStep
      split at hStep
      · rename_i left hWriting
        obtain ⟨outcome, hWrite, rfl⟩ := Option.map_eq_some_iff.mp hStep
        cases outcome with
        | done => exact .written hWriting
        | wrote gpg' left' => exact .writes hWriting hWrite
        | broken => exact .broken hWriting hWrite
      · cases hStep
  | clientWaits =>
      rw [decryptStep] at hStep
      split at hStep
      · rename_i status hWaiting hExit
        obtain rfl := Option.some.inj hStep
        exact .waits hWaiting hExit
      · cases hStep
  | clientJoins =>
      rw [decryptStep] at hStep
      split at hStep
      · rename_i status hJoining
        split at hStep
        · rename_i hDone
          obtain rfl := Option.some.inj hStep
          exact .joins hJoining hDone
        · cases hStep
      · cases hStep
  | readerReads => exact readerStep_move hStep

/-- Whether a step is neither a write of the session key that finds nobody at the other end
nor a line that is not UTF-8 in the reader thread. -/
def undisturbed (s : DecryptState) : DecryptEvent → Bool
  | .clientWrites _ =>
      match s.client with
      | .writing left => left.isEmpty || s.gpg.stdinOpen
      | _ => true
  | .readerReads =>
      match nextPiece s.gpg with
      | some (raw, _) => (fromUtf8 raw).isSome
      | none => true
  | _ => true

/-- The condition on the steps of a run. -/
def Undisturbed (s : DecryptState) (event : DecryptEvent) : Prop := undisturbed s event = true

instance (s : DecryptState) (event : DecryptEvent) : Decidable (Undisturbed s event) :=
  inferInstanceAs (Decidable (_ = true))

theorem Gpg.write_broken {gpg : Gpg} {left : Bytes} {n : Nat}
    (hWrite : gpg.write left n = some .broken) : left ≠ [] ∧ gpg.stdinOpen = false := by
  unfold Gpg.write at hWrite
  split at hWrite
  · cases hWrite
  · rename_i hLeft
    split at hWrite
    · rename_i hOpen
      exact ⟨hLeft, by simpa using hOpen⟩
    · split at hWrite
      · cases hWrite
      · cases hWrite

/-- There is no piece where there is nothing to read. -/
theorem nextPiece_of_output_nil {gpg : Gpg} (hNil : gpg.output = []) : nextPiece gpg = none := by
  unfold nextPiece
  rw [hNil]
  rfl

/-- What carries the verdict of `decrypt` from step to step. -/
structure DecryptInv (s : DecryptState) : Prop where
  /-- The reader thread is over only at the end of the diagnostics. -/
  drained : s.readerDone = true → s.gpg.outputOpen = false ∧ s.gpg.output = []
  joining : ∀ status, s.client = .joining status →
    s.gpg.exit = some status ∧ s.gpg.waitedFor = true
  verdict : DecryptVerdict s

/-- gpg's own steps keep it. -/
theorem DecryptInv.gpg_step {s : DecryptState} (hInv : DecryptInv s) {gpg' : Gpg} {heard : Bool}
    {event : GpgEvent} (hStep : s.gpg.step heard event = some gpg') :
    DecryptInv { s with gpg := gpg' } := by
  obtain ⟨hExits, hWaits⟩ := Gpg.step_exit hStep
  refine { drained := ?_, joining := ?_, verdict := ?_ }
  · intro hDone
    obtain ⟨hClosed, hNil⟩ := hInv.drained hDone
    obtain ⟨hClosed', hSame⟩ := Gpg.step_closed hStep hClosed
    exact ⟨hClosed', hSame.trans hNil⟩
  · intro status hJoining
    obtain ⟨hExit, hWaited⟩ := hInv.joining status hJoining
    exact ⟨hExits status hExit, hWaits.trans hWaited⟩
  · intro result hReturned
    obtain ⟨status, hExit, hWaited, hResult, hClosed, hNil⟩ := hInv.verdict result hReturned
    obtain ⟨hClosed', hSame⟩ := Gpg.step_closed hStep hClosed
    exact ⟨status, hExits status hExit, hWaits.trans hWaited, hResult, hClosed',
      hSame.trans hNil⟩

/-- A condition on the diagnostics is met where the reader thread goes on. -/
theorem Undisturbed.isText {s : DecryptState} {raw rest : Bytes}
    (hMeets : Undisturbed s .readerReads) (hPiece : nextPiece s.gpg = some (raw, rest)) :
    (fromUtf8 raw).isSome := by
  unfold Undisturbed undisturbed at hMeets
  rwa [hPiece] at hMeets

/-- A write that breaks is a disturbance. -/
theorem Undisturbed.not_broken {s : DecryptState} {n : Nat} {left : Bytes}
    (hMeets : Undisturbed s (.clientWrites n)) (hWriting : s.client = .writing left) :
    s.gpg.write left n ≠ some .broken := by
  intro hBroke
  obtain ⟨hLeft, hClosed⟩ := Gpg.write_broken hBroke
  unfold Undisturbed undisturbed at hMeets
  rw [hWriting] at hMeets
  simp [hLeft, hClosed] at hMeets

/-- Every undisturbed step keeps it. -/
theorem decryptStep_inv {s s' : DecryptState} {event : DecryptEvent} (hInv : DecryptInv s)
    (hMeets : Undisturbed s event) (hStep : decryptStep s event = some s') : DecryptInv s' := by
  cases decryptStep_move hStep with
  | gpg hGpg => exact hInv.gpg_step hGpg
  | writes hWriting hWrote =>
      obtain ⟨-, -, hOpen, hOutput⟩ := Gpg.write_wrote hWrote
      refine { drained := ?_
               joining := fun _ hJoining => by cases hJoining
               verdict := fun _ hReturned => by cases hReturned }
      intro hDone
      obtain ⟨hClosed, hNil⟩ := hInv.drained hDone
      exact ⟨hOpen.trans hClosed, hOutput.trans hNil⟩
  | written hWriting =>
      exact { drained := hInv.drained
              joining := fun _ hJoining => by cases hJoining
              verdict := fun _ hReturned => by cases hReturned }
  | broken hWriting hBroke => exact absurd hBroke (hMeets.not_broken hWriting)
  | @waits status hWaiting hExit =>
      refine { drained := hInv.drained, joining := ?_
               verdict := fun _ hReturned => by cases hReturned }
      intro other hJoining
      obtain rfl := DecryptPoint.joining.inj hJoining
      exact ⟨hExit, rfl⟩
  | @joins status hJoining hDone =>
      obtain ⟨hExit, hWaited⟩ := hInv.joining status hJoining
      obtain ⟨hClosed, hNil⟩ := hInv.drained hDone
      refine { drained := hInv.drained
               joining := fun _ hJoining => by cases hJoining
               verdict := ?_ }
      intro result hReturned
      obtain rfl := DecryptPoint.returned.inj hReturned
      exact ⟨status, hExit, hWaited, fun _ => rfl, hClosed, hNil⟩
  | takes hRunning hPiece hText =>
      -- something was left to read, so the call has not returned
      have hNotReturned : ∀ result, s.client ≠ .returned result := by
        intro result hReturned
        obtain ⟨-, -, -, -, -, hNil⟩ := hInv.verdict result hReturned
        rw [nextPiece_of_output_nil hNil] at hPiece
        cases hPiece
      exact { drained := fun hDone => by rw [hRunning] at hDone; cases hDone
              joining := hInv.joining
              verdict := fun result hReturned => absurd hReturned (hNotReturned result) }
  | stops hRunning hPiece hNoText =>
      have hText := hMeets.isText hPiece
      rw [hNoText] at hText
      cases hText
  | ends hRunning hEmpty hClosed =>
      exact { drained := fun _ => ⟨hClosed, hEmpty⟩
              joining := hInv.joining
              verdict := hInv.verdict }

/-- In an undisturbed run of `decrypt` the verdict is gpg's. -/
theorem decrypt_verdict {sessionKey : String} {events : List DecryptEvent} {s : DecryptState}
    (hRun : Run decryptStep Undisturbed (decryptStart sessionKey) events s) :
    DecryptVerdict s := by
  have hInv : DecryptInv s := by
    apply hRun.invariant
    · exact { drained := fun hDone => by cases hDone
              joining := fun _ hJoining => by cases hJoining
              verdict := fun _ hReturned => by cases hReturned }
    · intro s event s' hInv hMeets hStep
      exact decryptStep_inv hInv hMeets hStep
  exact hInv.verdict

/-- Neither of the two is in the way of `decrypt`: what is left of the session key can still
be written, and what is left of the diagnostics is text. -/
structure Unhindered (s : DecryptState) : Prop where
  key : ∀ left, s.client = .writing left → left = [] ∨ s.gpg.stdinOpen = true
  text : ∀ raw ∈ rawLines s.gpg.output, (fromUtf8 raw).isSome

/-- Behind the wait the reader thread reads the rest line by line, and is joined. -/
theorem decrypt_returns_of_joining {s : DecryptState} {status : ExitStatus}
    (hClosed : s.gpg.outputOpen = false) (hJoining : s.client = .joining status)
    (hText : ∀ raw ∈ rawLines s.gpg.output, (fromUtf8 raw).isSome) :
    Reaches decryptStep Undisturbed DecryptReturned s := by
  have hJoined : ∀ s' : DecryptState, s'.client = .joining status → s'.readerDone = true →
      Reaches decryptStep Undisturbed DecryptReturned s' := by
    intro s' hJoining' hDone
    have hJoins : decryptStep s' .clientJoins =
        some { s' with client := .returned (.ok (status.code.getD 1)) } := by
      rw [decryptStep, hJoining']
      dsimp only
      rw [if_pos hDone]
    have hMeets : Undisturbed s' .clientJoins := rfl
    exact reaches_of_step hMeets hJoins (reaches_of_goal ⟨_, rfl⟩)
  generalize hRaws : rawLines s.gpg.output = raws at hText
  induction raws generalizing s with
  | nil =>
      cases hDone : s.readerDone with
      | true => exact hJoined s hJoining hDone
      | false =>
          have hEmpty : s.gpg.output = [] := by
            rw [← rawLines_flatten s.gpg.output, hRaws]
            rfl
          have hPiece := nextPiece_of_output_nil hEmpty
          have hEnds : decryptStep s .readerReads = some { s with readerDone := true } := by
            rw [decryptStep, readerStep, if_neg (by simp [hDone]), hPiece]
            exact if_pos ⟨hEmpty, hClosed⟩
          have hMeets : Undisturbed s .readerReads := by
            unfold Undisturbed undisturbed
            rw [hPiece]
          exact reaches_of_step hMeets hEnds (hJoined _ hJoining rfl)
  | cons raw raws ih =>
      cases hDone : s.readerDone with
      | true => exact hJoined s hJoining hDone
      | false =>
          have hPiece : nextPiece s.gpg = some (raw, raws.flatten) := by
            unfold nextPiece
            rw [hRaws]
            exact if_pos (.inr hClosed)
          obtain ⟨text, hRaw⟩ := Option.isSome_iff_exists.mp (hText raw List.mem_cons_self)
          have hMeets : Undisturbed s .readerReads := by
            unfold Undisturbed undisturbed
            rw [hPiece]
            exact hText raw List.mem_cons_self
          obtain ⟨forwarded, hReads⟩ : ∃ forwarded, decryptStep s .readerReads =
              some { s with gpg := { s.gpg with output := raws.flatten }, forwarded } := by
            rw [decryptStep, readerStep, if_neg (by simp [hDone]), hPiece]
            dsimp only
            rw [hRaw]
            dsimp only
            split
            · exact ⟨s.forwarded, rfl⟩
            · exact ⟨_, rfl⟩
          refine reaches_of_step hMeets hReads (ih hClosed hJoining (rawLines_tail hRaws) ?_)
          intro other hOther
          exact hText other (List.mem_cons_of_mem _ hOther)

/-- Once gpg has ended, `decrypt` can go on to its result where nothing is in its way. -/
theorem decrypt_returns {s : DecryptState} (hEnded : s.gpg.Ended) (hUnhindered : Unhindered s) :
    Reaches decryptStep Undisturbed DecryptReturned s := by
  obtain ⟨status, hExit⟩ := Option.ne_none_iff_exists'.mp hEnded.1
  have hWaited : ∀ s' : DecryptState, s'.gpg.exit = some status → s'.gpg.outputOpen = false →
      s'.gpg.output = s.gpg.output → s'.client = .waiting →
        Reaches decryptStep Undisturbed DecryptReturned s' := by
    intro s' hExit' hClosed hOutput hWaiting
    have hWaits : decryptStep s' .clientWaits =
        some { s' with gpg := { s'.gpg with waitedFor := true }, client := .joining status } := by
      rw [decryptStep, hWaiting, hExit']
    have hMeets : Undisturbed s' .clientWaits := rfl
    refine reaches_of_step hMeets hWaits (decrypt_returns_of_joining hClosed rfl ?_)
    show ∀ raw ∈ rawLines s'.gpg.output, _
    rw [hOutput]
    exact hUnhindered.text
  have hWritten : ∀ s' : DecryptState, s'.gpg.exit = some status → s'.gpg.outputOpen = false →
      s'.gpg.output = s.gpg.output → s'.client = .writing [] →
        Reaches decryptStep Undisturbed DecryptReturned s' := by
    intro s' hExit' hClosed hOutput hWriting
    have hDone : decryptStep s' (.clientWrites 0) = some { s' with client := .waiting } := by
      rw [decryptStep, hWriting]
      rfl
    have hMeets : Undisturbed s' (.clientWrites 0) := by
      unfold Undisturbed undisturbed
      rw [hWriting]
      rfl
    exact reaches_of_step hMeets hDone (hWaited _ hExit' hClosed hOutput rfl)
  cases hClient : s.client with
  | returned result => exact reaches_of_goal ⟨result, hClient⟩
  | joining status => exact decrypt_returns_of_joining hEnded.2 hClient hUnhindered.text
  | waiting => exact hWaited s hExit hEnded.2 rfl hClient
  | writing left =>
      by_cases hLeft : left = []
      · subst hLeft
        exact hWritten s hExit hEnded.2 rfl hClient
      · have hOpen : s.gpg.stdinOpen = true := (hUnhindered.key left hClient).resolve_left hLeft
        have hWrites : decryptStep s (.clientWrites left.length) =
            some { s with
              gpg := { s.gpg with stdin := s.gpg.stdin ++ left }, client := .writing [] } := by
          rw [decryptStep, hClient]
          dsimp only
          rw [Gpg.write_all hLeft hOpen]
          rfl
        have hMeets : Undisturbed s (.clientWrites left.length) := by
          unfold Undisturbed undisturbed
          rw [hClient]
          simp [hOpen]
        exact reaches_of_step hMeets hWrites (hWritten _ hExit hEnded.2 rfl rfl)

/-- A write of the session key that breaks always costs gpg's verdict. -/
theorem broken_write_loses_verdict {s : DecryptState} {left : Bytes}
    (hWriting : s.client = .writing left) (hLeft : left ≠ []) (hClosed : s.gpg.stdinOpen = false)
    (hFailed : ∃ status, s.gpg.exit = some status ∧ status.success = false) (n : Nat) :
    ∃ s', decryptStep s (.clientWrites n) = some s' ∧ ¬ DecryptVerdict s' := by
  have hWrite : s.gpg.write left n = some .broken := Gpg.write_of_closed hLeft hClosed
  refine ⟨{ s with client := .returned (.error "gpg did not take the session key") }, ?_, ?_⟩
  · rw [decryptStep, hWriting]
    dsimp only
    rw [hWrite]
    rfl
  · intro hVerdict
    obtain ⟨status, hExit, -, hResult, -⟩ := hVerdict _ rfl
    obtain ⟨status', hExit', hFailed⟩ := hFailed
    obtain rfl := Option.some.inj (hExit.symm.trans hExit')
    cases hResult hFailed

/-! ## Both calls -/

/-- gpg's own verdict wins in every run of `sign`, and in every run of `decrypt` in which the
session key is taken and the diagnostics are text; and once gpg has ended, such a run can go
on until the call has returned. -/
theorem gpg_verdict_wins (payload : Bytes) (sessionKey : String) :
    (∀ events s, Run signStep Any (signStart payload) events s →
      SignVerdict s ∧ (s.gpg.Ended → ∃ more s',
        Run signStep Any (signStart payload) (events ++ more) s' ∧ SignReturned s')) ∧
    ∀ events s, Run decryptStep Undisturbed (decryptStart sessionKey) events s →
      DecryptVerdict s ∧ (s.gpg.Ended → Unhindered s → ∃ more s',
        Run decryptStep Undisturbed (decryptStart sessionKey) (events ++ more) s' ∧
          DecryptReturned s') := by
  constructor
  · intro events s hRun
    refine ⟨sign_verdict hRun, ?_⟩
    intro hEnded
    exact hRun.reaches (sign_returns hEnded)
  · intro events s hRun
    refine ⟨decrypt_verdict hRun, ?_⟩
    intro hEnded hUnhindered
    exact hRun.reaches (decrypt_returns hEnded hUnhindered)

/-- gpg takes the key, says that it has no key, and exits with code two. -/
def failingRun : List DecryptEvent :=
  [.clientWrites 5, .gpg (.reads 5), .clientWrites 0,
    .gpg (.writes (asBytes "gpg: no key\n")), .readerReads, .gpg .closesOutput,
    .gpg (.exits (.exited 2)), .clientWaits, .readerReads, .clientJoins]

/-- gpg is killed while it signs, before it has read the payload. -/
def killedRun : List SignEvent :=
  [.gpg (.exits (.signaled 9 false)), .gpg .closesStdin, .gpg .closesOutput, .clientWrites 2,
    .clientReads, .clientWaits]

/-- A `sign` whose gpg is killed reports the signal, one whose gpg has just ended can still
return, and a `decrypt` whose gpg fails returns its code. -/
theorem gpg_verdict_wins_failingRun :
    (∃ s, Run signStep Any (signStart [0x7B, 0x7D]) killedRun s ∧ s.client =
        .returned (.error "gpg did not sign the request, it exited signal: 9 (SIGKILL)") ∧
      SignVerdict s) ∧
    (∃ more s', Run signStep Any (signStart [0x7B, 0x7D]) (killedRun.take 3 ++ more) s' ∧
      SignReturned s') ∧
    ∃ s, Run decryptStep Undisturbed (decryptStart "9:AB") failingRun s ∧
      s.client = .returned (.ok 2) ∧ DecryptVerdict s := by
  have hWins := gpg_verdict_wins [0x7B, 0x7D] "9:AB"
  refine ⟨?_, ?_, ?_⟩
  · have hPlayed : ∃ s, execute signStep Any (signStart [0x7B, 0x7D]) killedRun = some s ∧
        s.client =
          .returned (.error "gpg did not sign the request, it exited signal: 9 (SIGKILL)") := by
      refine ⟨_, rfl, rfl⟩
    obtain ⟨s, hPlayed, hReturned⟩ := hPlayed
    have hRun := run_of_execute hPlayed
    exact ⟨s, hRun, hReturned, (hWins.1 _ _ hRun).1⟩
  · have hPlayed : ∃ s, execute signStep Any (signStart [0x7B, 0x7D]) (killedRun.take 3) =
        some s ∧ s.gpg.Ended := by
      refine ⟨_, rfl, Option.some_ne_none _, rfl⟩
    obtain ⟨s, hPlayed, hEnded⟩ := hPlayed
    exact (hWins.1 _ _ (run_of_execute hPlayed)).2 hEnded
  · have hPlayed : ∃ s, execute decryptStep Undisturbed (decryptStart "9:AB") failingRun = some s ∧
        s.client = .returned (.ok 2) := by
      refine ⟨_, rfl, rfl⟩
    obtain ⟨s, hPlayed, hReturned⟩ := hPlayed
    have hRun := run_of_execute hPlayed
    exact ⟨s, hRun, hReturned, (hWins.2 _ _ hRun).1⟩

/-- gpg exits with code two before it reads the session key. -/
def earlyExit : List DecryptEvent :=
  [.gpg (.exits (.exited 2)), .gpg .closesStdin, .clientWrites 5]

/-- The same race takes gpg's verdict from `decrypt`. -/
theorem early_exit_loses_verdict :
    ∃ s, Run decryptStep Any (decryptStart "9:AB") earlyExit s ∧
      s.gpg.exit = some (.exited 2) ∧
      s.client = .returned (.error "gpg did not take the session key") ∧ ¬ DecryptVerdict s := by
  have hPlayed : ∃ s, execute decryptStep Any (decryptStart "9:AB") earlyExit = some s ∧
      s.gpg.exit = some (.exited 2) ∧
      s.client = .returned (.error "gpg did not take the session key") := by
    refine ⟨_, rfl, rfl, rfl⟩
  obtain ⟨s, hPlayed, hExit, hReturned⟩ := hPlayed
  refine ⟨s, run_of_execute hPlayed, hExit, hReturned, ?_⟩
  intro hVerdict
  obtain ⟨status, hStatus, -, hResult, -⟩ := hVerdict _ hReturned
  obtain rfl := Option.some.inj (hStatus.symm.trans hExit)
  cases hResult rfl

end Client
end TvcGpg
