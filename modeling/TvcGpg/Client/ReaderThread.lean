import TvcGpg.Client.Diagnostics
import TvcGpg.Client.GpgVerdict

/-!
# The reader thread beside gpg

In a run of `decrypt` gpg writes its diagnostics bit by bit, and the reader thread
takes a line whenever there is one.  However the two are interleaved, what the
thread has done when its loop ends is `readerThread` on all that gpg has written
(`reader_runs_readerThread`).  So a call that returns gpg's exit code has shown
every line but the key if the diagnostics are readable (`diagnostics_of_returned`).
-/

namespace TvcGpg
namespace Client

open Lib Lib.Text Lib.Lines Lib.Runs

/-- What gpg writes to its diagnostics in one step. -/
def writtenBytes : DecryptEvent → Bytes
  | .gpg (.writes bytes) => bytes
  | _ => []

/-- All that gpg has written to its diagnostics. -/
def written (events : List DecryptEvent) : Bytes := events.flatMap writtenBytes

theorem written_snoc (events : List DecryptEvent) (event : DecryptEvent) :
    written (events ++ [event]) = written events ++ writtenBytes event := by
  simp [written]

theorem written_readerReads (events : List DecryptEvent) :
    written (events ++ [.readerReads]) = written events := by
  rw [written_snoc]
  exact List.append_nil _

/-- The next piece is the first one of whatever is still to come. -/
theorem rawLines_of_nextPiece {gpg : Gpg} {raw rest more : Bytes}
    (hPiece : nextPiece gpg = some (raw, rest)) (hMore : gpg.outputOpen = false → more = []) :
    rawLines (gpg.output ++ more) = raw :: rawLines (rest ++ more) := by
  unfold nextPiece at hPiece
  split at hPiece
  · cases hPiece
  · rename_i first raws hRaws
    split at hPiece
    · rename_i hWhole
      obtain ⟨rfl, rfl⟩ := Prod.mk.inj (Option.some.inj hPiece)
      rcases ends_or_last_of_rawLines hRaws with hEnds | rfl
      · exact rawLines_append hRaws hEnds more
      · rcases hWhole with hEnds | hClosed
        · exact rawLines_append hRaws hEnds more
        · rw [hMore hClosed, List.append_nil, hRaws]
          rfl
    · cases hPiece

/-- How far the reader thread has come with what gpg has written. -/
structure Forwards (events : List DecryptEvent) (s : DecryptState) : Prop where
  /-- While the loop runs, the lines in front of what is left in the pipe are filtered. -/
  running : s.readerDone = false → ∃ front,
    (∀ raw ∈ front, (fromUtf8 raw).isSome) ∧ s.forwarded = shownLines (front.map content) ∧
      ∀ more, (s.gpg.outputOpen = false → more = []) →
        rawLines (written events ++ more) = front ++ rawLines (s.gpg.output ++ more)
  /-- When it is over, the thread has done what `readerThread` does. -/
  done : s.readerDone = true → readerThread (written events) = ⟨s.forwarded, s.gpg.output⟩

/-- A step that neither writes to the pipe nor reads from it changes nothing. -/
theorem Forwards.frame {events : List DecryptEvent} {s s' : DecryptState} {event : DecryptEvent}
    (hForwards : Forwards events s) (hWritten : writtenBytes event = [])
    (hOutput : s'.gpg.output = s.gpg.output)
    (hOpen : s.gpg.outputOpen = false → s'.gpg.outputOpen = false)
    (hForwarded : s'.forwarded = s.forwarded) (hDone : s'.readerDone = s.readerDone) :
    Forwards (events ++ [event]) s' := by
  have hSame : written (events ++ [event]) = written events := by
    rw [written_snoc, hWritten, List.append_nil]
  refine { running := ?_, done := ?_ }
  · intro hRunning
    obtain ⟨front, hValid, hFront, hPieces⟩ := hForwards.running (hDone.symm.trans hRunning)
    refine ⟨front, hValid, hForwarded.trans hFront, ?_⟩
    intro more hMore
    rw [hSame, hOutput]
    exact hPieces more fun hClosed => hMore (hOpen hClosed)
  · intro hOver
    rw [hSame, hForwarded, hOutput]
    exact hForwards.done (hDone.symm.trans hOver)

/-- gpg writes to the end of what is left. -/
theorem Forwards.gpg_step {events : List DecryptEvent} {s : DecryptState}
    (hForwards : Forwards events s) {gpg' : Gpg} {event : GpgEvent}
    (hStep : s.gpg.step (!s.readerDone) event = some gpg') :
    Forwards (events ++ [.gpg event]) { s with gpg := gpg' } := by
  cases event with
  | writes bytes =>
      rw [Gpg.step] at hStep
      split at hStep
      · rename_i hHeard
        obtain rfl := Option.some.inj hStep
        have hOpen : s.gpg.outputOpen = true := (Bool.and_eq_true_iff.mp hHeard).1
        have hRunning : s.readerDone = false := by
          simpa using (Bool.and_eq_true_iff.mp hHeard).2
        obtain ⟨front, hValid, hFront, hPieces⟩ := hForwards.running hRunning
        refine { running := ?_, done := ?_ }
        · intro _
          refine ⟨front, hValid, hFront, ?_⟩
          intro more _
          have hAll := hPieces (bytes ++ more) fun hClosed => by
            rw [hOpen] at hClosed
            cases hClosed
          rw [written_snoc, List.append_assoc, List.append_assoc]
          exact hAll
        · intro hOver
          rw [hRunning] at hOver
          cases hOver
      · cases hStep
  | closesStdin =>
      obtain rfl := Option.some.inj hStep
      exact hForwards.frame rfl rfl id rfl rfl
  | closesOutput =>
      obtain rfl := Option.some.inj hStep
      exact hForwards.frame rfl rfl (fun _ => rfl) rfl rfl
  | reads n | exits status =>
      rw [Gpg.step] at hStep
      split at hStep
      · obtain rfl := Option.some.inj hStep
        exact hForwards.frame rfl rfl id rfl rfl
      · cases hStep

/-- The loop takes over one more line. -/
theorem Forwards.takes {events : List DecryptEvent} {s : DecryptState}
    (hForwards : Forwards events s) (hRunning : s.readerDone = false) {raw rest : Bytes}
    {text : String} (hPiece : nextPiece s.gpg = some (raw, rest))
    (hText : fromUtf8 raw = some text) :
    Forwards (events ++ [.readerReads])
      { s with
        gpg := { s.gpg with output := rest }
        forwarded := s.forwarded ++
          if leaksSessionKey (content raw) then [] else [content raw] } := by
  obtain ⟨front, hValid, hFront, hPieces⟩ := hForwards.running hRunning
  refine { running := fun _ => ⟨front ++ [raw], ?_, ?_, ?_⟩, done := fun hOver => ?_ }
  · intro piece hMem
    rcases List.mem_append.mp hMem with hFrontMem | hLast
    · exact hValid piece hFrontMem
    · obtain rfl := List.mem_singleton.mp hLast
      rw [hText]
      rfl
  · have hShown : shownLines [content raw] =
        if leaksSessionKey (content raw) then [] else [content raw] := shownLines_cons _ []
    rw [← hShown, hFront, List.map_append]
    exact (List.filter_append _ _).symm
  · intro more hMore
    rw [written_readerReads, hPieces more hMore, rawLines_of_nextPiece hPiece hMore]
    simp
  · rw [hRunning] at hOver
    cases hOver

/-- The loop ends at a line that is no string. -/
theorem Forwards.stops {events : List DecryptEvent} {s : DecryptState}
    (hForwards : Forwards events s) (hRunning : s.readerDone = false) {raw rest : Bytes}
    (hPiece : nextPiece s.gpg = some (raw, rest)) (hNoText : fromUtf8 raw = none) :
    Forwards (events ++ [.readerReads])
      { s with gpg := { s.gpg with output := rest }, readerDone := true } := by
  obtain ⟨front, hValid, hFront, hPieces⟩ := hForwards.running hRunning
  refine { running := fun hStill => ?_, done := fun _ => ?_ }
  · cases hStill
  have hRaws : rawLines (written events) = front ++ raw :: rawLines rest := by
    have hAll := hPieces [] fun _ => rfl
    rw [rawLines_of_nextPiece hPiece fun _ => rfl] at hAll
    simpa using hAll
  rw [written_readerReads, readerThread_of_invalid hRaws hValid hNoText, rawLines_flatten, hFront]

/-- The loop ends where nothing more can come. -/
theorem Forwards.ends {events : List DecryptEvent} {s : DecryptState}
    (hForwards : Forwards events s) (hRunning : s.readerDone = false) (hEmpty : s.gpg.output = []) :
    Forwards (events ++ [.readerReads]) { s with readerDone := true } := by
  obtain ⟨front, hValid, hFront, hPieces⟩ := hForwards.running hRunning
  refine { running := fun hStill => ?_, done := fun _ => ?_ }
  · cases hStill
  have hRaws : rawLines (written events) = front := by
    have hAll := hPieces [] fun _ => rfl
    rw [hEmpty] at hAll
    simpa [rawLines] using hAll
  have hAllValid : ∀ raw ∈ rawLines (written events), (fromUtf8 raw).isSome := by
    rw [hRaws]
    exact hValid
  rw [written_readerReads, readerThread_of_valid hAllValid, streamLines, hRaws, hFront, hEmpty]

theorem decryptStep_forwards {events : List DecryptEvent} {s s' : DecryptState}
    {event : DecryptEvent} (hForwards : Forwards events s)
    (hStep : decryptStep s event = some s') : Forwards (events ++ [event]) s' := by
  cases decryptStep_move hStep with
  | gpg hGpg => exact hForwards.gpg_step hGpg
  | writes _ hWrote =>
      obtain ⟨-, -, hOpen, hOutput⟩ := Gpg.write_wrote hWrote
      exact hForwards.frame rfl hOutput hOpen.trans rfl rfl
  | written | broken | waits | joins => exact hForwards.frame rfl rfl id rfl rfl
  | takes hRunning hPiece hText => exact hForwards.takes hRunning hPiece hText
  | stops hRunning hPiece hNoText => exact hForwards.stops hRunning hPiece hNoText
  | ends hRunning hEmpty => exact hForwards.ends hRunning hEmpty

/-- The thread keeps up with gpg in every run. -/
theorem forwards_of_run {sessionKey : String} {events : List DecryptEvent} {s : DecryptState}
    (hRun : Run decryptStep Any (decryptStart sessionKey) events s) : Forwards events s := by
  apply hRun.history
  · refine { running := fun _ => ?_, done := fun hOver => ?_ }
    · exact ⟨[], by simp, rfl, fun _ _ => rfl⟩
    · cases hOver
  · intro events s event s' hForwards _ hStep
    exact decryptStep_forwards hForwards hStep

/-- When the loop is over, the thread has done what `readerThread` does with all that gpg
has written. -/
theorem reader_runs_readerThread {sessionKey : String} {events : List DecryptEvent}
    {s : DecryptState} (hRun : Run decryptStep Any (decryptStart sessionKey) events s)
    (hDone : s.readerDone = true) :
    readerThread (written events) = ⟨s.forwarded, s.gpg.output⟩ :=
  (forwards_of_run hRun).done hDone

/-- `decrypt` returns an exit code only behind the join. -/
theorem decryptStep_joined {s s' : DecryptState} {event : DecryptEvent}
    (hJoined : ∀ code, s.client = .returned (.ok code) → s.readerDone = true)
    (hStep : decryptStep s event = some s') :
    ∀ code, s'.client = .returned (.ok code) → s'.readerDone = true := by
  intro code hReturned
  cases decryptStep_move hStep with
  | gpg => exact hJoined code hReturned
  | writes | written | broken | waits => cases hReturned
  | joins _ hDone => exact hDone
  | takes => exact hJoined code hReturned
  | stops | ends => rfl

theorem readerDone_of_returned {sessionKey : String} {events : List DecryptEvent}
    {s : DecryptState} (hRun : Run decryptStep Any (decryptStart sessionKey) events s)
    {code : Nat} (hReturned : s.client = .returned (.ok code)) : s.readerDone = true := by
  have hJoined : ∀ code, s.client = .returned (.ok code) → s.readerDone = true := by
    apply hRun.invariant
    · intro code hReturned
      cases hReturned
    · intro s event s' hJoined _ hStep
      exact decryptStep_joined hJoined hStep
  exact hJoined code hReturned

/-- A call that returns gpg's exit code has shown every line of readable diagnostics but
those with the key. -/
theorem diagnostics_of_returned {sessionKey : String} {events : List DecryptEvent}
    {s : DecryptState} (hRun : Run decryptStep Any (decryptStart sessionKey) events s)
    {code : Nat} (hReturned : s.client = .returned (.ok code))
    (hReadable : Readable (written events)) :
    s.forwarded = shownLines (streamLines (written events)) := by
  have hThread := reader_runs_readerThread hRun (readerDone_of_returned hRun hReturned)
  have hForwarded := (losesOnlyTheKey_of_readable hReadable).forwarded
  rw [hThread] at hForwarded
  exact hForwarded

end Client
end TvcGpg
