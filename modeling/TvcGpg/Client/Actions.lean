import TvcGpg.Model.ClientProcess

/-!
# What a run of the client does, and in which order

The process of `Model.ClientProcess` is the run of `Model.ClientRun` with its actions
written down (`process_outcome`).  `Story` lists the ways a run can end, one for each place
it can stop at, each with the actions that were done by then.  Everything else about the
order is read off the story: nothing leaves the machine before the pinned key and the
message have been read, there is no tap before the packet to ask for has been found, and
gpg gets nothing before a receipt has been accepted.
-/

namespace TvcGpg
namespace Client

open Lib Lib.Text Lib.Fallible Lib.Logged

variable {crates : Crates} {world : World} {args : Decrypt}

/-! ## The process is the run -/

theorem prepare_eq_stages : prepare crates world args =
    (do
      let examined ← examine crates world args
      let appKey ← world.fetchPublicKey args.appUrl
      let asked ← ask crates world args examined.pkesks appKey
      let signature ← world.sign (signArgs args.signer) asked.payload
      let response ← world.postSessionKey args.appUrl asked.payload signature
      let sessionKey ←
        accept crates examined.quorum args.appId world.transport asked.pkesk response
      handOver world args examined.message sessionKey) := by
  unfold prepare fetchSessionKey examine ask accept handOver
  simp only [bind_assoc, pure_bind]

/-- Without its log, the process prepares what the run prepares. -/
theorem resultOf_prepareM :
    resultOf (prepareM crates world args []) = prepare crates world args := by
  rw [prepare_eq_stages]
  unfold prepareM
  simp only [resultOf_bind, resultOf_liftExcept, resultOf_note]

/-! ## The ways a run ends -/

/-- What a run does before gpg, when nothing stops it. -/
def plan (args : Decrypt) (payload : String) (signature : Bytes) : List Action :=
  [.fetchesPublicKey args.appUrl, .signs (signArgs args.signer) payload,
    .postsSessionKey args.appUrl payload signature]

/-- A packet to ask for has been found, with the app's own key. -/
structure Finds (crates : Crates) (world : World) (args : Decrypt) (examined : Examined)
    (asked : Asked) : Prop where
  examines : examine crates world args = .ok examined
  asks : ∃ appKey, world.fetchPublicKey args.appUrl = .ok appKey ∧
    ask crates world args examined.pkesks appKey = .ok asked

/-- The request has been signed. -/
structure Signs (crates : Crates) (world : World) (args : Decrypt) (examined : Examined)
    (asked : Asked) (signature : Bytes) : Prop extends Finds crates world args examined asked where
  signs : world.sign (signArgs args.signer) asked.payload = .ok signature

/-- The answer to the request has been accepted, and is this session key. -/
structure Accepts (crates : Crates) (world : World) (args : Decrypt) (examined : Examined)
    (asked : Asked) (signature : Bytes) (sessionKey : String) : Prop
    extends Signs crates world args examined asked signature where
  accepts : ∃ response,
    world.postSessionKey args.appUrl asked.payload signature = .ok response ∧
      accept crates examined.quorum args.appId world.transport asked.pkesk response =
        .ok sessionKey

/-- How a run goes up to gpg: what it has done by then, and what comes of it. -/
inductive Story (crates : Crates) (world : World) (args : Decrypt) :
    List Action → Except String Ready → Prop
  /-- Something local is wrong, and nothing has left the machine. -/
  | unread {message : String} (hExamine : examine crates world args = .error message) :
      Story crates world args [] (.error message)
  /-- The app has no key, or none the message is encrypted to, or the clock is off. -/
  | notFound {examined : Examined} {message : String}
      (hExamine : examine crates world args = .ok examined)
      (hNone : (world.fetchPublicKey args.appUrl >>= ask crates world args examined.pkesks) =
        .error message) :
      Story crates world args [.fetchesPublicKey args.appUrl] (.error message)
  /-- gpg does not sign. -/
  | unsigned {examined : Examined} {asked : Asked} {message : String}
      (hFinds : Finds crates world args examined asked)
      (hSign : world.sign (signArgs args.signer) asked.payload = .error message) :
      Story crates world args ((plan args asked.payload []).take 2) (.error message)
  /-- The app turns the request down, or its answer is not accepted. -/
  | refused {examined : Examined} {asked : Asked} {signature : Bytes} {message : String}
      (hSigns : Signs crates world args examined asked signature)
      (hNone : (world.postSessionKey args.appUrl asked.payload signature >>=
        accept crates examined.quorum args.appId world.transport asked.pkesk) = .error message) :
      Story crates world args (plan args asked.payload signature) (.error message)
  /-- The session key is there. -/
  | opened {examined : Examined} {asked : Asked} {signature : Bytes} {sessionKey : String}
      (hAccepts : Accepts crates world args examined asked signature sessionKey) :
      Story crates world args (plan args asked.payload signature)
        (handOver world args examined.message sessionKey)

/-- Every run goes one of these ways. -/
theorem story_prepareM :
    Story crates world args (logOf (prepareM crates world args []))
      (resultOf (prepareM crates world args [])) := by
  rw [resultOf_prepareM, prepare_eq_stages]
  unfold prepareM
  -- one case for each place the run can stop at
  cases hExamine : examine crates world args with
  | error message => exact .unread hExamine
  | ok examined =>
  rw [liftExcept_ok_bind, ok_bind]
  cases hKey : world.fetchPublicKey args.appUrl with
  | error message =>
      rw [note_error_bind, error_bind]
      refine .notFound hExamine ?_
      rw [hKey, error_bind]
  | ok appKey =>
  rw [note_ok_bind, ok_bind]
  cases hAsk : ask crates world args examined.pkesks appKey with
  | error message =>
      rw [liftExcept_error_bind, error_bind]
      refine .notFound hExamine ?_
      rw [hKey, ok_bind, hAsk]
  | ok asked =>
  rw [liftExcept_ok_bind, ok_bind]
  have hFinds : Finds crates world args examined asked := ⟨hExamine, appKey, hKey, hAsk⟩
  cases hSign : world.sign (signArgs args.signer) asked.payload with
  | error message =>
      rw [note_error_bind, error_bind]
      exact .unsigned hFinds hSign
  | ok signature =>
  rw [note_ok_bind, ok_bind]
  have hSigns : Signs crates world args examined asked signature := ⟨hFinds, hSign⟩
  cases hPost : world.postSessionKey args.appUrl asked.payload signature with
  | error message =>
      rw [note_error_bind, error_bind]
      refine .refused hSigns ?_
      rw [hPost, error_bind]
  | ok response =>
  rw [note_ok_bind, ok_bind]
  cases hAccept : accept crates examined.quorum args.appId world.transport asked.pkesk response with
  | error message =>
      rw [liftExcept_error_bind, error_bind]
      refine .refused hSigns ?_
      rw [hPost, ok_bind, hAccept]
  | ok sessionKey =>
  rw [liftExcept_ok_bind, ok_bind]
  have hStory := Story.opened ⟨hSigns, response, hPost, hAccept⟩
  cases hHand : handOver world args examined.message sessionKey with
  | error message =>
      rw [hHand] at hStory
      exact hStory
  | ok ready =>
      rw [hHand] at hStory
      exact hStory

/-! ## The whole run -/

/-- A gpg that was not started leaves an error behind, and one that was its own result. -/
theorem gpgDecrypt_result (ready : Ready) (output : Option Path) (gpg : GpgRun) :
    ((gpgDecrypt ready output gpg).started = none ∧
        ∃ message, (gpgDecrypt ready output gpg).result = .error message) ∨
      ((gpgDecrypt ready output gpg).started.isSome = true ∧
        (gpgDecrypt ready output gpg).result = gpg.result) := by
  unfold gpgDecrypt
  split
  · split
    · exact .inr ⟨rfl, rfl⟩
    · exact .inl ⟨rfl, _, rfl⟩
  · split
    · exact .inl ⟨rfl, _, rfl⟩
    · split
      · exact .inr ⟨rfl, rfl⟩
      · exact .inl ⟨rfl, _, rfl⟩

/-- The process leaves what the run leaves. -/
theorem process_outcome (gpg : GpgRun) :
    (process crates world args gpg).2 = decrypt crates world args gpg := by
  have hSame := @resultOf_prepareM crates world args
  unfold process decrypt
  cases hRun : prepareM crates world args [] with
  | error message done =>
      rw [hRun] at hSame
      rw [← hSame]
      rfl
  | ok ready done =>
      rw [hRun] at hSame
      rw [← hSame]
      dsimp only [resultOf]
      split
      · rfl
      · rfl

/-- A process that is ready for gpg ends with gpg's result, or without gpg. -/
theorem process_of_ready {ready : Ready} {done : List Action}
    (hRun : prepareM crates world args [] = .ok ready done) (gpg : GpgRun) :
    ((process crates world args gpg).1 = done ∧
        ∃ message, (process crates world args gpg).2.result = .error message) ∨
      ((process crates world args gpg).1 = done ++ [.decrypts ready.sessionKey ready.path] ∧
        (process crates world args gpg).2.result = gpg.result) := by
  unfold process
  simp only [hRun]
  rcases gpgDecrypt_result ready args.output gpg with
    ⟨hNone, message, hResult⟩ | ⟨hStarted, hResult⟩
  · left
    simp only [hNone, Option.isSome_none, Bool.false_eq_true, if_false]
    split
    · exact ⟨rfl, message, hResult⟩
    · exact ⟨rfl, message, hResult⟩
  · right
    simp only [hStarted, if_true]
    split
    · exact ⟨rfl, hResult⟩
    · exact ⟨rfl, hResult⟩

theorem sessionKey_handOver {message : Bytes} {sessionKey : String} {ready : Ready}
    (hHand : handOver world args message sessionKey = .ok ready) :
    ready.sessionKey = sessionKey := by
  unfold handOver at hHand
  split at hHand
  · obtain ⟨files, -, hReady⟩ := bind_eq_ok_iff.mp hHand
    obtain rfl := Except.ok.inj hReady
    rfl
  · obtain rfl := Except.ok.inj hHand
    rfl

/-- How the process ends: as an error and without gpg, or with gpg's own result, after gpg
has been given the session key of an accepted answer. -/
theorem process_cases (gpg : GpgRun) :
    (∃ done result message, Story crates world args done result ∧
        (process crates world args gpg).1 = done ∧
        (process crates world args gpg).2.result = .error message) ∨
      ∃ examined asked signature sessionKey path,
        Accepts crates world args examined asked signature sessionKey ∧
        (process crates world args gpg).1 =
          plan args asked.payload signature ++ [.decrypts sessionKey path] ∧
        (process crates world args gpg).2.result = gpg.result := by
  have hStory := @story_prepareM crates world args
  cases hRun : prepareM crates world args [] with
  | error message done =>
      rw [hRun] at hStory
      left
      refine ⟨done, _, message, hStory, ?_, ?_⟩
      · unfold process
        rw [hRun]
      · unfold process
        rw [hRun]
  | ok ready done =>
      rw [hRun] at hStory
      rcases process_of_ready hRun gpg with ⟨hDone, message, hResult⟩ | ⟨hDone, hResult⟩
      · exact .inl ⟨done, _, message, hStory, hDone, hResult⟩
      · right
        -- only a run that has opened the answer is ready
        generalize hEnd : resultOf (EStateM.Result.ok ready done) = result at hStory
        cases hStory with
        | unread => cases hEnd
        | notFound => cases hEnd
        | unsigned => cases hEnd
        | refused => cases hEnd
        | opened hAccepts =>
            rw [← sessionKey_handOver hEnd.symm] at hAccepts
            exact ⟨_, _, _, _, _, hAccepts, hDone, hResult⟩

/-! ## What the actions of a run vouch for -/

/-- The actions of a run come in their order, and each of them is done for a reason. -/
structure InOrder (crates : Crates) (world : World) (args : Decrypt) (gpg : GpgRun)
    (done : List Action) (result : Except String Nat) : Prop where
  /-- Each action is done at most once, and none before the ones in front of it. -/
  ordered : ∃ payload signature sessionKey path,
    done <+: plan args payload signature ++ [.decrypts sessionKey path]
  /-- Nothing leaves the machine before the pinned key and the message have been read. -/
  fetched : done ≠ [] → ∃ examined, examine crates world args = .ok examined
  /-- There is no tap before the packet to ask for has been found. -/
  signed : ∀ argv payload, Action.signs argv payload ∈ done →
    ∃ examined asked, Finds crates world args examined asked ∧ asked.payload = payload
  /-- What is posted is the request that was signed. -/
  posted : ∀ url payload signature, Action.postsSessionKey url payload signature ∈ done →
    ∃ examined asked, Signs crates world args examined asked signature ∧ asked.payload = payload
  /-- gpg is given the session key of an accepted answer, and has the last word. -/
  handed : ∀ sessionKey path, Action.decrypts sessionKey path ∈ done →
    (∃ examined asked signature,
      Accepts crates world args examined asked signature sessionKey) ∧ result = gpg.result
  /-- The exit code is zero only when gpg was started and left with zero. -/
  succeeds : exitCode result = 0 → gpg.result = .ok 0 ∧
    ∃ sessionKey path, Action.decrypts sessionKey path ∈ done

/-- The exit code is zero only for a zero of gpg. -/
theorem exitCode_eq_zero_iff {result : Except String Nat} :
    exitCode result = 0 ↔ result = .ok 0 := by
  cases result with
  | error message => simp [exitCode]
  | ok code => simp [exitCode]

/-- A signed request that was posted, with or without gpg behind it. -/
theorem Signs.inOrder {examined : Examined} {asked : Asked} {signature : Bytes}
    (hSigns : Signs crates world args examined asked signature) {gpg : GpgRun}
    {last : List Action} {result : Except String Nat}
    (hLast : (last = [] ∧ exitCode result ≠ 0) ∨ ∃ sessionKey path,
      last = [.decrypts sessionKey path] ∧
        Accepts crates world args examined asked signature sessionKey ∧ result = gpg.result) :
    InOrder crates world args gpg (plan args asked.payload signature ++ last) result where
  ordered := by
    rcases hLast with ⟨rfl, -⟩ | ⟨sessionKey, path, rfl, -, -⟩
    · exact ⟨asked.payload, signature, "", [], by rw [List.append_nil]; exact ⟨_, rfl⟩⟩
    · exact ⟨asked.payload, signature, sessionKey, path, List.prefix_rfl⟩
  fetched _ := ⟨examined, hSigns.examines⟩
  signed argv payload hMem := by
    refine ⟨examined, asked, hSigns.toFinds, ?_⟩
    rcases hLast with ⟨rfl, -⟩ | ⟨sessionKey, path, rfl, -, -⟩
    · simp [plan] at hMem
      exact hMem.2.symm
    · simp [plan] at hMem
      exact hMem.2.symm
  posted url payload posted hMem := by
    have hSame : payload = asked.payload ∧ posted = signature := by
      rcases hLast with ⟨rfl, -⟩ | ⟨sessionKey, path, rfl, -, -⟩
      · simp [plan] at hMem
        exact hMem.2
      · simp [plan] at hMem
        exact hMem.2
    obtain ⟨rfl, rfl⟩ := hSame
    exact ⟨examined, asked, hSigns, rfl⟩
  handed sessionKey path hMem := by
    rcases hLast with ⟨rfl, -⟩ | ⟨given, file, rfl, hAccepts, hResult⟩
    · simp [plan] at hMem
    · simp [plan] at hMem
      obtain ⟨rfl, -⟩ := hMem
      exact ⟨⟨examined, asked, signature, hAccepts⟩, hResult⟩
  succeeds hZero := by
    rcases hLast with ⟨-, hFails⟩ | ⟨sessionKey, path, rfl, -, hResult⟩
    · exact absurd hZero hFails
    · rw [← hResult]
      exact ⟨exitCode_eq_zero_iff.mp hZero, sessionKey, path, by simp⟩

/-- A run that ends with an error before gpg. -/
theorem Story.inOrder {done : List Action} {result : Except String Ready}
    (hStory : Story crates world args done result) (gpg : GpgRun) (message : String) :
    InOrder crates world args gpg done (.error message) := by
  have hFails : exitCode (.error message) ≠ 0 := Nat.one_ne_zero
  cases hStory with
  | unread hExamine =>
      exact {
        ordered := ⟨"", [], "", [], List.nil_prefix⟩
        fetched := fun hDone => absurd rfl hDone
        signed := fun _ _ hMem => by cases hMem
        posted := fun _ _ _ hMem => by cases hMem
        handed := fun _ _ hMem => by cases hMem
        succeeds := fun hZero => absurd hZero hFails }
  | notFound hExamine hNone =>
      exact {
        ordered := ⟨"", [], "", [], ⟨_, rfl⟩⟩
        fetched := fun _ => ⟨_, hExamine⟩
        signed := fun _ _ hMem => by simp at hMem
        posted := fun _ _ _ hMem => by simp at hMem
        handed := fun _ _ hMem => by simp at hMem
        succeeds := fun hZero => absurd hZero hFails }
  | @unsigned examined asked _ hFinds hSign =>
      exact {
        ordered := ⟨asked.payload, [], "", [], ⟨_, rfl⟩⟩
        fetched := fun _ => ⟨_, hFinds.examines⟩
        signed := fun _ _ hMem => ⟨_, _, hFinds, by simp [plan] at hMem; exact hMem.2.symm⟩
        posted := fun _ _ _ hMem => by simp [plan] at hMem
        handed := fun _ _ hMem => by simp [plan] at hMem
        succeeds := fun hZero => absurd hZero hFails }
  | @refused examined asked signature _ hSigns hNone =>
      rw [← List.append_nil (plan args asked.payload signature)]
      exact hSigns.inOrder (.inl ⟨rfl, hFails⟩)
  | @opened examined asked signature sessionKey hAccepts =>
      rw [← List.append_nil (plan args asked.payload signature)]
      exact hAccepts.toSigns.inOrder (.inl ⟨rfl, hFails⟩)

/-- Every run of the client does what `decrypt` does, in order: it fetches the app's key,
has the request signed, posts it, and starts gpg, each at most once and none of them without
the reason to. -/
theorem run_in_order (crates : Crates) (world : World) (args : Decrypt) (gpg : GpgRun) :
    (process crates world args gpg).2 = decrypt crates world args gpg ∧
      InOrder crates world args gpg (process crates world args gpg).1
        (decrypt crates world args gpg).result := by
  refine ⟨process_outcome gpg, ?_⟩
  rw [← process_outcome gpg]
  rcases process_cases gpg with ⟨done, result, message, hStory, hDone, hResult⟩ |
    ⟨examined, asked, signature, sessionKey, path, hAccepts, hDone, hResult⟩
  · rw [hDone, hResult]
    exact hStory.inOrder gpg message
  · rw [hDone]
    exact hAccepts.toSigns.inOrder (.inr ⟨sessionKey, path, rfl, hAccepts, hResult⟩)

end Client
end TvcGpg
