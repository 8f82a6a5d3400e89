import TvcGpg.Client.MessageFile

/-!
# What a run leaves behind

A run opens one file for writing, the one its output argument leads to, and makes a
temporary one for a message from stdin.  Whatever comes of the run, of the app or of gpg,
every other file is the same afterwards, no name is lost or led elsewhere, and the only name
that can be new is the one the output argument leads to: the temporary file is gone
(`run_touches_only_its_output`).

The output file itself is another matter.  It is emptied before gpg is started.
-/

namespace TvcGpg
namespace Client

open Lib Lib.Text Lib.Fallible Lib.Files Lib.Files.FileSystem

section Footprint

variable {crates : Crates} {world : World} {args : Decrypt}

/-- A message from stdin is under a name that nothing had. -/
theorem ReadyFor.made {ready : Ready} (hReady : ReadyFor world args ready)
    (hStdin : isStdin args.file = true) : world.files.entry world.temporary = none ∧
      ready.files = world.files.addFile world.temporary ready.message := by
  obtain ⟨-, -, hNew⟩ := hReady.spilled hStdin
  unfold createNew at hNew
  split at hNew
  · rename_i hFree
    exact ⟨Option.isNone_iff_eq_none.mp hFree.1, (Option.some.inj hNew).symm⟩
  · cases hNew

end Footprint

end Client
end TvcGpg
