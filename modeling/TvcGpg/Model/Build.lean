import Mathlib.Data.List.Sort
import TvcGpg.Lib.Fallible
import TvcGpg.Lib.Text

/-!
# The build script

`build.rs`: the armored keys in the allowlist directory are joined into one file,
which the enclave binary embeds.  A directory entry is its name, as bytes, with
what reading the file gives; the lines the script prints for cargo are left out.
-/

namespace TvcGpg

open Lib Lib.Text Lib.Fallible

/-- Directory that holds the armored engineer keys, relative to the crate. -/
def allowlistDir : String := "../../allowlist"

/-- `Path::extension` of a file name: what follows its last dot, unless that dot is
its first byte. -/
def extension (name : Bytes) : Option Bytes :=
  let stem := name.rdropWhile fun byte => byte ≠ 0x2E
  if name = [0x2E, 0x2E] ∨ stem.length ≤ 1 then none
  else some (name.rtakeWhile fun byte => byte ≠ 0x2E)

/-- A file of the allowlist directory. -/
structure DirEntry where
  name : Bytes
  /-- The name as `Path::display` shows it. -/
  shown : String
  /-- What the file holds, `none` when it cannot be read. -/
  contents : Option Bytes
  deriving DecidableEq, Repr

/-- Whether the script takes a file for an armored key. -/
def DirEntry.isAsc (entry : DirEntry) : Bool :=
  (extension entry.name).any fun ext => ext = asBytes "asc"

/-- The armored keys among the entries, sorted by their names. -/
def ascFiles (entries : List DirEntry) : List DirEntry :=
  (entries.filter DirEntry.isAsc).insertionSort fun a b => a.name ≤ b.name

/-- One round of the loop over the files. -/
def joinFile (joined : String) (file : DirEntry) : Except String String := do
  let text ← okOr (file.contents.bind fromUtf8)
    s!"cannot read allowlist key {allowlistDir}/{file.shown}"
  return joined ++ trimEnd text ++ "\n"

/-- The text of the joined file.  The listing is what `read_dir` gives: `none` when it
fails, and within it `none` for an entry that cannot be read. -/
def joinAllowlist (listing : Option (List (Option DirEntry))) : Except String String := do
  let entries ← okOr listing s!"allowlist directory {allowlistDir} is missing"
  let entries ← entries.mapM fun entry =>
    okOr entry s!"cannot read an entry in {allowlistDir}"
  let files := ascFiles entries
  require (¬ files.isEmpty)
    (s!"allowlist directory {allowlistDir} holds no .asc files, " ++
      "copy the team keys from tkhq/keys first")
  files.foldlM joinFile ""

/-- What the script finds when it runs. -/
structure BuildEnv where
  listing : Option (List (Option DirEntry))
  /-- The variable `OUT_DIR`. -/
  outDir : Option String
  /-- Whether `allowlist.asc` can be written there. -/
  canWrite : Bool

/-- The build script: the text it writes to `allowlist.asc`, or its message. -/
def buildMain (env : BuildEnv) : Except String String := do
  let joined ← joinAllowlist env.listing
  let outDir ← okOr env.outDir "OUT_DIR is not set"
  require (env.canWrite = true) s!"cannot write {outDir}/allowlist.asc"
  return joined

end TvcGpg
