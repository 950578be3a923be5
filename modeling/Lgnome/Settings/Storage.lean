import Lgnome.Settings.RoundTrip

/-!
# Settings on disk

`native_config_storage.c` with the directory checks of `config_paths.c`, over a file
system that may be in any state and may fail any call. The candidates are those that were
collected, in priority order; each names its own file.
-/
namespace Lgnome.Settings

open Lgnome.Bytes

/-- What is asked of the file system at one candidate, and the buffers that its path has to
fit. -/
inductive Call
  | parentDir | mkdir | stat | lstat | chmod
  | joinTest | fopenTest | fputcTest | fcloseTest | removeTest
  | openFile | fstatFile | fdopenFile | fseek | ftell | calloc | fread
  | tmpName | openDir | fstatDir | unlinkat | openat | fdopenTmp | write | ftellTmp | fflush
  | fsync | fclose | renameat | fsyncDir
  deriving DecidableEq, Repr

/-- A directory is owned by us or not, and may be open to other writers. -/
inductive DirState
  | absent
  | directory (owned loose : Bool)
  | link
  | notDirectory
  deriving DecidableEq, Repr

/-- A private file is owned by us and nobody else may write it. -/
inductive FileState
  | absent
  | regular (contents : List UInt8) (isPrivate : Bool)
  deriving DecidableEq, Repr

/-- A directory that is there says nothing about its files. -/
theorem FileState.housed_of_directory {owned loose temporary : Bool} {file : FileState}
    (h : DirState.directory owned loose = .absent) : file = .absent ∧ temporary = false := by
  cases h

/-- One candidate path with what the file system has there. `failing` are the calls that
fail at it; a directory that is missing has no file in it. -/
structure Candidate where
  fromEnv : Bool
  dir : DirState
  file : FileState
  temporary : Bool
  failing : List Call
  housed : dir = .absent → file = .absent ∧ temporary = false

namespace Candidate

def fails (c : Candidate) (call : Call) : Bool := call ∈ c.failing

/-- A directory of mode 0700 that we own. -/
def privateDir (c : Candidate) : Candidate :=
  { c with
    dir := .directory true false
    housed := fun h => by cases h }

/-! ## Directories -/

/-- `native_config_mkdir_p`. -/
def mkdirP (c : Candidate) : Bool × Candidate :=
  if c.fails .mkdir then (false, c)
  else
    match c.dir with
    | .absent => (!c.fails .stat, c.privateDir)
    | .directory _ _ => (!c.fails .stat, c)
    | .link => (!c.fails .stat, c)
    | .notDirectory => (false, c)

/-- `native_config_dir_is_secure`. -/
def dirIsSecure (c : Candidate) : Bool :=
  !c.fails .lstat && c.dir == .directory true false

/-- `native_config_dir_secure_or_heal`. -/
def dirSecureOrHeal (c : Candidate) : Bool × Candidate :=
  if c.dirIsSecure then (true, c)
  else if c.fails .lstat then (false, c)
  else
    match c.dir with
    | .directory true _ =>
      if c.fails .chmod then (false, c) else (c.privateDir.dirIsSecure, c.privateDir)
    | _ => (false, c)

/-- `native_config_dir_writable`. -/
def dirWritable (c : Candidate) : Bool × Candidate :=
  match c.mkdirP with
  | (false, c) => (false, c)
  | (true, c) =>
    match c.dirSecureOrHeal with
    | (false, c) => (false, c)
    | (true, c) =>
      if c.fails .joinTest ∨ c.fails .fopenTest then (false, c)
      else (!c.fails .fputcTest && !c.fails .fcloseTest && !c.fails .removeTest, c)

/-- `native_config_persisted_path_writable`. -/
def persistedPathWritable (c : Candidate) : Bool × Candidate :=
  if c.fails .parentDir then (false, c) else c.dirWritable

/-! ## Reading -/

inductive ReadResult
  | missing
  | failed
  | text (json : List UInt8)
  deriving DecidableEq, Repr

/-- `native_config_read_file`. -/
def readFile (c : Candidate) (privateFile : Bool) : ReadResult :=
  if c.fails .openFile then .failed
  else
    match c.file with
    | .absent => .missing
    | .regular contents isPrivate =>
      if privateFile ∧ (c.fails .fstatFile ∨ ¬isPrivate) then .failed
      else if c.fails .fdopenFile then .failed
      else if c.fails .fseek then .failed
      else if c.fails .ftell ∨ maxFile < contents.length then .failed
      else if c.fails .calloc then .failed
      else if c.fails .fread ∨ 0 ∈ contents then .failed
      else .text contents

inductive LoadOutcome
  | missing
  | invalid
  | ok (settings : NativeSettings)

/-- `native_config_try_load_candidate`. -/
def tryLoad (settings : NativeSettings) (c : Candidate) (privateFile : Bool) : LoadOutcome :=
  match c.readFile privateFile with
  | .missing => .missing
  | .failed => .invalid
  | .text json =>
    match applyJson settings json with
    | .ok updated => .ok updated
    | _ => .invalid

/-- Both loops pass over a discovered candidate whose directory is not private. -/
def trusted (c : Candidate) : Bool × Candidate :=
  if c.fromEnv then (true, c)
  else if c.fails .parentDir then (false, c)
  else c.dirSecureOrHeal

/-! ## Writing -/

/-- Whether a save reported success, and whether it got past its rename. -/
structure SaveResult where
  ok : Bool
  renamed : Bool
  deriving DecidableEq, Repr

def SaveResult.failed : SaveResult where
  ok := false
  renamed := false

/-- The temporary file after an `unlinkat` that nobody checks. -/
def unlinkTemporary (c : Candidate) : Candidate :=
  { c with
    temporary := c.temporary && c.fails .unlinkat
    housed := fun h => ⟨(c.housed h).1, by rw [(c.housed h).2]; rfl⟩ }

/-- What is in the directory once the temporary file is there. -/
def withTemporary (c : Candidate) (h : c.dir = .directory true false) : Candidate :=
  { c with
    temporary := true
    housed := fun habsent => by rw [h] at habsent; cases habsent }

/-- The rename puts the temporary file in the place of the old one. -/
def renamed (c : Candidate) (contents : List UInt8) (h : c.dir = .directory true false) :
    Candidate :=
  { c with
    file := .regular contents true
    temporary := false
    housed := fun habsent => by rw [h] at habsent; cases habsent }

/-- `native_settings_save_file_checked` with a private directory. -/
def saveFileChecked (settings : NativeSettings) (c : Candidate) : SaveResult × Candidate :=
  if c.fails .parentDir ∨ c.fails .tmpName then (.failed, c)
  else if c.fails .openDir ∨ c.fails .fstatDir then (.failed, c)
  else if h : c.dir = .directory true false then
    if c.fails .openat ∨ c.unlinkTemporary.temporary then (.failed, c.unlinkTemporary)
    else if c.fails .fdopenTmp then (.failed, (c.withTemporary h).unlinkTemporary)
    else
      let ok := !c.fails .write
      let ok := ok && !(c.fails .ftellTmp || decide (maxFile < (writeJson settings).length))
      let ok := ok && !(c.fails .fflush || c.fails .fsync)
      let ok := ok && !c.fails .fclose
      if ok && !c.fails .renameat then
        (⟨!c.fails .fsyncDir, true⟩, c.renamed (writeJson settings) h)
      else (.failed, (c.withTemporary h).unlinkTemporary)
  else (.failed, c)

end Candidate

open Candidate

/-! ## The candidates in their order -/

/-- The loop of `native_config_load_persisted`. -/
def loadCandidates (settings : NativeSettings) : List Candidate → NativeSettings × List Candidate
  | [] => (settings, [])
  | c :: rest =>
    let (usable, c) := c.trusted
    match usable, tryLoad settings c (!c.fromEnv) with
    | true, .ok updated => (updated, c :: rest)
    | _, _ =>
      let (loaded, rest) := loadCandidates settings rest
      (loaded, c :: rest)

/-- `native_config_load_persisted`: whether it succeeds, and the settings it leaves. -/
def loadPersisted (settings : NativeSettings) (ignore : Bool) (candidates : List Candidate) :
    (Bool × NativeSettings) × List Candidate :=
  if ignore then ((true, settings), candidates)
  else
    let (loaded, candidates) := loadCandidates settings candidates
    ((true, loaded), candidates)

/-- `native_config_find_persisted_save_candidate`; `index` counts the candidates before. -/
def findSaveCandidate (index : Nat) : List Candidate → Option Nat × List Candidate
  | [] => (none, [])
  | c :: rest =>
    match c.persistedPathWritable with
    | (true, c) => (some index, c :: rest)
    | (false, c) =>
      let (found, rest) := findSaveCandidate (index + 1) rest
      (found, c :: rest)

/-- The loop of `native_config_save_persisted`: a candidate before the one to save to must
not load. -/
def checkLoaded (settings : NativeSettings) (saveIndex index : Nat) :
    List Candidate → Bool × List Candidate
  | [] => (true, [])
  | c :: rest =>
    let (usable, c) := c.trusted
    match usable, tryLoad settings c (!c.fromEnv) with
    | true, .ok _ => (!decide (index < saveIndex), c :: rest)
    | _, _ =>
      let (ok, rest) := checkLoaded settings saveIndex (index + 1) rest
      (ok, c :: rest)

/-- `native_config_save_persisted`. -/
def savePersisted (settings : NativeSettings) (candidates : List Candidate) :
    SaveResult × List Candidate :=
  match findSaveCandidate 0 candidates with
  | (none, candidates) => (.failed, candidates)
  | (some saveIndex, candidates) =>
    match checkLoaded settings saveIndex 0 candidates with
    | (false, candidates) => (.failed, candidates)
    | (true, candidates) =>
      match candidates[saveIndex]? with
      | none => (.failed, candidates)
      | some c =>
        let (result, c) := saveFileChecked settings c
        (result, candidates.set saveIndex c)

end Lgnome.Settings
