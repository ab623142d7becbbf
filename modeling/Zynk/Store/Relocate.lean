import Zynk.Lib.FileSystem
import Zynk.Lib.Script
import Zynk.Lib.Text

/-!
# Moving a foreign database aside

`zynk db adopt` moves a database that is not zynk's own, with its sidecars, into a directory beside
it, the slot. `relocateBundleWith` is the whole of it, as a script of the system calls it makes :
it looks for a free slot, plans which members of the bundle there are, makes the slot, moves the
members one by one, and then verifies what is in the slot and what is left at the source. On any
failure it moves back what it has moved, and lists what it could not move back.

`act` is what a system call does. An event says whether it fails, and what it makes up : the
identity of a new directory, a generated id. A call that fails changes nothing.

A `FilePath` is the list of the names between its slashes, with no slash at its end.
-/

namespace Zynk.Cutover

open Script

/-! ## Names -/

/-- `path.as_os_str()` with more behind it. -/
def pushSuffix (path : FilePath) (suffix : String) : FilePath :=
  path.dropLast ++ [path.getLastD "" ++ suffix]

def sidecar (path : FilePath) (ext : String) : FilePath :=
  pushSuffix path ext

/-- The last name, if it is the name of a file. -/
def fileName (path : FilePath) : Option String :=
  path.getLast?.filter fun name => name ∉ ["", ".", ".."]

def backupSuffix : String :=
  "wrapper-backup"

def maxBackupSlots : ℕ :=
  10000

def bundleSuffixes : List String :=
  ["-journal", "-wal", "-shm"]

/-- A name for the backup. -/
def backupCandidate (path : FilePath) (n : String) : FilePath :=
  pushSuffix path s!".{backupSuffix}-{n}"

/-- Characters that do not reach a terminal as they are, beside the control characters. -/
def hostileRanges : List (ℕ × ℕ) :=
  [(0x00AD, 0x00AD), (0x0600, 0x0605), (0x061C, 0x061C), (0x06DD, 0x06DD), (0x070F, 0x070F),
    (0x0890, 0x0891), (0x08E2, 0x08E2), (0x180E, 0x180E), (0x200B, 0x200F), (0x2028, 0x202E),
    (0x2060, 0x2064), (0x2066, 0x206F), (0xFEFF, 0xFEFF), (0xFFF9, 0xFFFB), (0x110BD, 0x110BD),
    (0x110CD, 0x110CD), (0x13430, 0x1343F), (0x1BCA0, 0x1BCA3), (0x1D173, 0x1D17A),
    (0xE0001, 0xE0001), (0xE0020, 0xE007F)]

def isTerminalHostile (c : Char) : Bool :=
  Text.isControl c || hostileRanges.any fun range => range.1 ≤ c.toNat && c.toNat ≤ range.2

def escapeDefault (c : Char) : String :=
  if c = '\t' then "\\t"
  else if c = '\r' then "\\r"
  else if c = '\n' then "\\n"
  else if c = '\'' ∨ c = '"' ∨ c = '\\' then "\\" ++ String.singleton c
  else if 0x20 ≤ c.toNat ∧ c.toNat ≤ 0x7E then String.singleton c
  else "\\u\x7b" ++ String.ofList (Nat.toDigits 16 c.toNat) ++ "\x7d"

def printableName (name : String) : String :=
  String.join (name.toList.map fun c =>
    if isTerminalHostile c then escapeDefault c else String.singleton c)

def display (path : FilePath) : String :=
  if path = [""] then "/" else "/".intercalate path

def printablePath (path : FilePath) : String :=
  printableName (display path)

/-! ## System calls -/

inductive FsOp
  /-- `inspect.entry`. -/
  | entry (path : FilePath)
  /-- `entry_identity`. -/
  | identity (path : FilePath)
  | mkdir (path : FilePath)
  /-- `RENAME_NOREPLACE`. -/
  | rename (src dst : FilePath)
  /-- `inspect.list`. -/
  | list (dir : FilePath)
  | rmdir (dir : FilePath)
  | newPrefixedId (pre : String)
deriving DecidableEq

def FsOp.Res : FsOp → Type
  | .entry _ => Except IoError Bool
  | .identity _ => Option FileIdentity
  | .mkdir _ => Except IoError Unit
  | .rename .. => Except IoError Unit
  | .list _ => Except IoError (List FilePath)
  | .rmdir _ => Except IoError Unit
  | .newPrefixedId _ => String

/-- What is chosen outside of a call. -/
structure FsEvent where
  /-- The call fails. -/
  fault : Option IoError := none
  /-- The identity of a directory that is made. -/
  identity : FileIdentity := (0, 0)
  /-- An id that is generated. -/
  id : String := ""

def symlinkMetadata (fault : Option IoError) (fs : FileSystem) (path : FilePath) :
    Except IoError FileEntry :=
  match fault, fs.lookup path with
  | some err, _ => .error err
  | none, none => .error .noEntry
  | none, some e => .ok e

/-- Only `NotFound` is absent. -/
def entryPresent : Except IoError FileEntry → Except IoError Bool
  | .ok _ => .ok true
  | .error err => if err.kind = .notFound then .ok false else .error err

def entryIdentity : Except IoError FileEntry → Option FileIdentity
  | .ok e => some e.identity
  | .error _ => none

theorem entryIdentity_symlinkMetadata (fault : Option IoError) (fs : FileSystem) (path : FilePath) :
    entryIdentity (symlinkMetadata fault fs path) =
      if fault.isSome then none else (fs.lookup path).map (·.identity) := by
  unfold symlinkMetadata entryIdentity
  rcases fault with _ | err
  · cases fs.lookup path <;> rfl
  · rfl

/-- What a change gives. -/
def changed (fault : Option IoError) (fs : FileSystem) (change : Except IoError FileSystem) :
    Except IoError Unit × FileSystem :=
  match fault, change with
  | some err, _ => (.error err, fs)
  | none, .error err => (.error err, fs)
  | none, .ok fs' => (.ok (), fs')

def act (e : FsEvent) (fs : FileSystem) : (op : FsOp) → op.Res × FileSystem
  | .entry path => (entryPresent (symlinkMetadata e.fault fs path), fs)
  | .identity path => (entryIdentity (symlinkMetadata e.fault fs path), fs)
  | .mkdir path => changed e.fault fs (fs.mkdir path e.identity)
  | .rename src dst => changed e.fault fs (fs.rename src dst)
  | .list dir => ((match e.fault with
      | some err => .error err
      | none => .ok (fs.children dir)), fs)
  | .rmdir dir => changed e.fault fs (fs.rmdir dir)
  | .newPrefixedId pre => (pre ++ "_" ++ e.id, fs)

/-- `NotFound` is no failure of an inspection : it is how the absence of an entry is told. -/
def FaultAllowed (e : FsEvent) : FsOp → Prop
  | .entry _ => ∀ err ∈ e.fault, err.kind ≠ .notFound
  | _ => True

instance (e : FsEvent) : (op : FsOp) → Decidable (FaultAllowed e op)
  | .entry _ => inferInstanceAs (Decidable (∀ err ∈ e.fault, err.kind ≠ .notFound))
  | .identity _ => isTrue trivial
  | .mkdir _ => isTrue trivial
  | .rename .. => isTrue trivial
  | .list _ => isTrue trivial
  | .rmdir _ => isTrue trivial
  | .newPrefixedId _ => isTrue trivial

theorem faultAllowed_of_none {e : FsEvent} (h : e.fault = none) (op : FsOp) :
    FaultAllowed e op := by
  cases op <;> simp [FaultAllowed, h]

abbrev FsScript := Script FsOp FsOp.Res

def inspectEntry (path : FilePath) : FsScript (Except IoError Bool) :=
  perform (FsOp.entry path)

def readIdentity (path : FilePath) : FsScript (Option FileIdentity) :=
  perform (FsOp.identity path)

def createPrivateDir (slot : FilePath) : FsScript (Except IoError Unit) :=
  perform (FsOp.mkdir slot)

def atomicRenameNoreplace (src dst : FilePath) : FsScript (Except IoError Unit) :=
  perform (FsOp.rename src dst)

def listDir (dir : FilePath) : FsScript (Except IoError (List FilePath)) :=
  perform (FsOp.list dir)

def removeDir (dir : FilePath) : FsScript (Except IoError Unit) :=
  perform (FsOp.rmdir dir)

def newPrefixedId (pre : String) : FsScript String :=
  perform (FsOp.newPrefixedId pre)

/-! ## The relocation -/

structure RelocateOutcome where
  movedFrom : FilePath
  movedTo : FilePath
  /-- The members that moved, as suffixes. -/
  members : List String

/-- An error, in the parts its text is made of. -/
inductive RelocateError
  | refused (text : String)
  /-- Each member that was not moved back, with the reason. -/
  | failed (failure : String) (slot : FilePath) (notRestored : List (FilePath × String))

/-- The text of an error. -/
def RelocateError.message : RelocateError → String
  | .refused text => text
  | .failed failure slot notRestored =>
    s!"zynk: {failure}; nothing was relocated" ++
      if notRestored.isEmpty then ""
      else s!" — WARNING: these members could not be moved back and now live under " ++
        printablePath slot ++ ": " ++
        ", ".intercalate (notRestored.map fun m => printablePath m.1 ++ " (" ++ m.2 ++ ")")

/-- The members that the error lists as not moved back. -/
def RelocateError.listed : RelocateError → List FilePath
  | .refused _ => []
  | .failed _ _ notRestored => notRestored.map (·.1)

def present (path : FilePath) : FsScript (Except String Bool) := do
  match ← inspectEntry path with
  | .ok here => return .ok here
  | .error err =>
    return .error s!"zynk: cannot inspect {printablePath path}: {err.text}; nothing was relocated"

/-- Look at the next `left` candidates. -/
def nextBackupFrom (path : FilePath) (n : ℕ) : ℕ → FsScript (Except String FilePath)
  | 0 => do
    let id ← newPrefixedId "n"
    return .ok (backupCandidate path id)
  | left + 1 => do
    match ← present (backupCandidate path (toString n)) with
    | .error err => return .error err
    | .ok true => nextBackupFrom path (n + 1) left
    | .ok false => return .ok (backupCandidate path (toString n))

def nextBackupPathWith (path : FilePath) : FsScript (Except String FilePath) :=
  nextBackupFrom path 0 maxBackupSlots

structure PlannedMove where
  src : FilePath
  dst : FilePath
  suffix : String

/-- The sidecars that there are. -/
def planSidecars (path slot : FilePath) (name : String) (plan : List PlannedMove) :
    List String → FsScript (Except String (List PlannedMove))
  | [] => return .ok plan
  | suffix :: suffixes => do
    match ← present (sidecar path suffix) with
    | .error err => return .error err
    | .ok true =>
      planSidecars path slot name
        (plan ++ [⟨sidecar path suffix, slot ++ [name ++ suffix], suffix⟩]) suffixes
    | .ok false => planSidecars path slot name plan suffixes

/-- The sidecars first, the main file last. -/
def planBundle (path slot : FilePath) (name : String) :
    FsScript (Except String (List PlannedMove)) := do
  match ← planSidecars path slot name [] bundleSuffixes with
  | .error err => return .error err
  | .ok plan =>
    match ← present path with
    | .error err => return .error err
    | .ok true => return .ok (plan ++ [⟨path, slot ++ [name ++ ""], ""⟩])
    | .ok false => return .ok plan

def enosys : ℕ := 38

def enotsup : ℕ := 95

def exdev : ℕ := 18

def primitiveUnavailable (err : IoError) : Bool :=
  err.kind = .unsupported || err.kind = .invalidInput ||
    err.rawOsError.any (· ∈ [enosys, enotsup, exdev])

/-- The error of `move_no_replace_with`. -/
def moveError (err : IoError) : IoError :=
  if err.kind = .alreadyExists then err
  else if primitiveUnavailable err then
    ⟨.unsupported, none, s!"no atomic no-replace move is available on this filesystem " ++
      s!"({err.text}); move the bundle aside manually"⟩
  else err

/-- `mover`. -/
def moveNoReplace (src dst : FilePath) : FsScript (Except String Unit) := do
  match ← atomicRenameNoreplace src dst with
  | .ok () => return .ok ()
  | .error err => return .error (moveError err).text

/-- A member that has moved, with the identity it had before. -/
structure Moved where
  src : FilePath
  dst : FilePath
  before : FileIdentity

/-- Move the members, up to the first failure. -/
def moveMembers (moved : List Moved) : List PlannedMove → FsScript (List Moved × Option String)
  | [] => return (moved, none)
  | m :: plan => do
    match ← readIdentity m.src with
    | none =>
      return (moved,
        some s!"could not read the identity of {printablePath m.src} before moving it")
    | some before =>
      match ← moveNoReplace m.src m.dst with
      | .error err =>
        return (moved,
          some s!"could not move {printablePath m.src} -> {printablePath m.dst}: {err}")
      | .ok () => moveMembers (moved ++ [⟨m.src, m.dst, before⟩]) plan

/-- The members in the slot that are not known to be those that were moved there. -/
def displacedMembers (displaced : List FilePath) : List Moved → FsScript (List FilePath)
  | [] => return displaced
  | m :: moved => do
    let identity ← readIdentity m.dst
    displacedMembers (if identity = some m.before then displaced else displaced ++ [m.dst]) moved

def unexpectedSlotEntry (slot : FilePath) (moved : List Moved) :
    FsScript (Except IoError (Option FilePath)) := do
  match ← listDir slot with
  | .error err => return .error err
  | .ok names => return .ok (names.find? fun path => !moved.any fun m => m.dst = path)

/-- Why the slot does not hold exactly the members that moved. -/
def verifySlot (slot : FilePath) (moved : List Moved) : FsScript (Option String) := do
  match ← unexpectedSlotEntry slot moved with
  | .ok none => return none
  | .ok (some unexpected) =>
    return some ("an entry that is not a bundle member appeared in the backup slot: " ++
      printablePath unexpected)
  | .error err =>
    return some (s!"the backup slot {printablePath slot} could not be verified after the move " ++
      s!"({err.text})")

/-- Why the source is not known to hold no member. -/
def rescanSource (path : FilePath) : List String → FsScript (Option String)
  | [] => return none
  | suffix :: suffixes => do
    match ← present (sidecar path suffix) with
    | .ok false => rescanSource path suffixes
    | .ok true =>
      return some ("a bundle member is present at the source after the move (" ++
        printablePath (sidecar path suffix) ++ "); the bundle is not complete in the backup")
    | .error err => return some err

def custodyText (displaced : List FilePath) : String :=
  "a member of the backup slot is missing, was replaced by another writer, or could not be " ++
    "identified after it was moved (" ++ ", ".intercalate (displaced.map printablePath) ++
    "); its original bytes are not known to be in the backup (a replaced member's bytes were " ++
    "displaced by that writer; an unreadable identity is an I/O condition, not proof of a writer)"

/-- A check that is made if nothing has failed. -/
def checkUnlessFailed (check : FsScript (Option String)) :
    Option String → FsScript (Option String)
  | some failure => return some failure
  | none => check

/-- The failure, with the members that are displaced. -/
def withCustody (displaced : List FilePath) (failure : Option String) : Option String :=
  if displaced.isEmpty then failure
  else match failure with
    | some other => some s!"{other}; {custodyText displaced}"
    | none => some (custodyText displaced)

/-- What is found after the moves : the members that are displaced, and why the relocation has
failed, if it has. -/
def verifyRelocation (path slot : FilePath) (moved : List Moved) (failure : Option String) :
    FsScript (List FilePath × Option String) := do
  let displaced ← displacedMembers [] moved
  let failure ← checkUnlessFailed (verifySlot slot moved) failure
  let failure ← checkUnlessFailed (rescanSource path (bundleSuffixes ++ [""])) failure
  return (displaced, withCustody displaced failure)

/-- Move the members back, and collect those that stay. -/
def rollBack (displaced : List FilePath) (notRestored : List (FilePath × String)) :
    List Moved → FsScript (List (FilePath × String))
  | [] => return notRestored
  | m :: moved => do
    if m.dst ∈ displaced then
      rollBack displaced
        (notRestored ++ [(m.src, "missing or replaced by another writer; not moved back")]) moved
    else
      match ← moveNoReplace m.dst m.src with
      | .ok () => rollBack displaced notRestored moved
      | .error err => rollBack displaced (notRestored ++ [(m.src, err)]) moved

/-- Take the relocation back. -/
def undoRelocation (slot : FilePath) (moved : List Moved) (displaced : List FilePath)
    (failure : String) : FsScript (Except RelocateError RelocateOutcome) := do
  let notRestored ← rollBack displaced [] moved.reverse
  if notRestored.isEmpty then
    let _ ← removeDir slot
  return .error (.failed failure slot notRestored)

/-- Move the members of the plan into the slot, which has just been made. -/
def relocateInto (path slot : FilePath) (plan : List PlannedMove) :
    FsScript (Except RelocateError RelocateOutcome) := do
  let (moved, failure) ← moveMembers [] plan
  let (displaced, failure) ← verifyRelocation path slot moved failure
  match failure with
  | none => return .ok ⟨path, slot, plan.map (·.suffix)⟩
  | some failure => undoRelocation slot moved displaced failure

/-- Make the slot. -/
def relocatePlan (path slot : FilePath) (plan : List PlannedMove) :
    FsScript (Except RelocateError RelocateOutcome) := do
  match ← createPrivateDir slot with
  | .error err =>
    return .error (.refused (s!"zynk: refusing to use backup slot {printablePath slot}: " ++
      s!"{err.text}; nothing was relocated"))
  | .ok () => relocateInto path slot plan

def relocateBundleWith (path : FilePath) : FsScript (Except RelocateError RelocateOutcome) := do
  match ← nextBackupPathWith path with
  | .error err => return .error (.refused err)
  | .ok slot =>
    match fileName path with
    | none =>
      return .error (.refused s!"zynk: cannot relocate {printablePath path}: not a file path")
    | some name =>
      match ← planBundle path slot name with
      | .error err => return .error (.refused err)
      | .ok plan =>
        if plan.isEmpty then
          return .error (.refused
            s!"zynk: nothing to relocate — no database at {printablePath path}")
        else relocatePlan path slot plan

end Zynk.Cutover
