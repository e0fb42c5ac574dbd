import SqlAssembly.Fault
import SqlAssembly.Text.Path

/-!
# Storage

The directories and files that the journal finds and makes.  A place in storage
is a path without detours: from a root or from the working directory, first up
by double points and then down.  `walk` goes a path part by part and ends at
the place that it leads to; it fails at the first part that is missing, is no
directory or has too long a name.

To make a directory is to make those above it that are missing, each in its
turn, and to be content with one that is there.  A directory that was made stays
when a later one cannot be made.

A path is measured in octets, a name in it as well.
-/

namespace SqlAssembly

/-- What is at a place. -/
inductive Entry
  | directory
  | file
  /-- A directory in which nothing can be made, and why. -/
  | barren (refusal : Refusal)
  deriving DecidableEq, Repr, Inhabited

/-- Directories and files, and the lines of the files that the journal writes. -/
structure Storage where
  /-- What is at the places that are known. -/
  entries : List (Path × Entry)
  /-- The files that the journal writes, with their lines, oldest first. -/
  files : List (Path × List String)
  deriving DecidableEq, Repr, Inhabited

/-- The path without its last part. -/
def Path.parent (p : Path) : Path := ⟨p.root, p.parts.dropLast⟩

/-- The path with a part more. -/
def Path.child (p : Path) (name : String) : Path := ⟨p.root, p.parts ++ [name]⟩

namespace Storage

/-- A storage with entries and no file of the journal. -/
def ofEntries (entries : List (Path × Entry)) : Storage := ⟨entries, []⟩

/-- The octets that a name may have. -/
def nameLimit : Nat := 255

/-- The octets that no path may have. -/
def pathLimit : Nat := 4096

/-! ## Places -/

/-- The place above a place; nothing is above a root. -/
def above (place : Path) : Path :=
  match place.parts.getLast? with
  | some name => if name = ".." then place.child ".." else place.parent
  | none => if place.isAbsolute then place else place.child ".."

/-- The place at which a path starts. -/
def start (p : Path) : Path := if p.isAbsolute then ⟨.single, []⟩ else ⟨.relative, []⟩

/-- What is at a place; the working directory, those above it and the root are directories. -/
def entry? (storage : Storage) (place : Path) : Option Entry :=
  if place.parts.all (· == "..") then some .directory
  else if storage.files.any (·.1 == place) then some .file
  else storage.entries.lookup place

/-- The place one part further, which has to be there. -/
def enter (storage : Storage) (place : Path) (name : String) : Except Refusal Path :=
  if storage.entry? place = some .file then .error .notDirectory
  else if nameLimit < name.utf8ByteSize then .error .nameTooLong
  else if name = ".." then .ok (above place)
  else match storage.entry? (place.child name) with
    | some _ => .ok (place.child name)
    | none => .error .missing

/-- The place that a path leads to. -/
def walk (storage : Storage) (p : Path) : Except Refusal Path :=
  p.parts.foldlM storage.enter (start p)

/-- Why it cannot even be asked what is at a path, if it cannot: the path is too long as a whole,
or a name in a directory that is there. -/
def searchRefusal? (storage : Storage) (p : Path) : Option Refusal :=
  if pathLimit ≤ p.toString.utf8ByteSize then some .nameTooLong
  else match storage.walk p with
    | .error .nameTooLong => some .nameTooLong
    | _ => none

/-- Whether a path leads to a directory. -/
def isDirectory (storage : Storage) (p : Path) : Bool :=
  match storage.walk p with
  | .ok place => (storage.entry? place).any (· != .file)
  | .error _ => false

/-! ## Making directories -/

/-- The storage with one directory made at a path, whose parent has to be there. -/
def makeOne (storage : Storage) (p : Path) : Except Refusal Storage := do
  if pathLimit ≤ p.toString.utf8ByteSize then throw .nameTooLong
  let place ← storage.walk p.parent
  match p.parts.getLast? with
  | none => throw .present
  | some name =>
    match storage.enter place name with
    | .ok _ => throw .present
    | .error .missing => match storage.entry? place with
      | some (.barren refusal) => throw refusal
      | _ => return { storage with entries := (place.child name, .directory) :: storage.entries }
    | .error refusal => throw refusal

/-- What a making came to: a directory that is there already is as good as made. -/
def settle (storage : Storage) (p : Path) : Except Refusal Storage → Option Fault × Storage
  | .ok after => (none, after)
  | .error refusal =>
    if storage.isDirectory p then (none, storage)
    else (some (.storageRefused refusal p.toString), storage)

/-- The storage with a directory made, those above it that are missing first. -/
def makeParts (storage : Storage) (root : PathRoot) : List String → Option Fault × Storage
  | [] => (none, storage)
  | name :: before =>
    let p : Path := ⟨root, (name :: before).reverse⟩
    match storage.makeOne p with
    | .error .missing => match storage.makeParts root before with
      | (none, after) => after.settle p (after.makeOne p)
      | failed => failed
    | made => storage.settle p made

/-- The storage with a directory made, those above it that are missing first. -/
def makeDirectory (storage : Storage) (p : Path) : Option Fault × Storage :=
  storage.makeParts p.root p.parts.reverse

/-! ## Files -/

/-- A path in the working directory without double points; any other path as it is. -/
def settled (p : Path) : Path :=
  if p.isAbsolute then p
  else match Path.resolved [] p.parts with
    | some parts => ⟨.relative, parts⟩
    | none => p

/-- Whether a path leads into the working directory. -/
def isInside (p : Path) : Bool := !p.isAbsolute && (Path.resolved [] p.parts).isSome

/-- Why a file cannot be made at a path, if it cannot. -/
def fileRefusal? (storage : Storage) (p : Path) : Option Refusal :=
  match storage.entry? p, storage.entry? p.parent with
  | some .directory, _ => some .isDirectory
  | some (.barren _), _ => some .isDirectory
  | none, some (.barren refusal) => some refusal
  | _, _ => none

/-- A file where there is none; one that is there keeps its lines. -/
def create (storage : Storage) (p : Path) : Except Fault Storage :=
  let place := settled p
  match storage.fileRefusal? place with
  | some refusal => .error (.storageRefused refusal place.toString)
  | none =>
    if storage.files.any (·.1 == place) then .ok storage
    else .ok { storage with files := storage.files ++ [(place, [])] }

/-- A file with a line more. -/
def append (storage : Storage) (p : Path) (line : String) : Storage :=
  let place := settled p
  { storage with files := storage.files.map fun file =>
      if file.1 == place then (file.1, file.2 ++ [line]) else file }

example : (makeDirectory (ofEntries []) (Path.ofString "a/../b")).1 = none := by decide +kernel
example : ((makeDirectory (ofEntries []) (Path.ofString "a/../b")).2.walk
    (Path.ofString "a/../b/..")).toOption = some (Path.ofString ".") := by decide +kernel
example : (makeDirectory (ofEntries [(Path.ofString "/f", .file)]) (Path.ofString "/f/d")).1.map
    Fault.message = some "[Errno 20] Not a directory: '/f/d'" := by decide +kernel

end Storage

end SqlAssembly
