import DialogueEngine.MessagePack.Item
import DialogueEngine.NameTable

/-!
# Storage

Files and directories by their paths. A path is resolved part by part; all parts but the last have
to be directories.
-/

namespace DialogueEngine

/-- Why a path cannot be used. -/
inductive StorageFault where
  | notFound
  | notDirectory
  | isDirectory
  /-- A path cannot hold the zero character. -/
  | invalidName
  | other (message : String)
deriving DecidableEq

def StorageFault.message : StorageFault → String
  | notFound => "No such file or directory (os error 2)"
  | notDirectory => "Not a directory (os error 20)"
  | isDirectory => "Is a directory (os error 21)"
  | invalidName => "file name contained an unexpected NUL byte"
  | other message => message

/-- What stands under a path. -/
inductive StorageEntry where
  | file (content : Bytes)
  | directory
deriving DecidableEq

/-- The entries of a storage, by their paths without redundant parts. -/
structure Storage where
  entries : NameTable StorageEntry

namespace Storage

def empty : Storage := ⟨.empty⟩

/-- A directory as the list of its names from the innermost one out. -/
abbrev Place := List String

def key (place : Place) : String := "/".intercalate place.reverse

/-- The root is always there. -/
def contentAt (storage : Storage) (place : Place) : Option StorageEntry :=
  if place.isEmpty then some .directory else storage.entries.find? (key place)

/-- The parts of a path, of which repeated slashes separate no more than one does. -/
def parts (path : String) : List String := (path.splitOn "/").filter (· ≠ "")

/-- Goes one part further from a directory. -/
def enter (storage : Storage) (place : Place) (part : String) : Except StorageFault Place :=
  if part = "." then .ok place
  else if part = ".." then .ok place.tail
  else
    match storage.contentAt (part :: place) with
    | some .directory => .ok (part :: place)
    | some (.file _) => .error .notDirectory
    | none => .error .notFound

/-- Where a path leads to: the place of its last part, and whether the path asks for a directory
there, which it does with dots or a slash at its end. -/
def locate (storage : Storage) (path : String) : Except StorageFault (Place × Bool) :=
  if path = "" then .error .notFound
  else if path.contains '\x00' then .error .invalidName
  else
    ((parts path).dropLast.foldlM (enter storage) []).map fun place =>
      match (parts path).getLast? with
      | none | some "." => (place, true)
      | some ".." => (place.tail, true)
      | some last => (last :: place, path.endsWith "/")

def read (storage : Storage) (path : String) : Except StorageFault Bytes :=
  match storage.locate path with
  | .error fault => .error fault
  | .ok (place, asDirectory) =>
      match storage.contentAt place with
      | none => .error .notFound
      | some .directory => .error .isDirectory
      | some (.file content) => if asDirectory then .error .notDirectory else .ok content

/-- Creates a file, or replaces its content. -/
def write (storage : Storage) (path : String) (content : Bytes) : Except StorageFault Storage :=
  match storage.locate path with
  | .error fault => .error fault
  | .ok (place, asDirectory) =>
      if asDirectory ∨ storage.contentAt place = some .directory then .error .isDirectory
      else .ok ⟨storage.entries.insert (key place) (.file content)⟩

/-- Creates a directory. -/
def makeDirectory (storage : Storage) (path : String) : Except StorageFault Storage :=
  match storage.locate path with
  | .error fault => .error fault
  | .ok (place, _) =>
      match storage.contentAt place with
      | some .directory => .ok storage
      | some (.file _) => .error .notDirectory
      | none => .ok ⟨storage.entries.insert (key place) .directory⟩

end Storage

end DialogueEngine
