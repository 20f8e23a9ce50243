import FieldRules.Error
import FieldRules.Text.Split

/-!
# Paths of files (called at `crates/validator/src/config.rs:35-65`)

Documents are read from files, whose paths consist of names separated by slashes. The name of a file decides
its format; its *stem*, the name without the extension, serves as a default name for what is in it. A file
system kept in memory answers as one on disk would.
-/

namespace FieldRules

/-- Gives the text of the file at a path. -/
abbrev FileReader := String → Except ReadFault String

namespace FilePath

/-- The names of a path; empty ones and single dots count nothing. -/
def names (path : String) : List String :=
  (Text.split '/' path).filter fun name => name ≠ "" ∧ name ≠ "."

/-- The name of the file itself; a path to a parent directory has none. -/
def fileName? (path : String) : Option String :=
  match (names path).getLast? with
  | none => none
  | some name => if name = ".." then none else some name

/-- A name before and after its last dot; a dot that starts the name is part of it. -/
def splitName (name : String) : String × Option String :=
  match (Text.split '.' name).reverse with
  | [] => (name, none)
  | [_] => (name, none)
  | last :: before =>
    let stem := String.intercalate "." before.reverse
    if stem.isEmpty then (name, none) else (stem, some last)

def stem? (path : String) : Option String :=
  (fileName? path).map fun name => (splitName name).1

def extension? (path : String) : Option String :=
  (fileName? path).bind fun name => (splitName name).2

end FilePath

inductive FileEntry
  | file (content : ByteArray)
  | directory

/-- Files and directories under the names on the way to them from the root, and the directory that paths start
from. The directories on the way to an entry need no entry. -/
structure FileSystem where
  entries : List (List String × FileEntry)
  /-- The names on the way to the directory that paths start from unless they start with a slash. -/
  current : List String

namespace FileSystem

/-- The file system with entries under paths, in which paths start from a directory. -/
def ofPaths (current : List String) (entries : List (String × FileEntry)) : FileSystem where
  entries := entries.map fun (path, entry) =>
    ((if path.startsWith "/" then [] else current) ++ FilePath.names path, entry)
  current := current

/-- A directory is on the way to some names. -/
def leadsTo (directory names : List String) : Bool :=
  directory.isPrefixOf names

/-- What is found at the end of some names. The root and the directory that paths start from are always there. -/
def find? (system : FileSystem) (names : List String) : Option FileEntry :=
  match system.entries.lookup names with
  | some entry => some entry
  | none =>
    if leadsTo names system.current ∨ system.entries.any fun entry => leadsTo names entry.1 then
      some .directory
    else none

/-- How many bytes a single name may have. -/
def nameLimit : Nat :=
  255

/-- How many bytes a path may have, its end included. -/
def pathLimit : Nat :=
  4096

/-- Follows names from a directory, given those followed so far, the last first. Every name but the last has to lead
to a directory; two dots lead to the directory around it, and from the root to the root. -/
def follow (system : FileSystem) (followed : List String) : List String → Except ReadFault FileEntry
  | [] =>
    match system.find? followed.reverse with
    | some entry => .ok entry
    | none => .error .notFound
  | name :: names =>
    match system.find? followed.reverse with
    | none => .error .notFound
    | some (.file _) => .error .notADirectory
    | some .directory =>
      if nameLimit < name.utf8ByteSize then .error .nameTooLong
      else if name = ".." then follow system (followed.drop 1) names
      else follow system (name :: followed) names

/-- What is found at the end of a path. -/
def entryAt (system : FileSystem) (path : String) : Except ReadFault FileEntry :=
  system.follow (if path.startsWith "/" then [] else system.current.reverse) (FilePath.names path)

def read (system : FileSystem) : FileReader := fun path =>
  if path.toList.any fun c => c.toNat == 0 then .error .nulInName
  else if pathLimit ≤ path.utf8ByteSize then .error .nameTooLong
  else if path.isEmpty then .error .notFound
  else
    match system.entryAt path with
    | .error fault => .error fault
    | .ok .directory => .error .isADirectory
    | .ok (.file content) =>
      if path.endsWith "/" ∨ path.endsWith "/." then .error .notADirectory
      else
        match String.fromUTF8? content with
        | some text => .ok text
        | none => .error .notText

end FileSystem

end FieldRules
