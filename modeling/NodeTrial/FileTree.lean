import NodeTrial.Executor.Program
import NodeTrial.IoError
import NodeTrial.Text.Division

/-! The files that programs see. A place is the list of names on the way to it from the root. Paths
are followed name by name, so that every name but the last must be that of a directory.
-/

namespace NodeTrial

/-- What stands at a place. -/
inductive Standing where
  | directory
  | file
  | program (program : Program)

/-- Files and directories beside those of every system, and the directory that paths start from
unless they start from the root.
-/
structure FileTree where
  here : List String
  directories : List (List String)
  files : List (List String)
  deriving DecidableEq, Repr

namespace FileTree

def systemDirectories : List (List String) :=
  [[], ["bin"], ["boot"], ["dev"], ["etc"], ["home"], ["lib"], ["media"], ["mnt"], ["opt"],
   ["proc"], ["root"], ["run"], ["sbin"], ["srv"], ["sys"], ["tmp"], ["usr"], ["var"],
   ["usr", "bin"], ["usr", "lib"], ["usr", "local"], ["usr", "sbin"], ["usr", "share"],
   ["usr", "local", "bin"], ["var", "lib"], ["var", "log"], ["var", "tmp"]]

/-- A file that takes everything and keeps nothing, and one that takes nothing. -/
def nullDevice : List String := ["dev", "null"]
def fullDevice : List String := ["dev", "full"]

def systemFiles : List (List String) :=
  [nullDevice, fullDevice, ["dev", "zero"], ["dev", "urandom"], ["etc", "passwd"],
   ["etc", "group"], ["etc", "shadow"], ["etc", "hosts"], ["etc", "hostname"]]

def standing? (t : FileTree) (place : List String) : Option Standing :=
  if systemDirectories.contains place || t.directories.contains place then some .directory
  else if systemFiles.contains place || t.files.contains place then some .file
  else
    match place with
    | ["bin", name] | ["usr", "bin", name] => (Program.named? name).map .program
    | _ => none

/-- The most bytes of a name, and of a path. -/
def nameLimit : Nat := 255
def pathLimit : Nat := 4095

/-- The place that names lead to from another one. -/
def walk (t : FileTree) (place : List String) : List String → Except SystemError (List String)
  | [] => .ok place
  | name :: rest =>
    match t.standing? place with
    | none => .error .notFound
    | some .directory =>
      if name = "" ∨ name = "." then t.walk place rest
      else if name = ".." then t.walk place.dropLast rest
      else if nameLimit < name.utf8ByteSize then .error .nameTooLong
      else t.walk (place ++ [name]) rest
    | some _ => .error .notADirectory

def namesIn (path : String) : List String :=
  (Text.sections (· == '/') path.toList).map String.ofList

/-- The place that the names of a path lead to; an empty first name stands for the root. -/
def follow (t : FileTree) : List String → Except SystemError (List String)
  | "" :: names => t.walk [] names
  | names => t.walk t.here names

def locate (t : FileTree) (path : String) : Except SystemError (List String) :=
  if path = "" then .error .notFound
  else if pathLimit < path.utf8ByteSize then .error .nameTooLong
  else t.follow (namesIn path)

/-- The place of a path that is to be written to. It may be vacant, but it must be in a directory
and be none.
-/
def target (t : FileTree) (path : String) : Except SystemError (List String) := do
  if path = "" then throw .notFound
  if pathLimit < path.utf8ByteSize then throw .nameTooLong
  let names := namesIn path
  let last := names.getLastD ""
  let _ ← t.follow ((names.reverse.dropWhile (· = "")).drop 1).reverse >>= (t.walk · [""])
  if last = "" then throw .isADirectory
  let place ← t.follow names
  match t.standing? place with
  | some .directory => throw .isADirectory
  | _ => return place

/-- Writes to a path: what it holds is lost, and it need not have been there. -/
def write (t : FileTree) (path : String) : Except SystemError Unit := do
  if (← t.target path) = fullDevice then throw .storageFull

/-- A file to start. -/
inductive Startable where
  | file (place : List String)
  | program (program : Program)

/-- The file that a name of a program stands for. A name that is no path is looked for among the
programs, where the names of the directory itself and of the one around it are directories.
-/
def startable (t : FileTree) (name : String) : Except SystemError Startable :=
  if name.contains '/' then do
    let place ← t.locate name
    match t.standing? place with
    | none => throw .notFound
    | some .directory => throw .permissionDenied
    | some .file => return .file place
    | some (.program program) => return .program program
  else if name = "." ∨ name = ".." then .error .permissionDenied
  else if nameLimit < name.utf8ByteSize then .error .nameTooLong
  else
    match Program.named? name with
    | some program => .ok (.program program)
    | none => .error .notFound

end FileTree

/-- Text that can be handed to a program: the character that ends texts there is not in it. -/
def canHandOver (text : String) : Bool :=
  !text.contains '\x00'

/-- The least number of bytes that is too much for one argument. -/
def argumentLimit : Nat := 131072

/-- What a program's name stands for, if it can be handed these arguments. -/
def FileTree.start (t : FileTree) (name : String) (args : List String)
    : Except IoError FileTree.Startable :=
  if !(name :: args).all canHandOver then .error .nulCharacter
  else
    match t.startable name with
    | .error error => .error (.system error)
    | .ok found =>
      if args.any fun arg => argumentLimit ≤ arg.utf8ByteSize then
        .error (.system .tooManyArguments)
      else .ok found

end NodeTrial
