import DesignMarkup.Text.Basic
import DesignMarkup.Text.Quoted

/-!
# Files

Paths as they are shown, why a file cannot be read, and a file system as a value, for runs that touch
no disk.
-/

namespace DesignMarkup.CommandLine

inductive FileError
  | notFound
  | notDirectory
  | isDirectory
  | nameTooLong
  | denied
  | nullCharacter
  deriving DecidableEq

def FileError.reason? : FileError → Option (Nat × String)
  | .notFound => some (2, "No such file or directory")
  | .denied => some (13, "Permission denied")
  | .notDirectory => some (20, "Not a directory")
  | .isDirectory => some (21, "Is a directory")
  | .nameTooLong => some (36, "File name too long")
  | .nullCharacter => none

def FileError.message (path : String) (error : FileError) : String :=
  match error.reason? with
  | some (number, text) => "[Errno " ++ toString number ++ "] " ++ text ++ ": " ++ Text.quoted path
  | none => "embedded null byte"

namespace Path

/-- The parts of a path. Empty parts and single dots name nothing. -/
def parts (path : List Char) : List String :=
  ((Text.splitOnChar (· == '/') path).map String.ofList).filter fun part =>
    part != "" && part != "."

/-- What a path starts with: exactly two slashes are a root of their own. -/
def root (path : List Char) : String :=
  match path with
  | '/' :: '/' :: '/' :: _ => "/"
  | '/' :: '/' :: _ => "//"
  | '/' :: _ => "/"
  | _ => ""

/-- A path in its shortest form; parent directories stay as they are. -/
def normalize (path : String) : String :=
  let text := root path.toList ++ Text.joinWith "/" (parts path.toList)
  if text = "" then "." else text

end Path

inductive Node
  | file (bytes : List UInt8)
  | directory
  deriving DecidableEq

/-- A place in the file system: the names that lead to it from the working directory, or from the
root if the first of them is a slash. Parent directories stand at the front only. -/
abbrev Place := List String

namespace Place

/-- Whether a place is the working directory or above it, or the root. -/
def isAbove (place : Place) : Bool :=
  place.all (· == "..") || place == ["/"]

def step (place : Place) (name : String) : Place :=
  if name = ".." then
    if place = ["/"] then place
    else if place.isAbove then place ++ [name]
    else place.dropLast
  else place ++ [name]

def start (path : String) : Place :=
  if Path.root path.toList = "" then [] else ["/"]

/-- The places that names lead through, without the last one. -/
def passed (place : Place) : List String → List Place
  | [] => []
  | name :: rest => place :: passed (place.step name) rest

end Place

/-- What is known of the file system: the newest entry of a place counts. The working directory and
all directories above it are there. -/
abbrev FileTree := List (Place × Node)

namespace FileTree

/-- Puts something at a path, and directories on the way to it. -/
def put (tree : FileTree) (path : String) (node : Node) : FileTree :=
  let start := Place.start path
  let names := Path.parts path.toList
  (names.foldl Place.step start, node)
    :: (start.passed names).map (·, .directory) ++ tree

def ofEntries (entries : List (String × Node)) : FileTree :=
  entries.foldl (fun tree (path, node) => tree.put path node) []

def node? (tree : FileTree) (place : Place) : Option Node :=
  if place.isAbove then some .directory else tree.lookup place

def isTooLong (name : String) : Bool :=
  decide (255 < name.utf8ByteSize)

def walk (tree : FileTree) (place : Place) : List String → Except FileError (List UInt8)
  | [] =>
    match tree.node? place with
    | some (.file bytes) => .ok bytes
    | some .directory => .error .isDirectory
    | none => .error .notFound
  | name :: rest =>
    match tree.node? place with
    | some .directory =>
      if isTooLong name then .error .nameTooLong else tree.walk (place.step name) rest
    | some (.file _) => .error .notDirectory
    | none => .error .notFound

def read (tree : FileTree) (path : String) : Except FileError (List UInt8) :=
  if path.toList.contains '\x00' then .error .nullCharacter
  else if path.utf8ByteSize ≥ 4096 then .error .nameTooLong
  else tree.walk (Place.start path) (Path.parts path.toList)

end FileTree

end DesignMarkup.CommandLine
