/-!
# Files

The program reads files through a small interface, so that it can run on the files
of the machine as well as on a tree of files that is given as a value.
-/

namespace BindingGraph.CommandLine

/-- Why a file has no text. -/
inductive ReadError where
  | notFound
  | isDirectory
  /-- A part of the path that should be a directory is a file. -/
  | notDirectory
  /-- The bytes are no text. -/
  | notText
  | other (reason : String)
  deriving DecidableEq

def ReadError.message : ReadError → String
  | notFound => "No such file or directory (os error 2)"
  | isDirectory => "Is a directory (os error 21)"
  | notDirectory => "Not a directory (os error 20)"
  | notText => "stream did not contain valid UTF-8"
  | other reason => reason

structure Files (m : Type → Type) where
  /-- Whether a path leads to a regular file. -/
  isFile : String → m Bool
  /-- The bytes of a file. -/
  bytes : String → m (Except ReadError ByteArray)

def textOf (bytes : ByteArray) : Except ReadError String :=
  match String.fromUTF8? bytes with
  | some text => .ok text
  | none => .error .notText

def Files.text {m : Type → Type} [Monad m] (files : Files m) (path : String) :
    m (Except ReadError String) := do
  return (← files.bytes path).bind textOf

/-! ### Paths -/

/-- The segments of a path between slashes. -/
def segments (path : String) : List String := path.splitOn "/"

/-- Takes away slashes, and segments that are a single dot, at the end of a reversed path. -/
def trimEnd : List Char → List Char
  | '/' :: rest => trimEnd rest
  | '.' :: '/' :: rest => trimEnd rest
  | cs => cs

/-- The directory of a file, as written in its path. -/
def parent (path : String) : String :=
  let before := (path.toList.reverse.dropWhile (· ≠ '/'))
  match trimEnd before with
  | [] => if path.startsWith "/" then "/" else ""
  | cs => String.ofList cs.reverse

def inDirectory (directory name : String) : String :=
  if directory.isEmpty || directory.endsWith "/" then directory ++ name
  else directory ++ "/" ++ name

/-! ### Trees -/

/-- A tree of files: the contents by path, from the top. -/
structure FileTree where
  files : List (List String × ByteArray)

namespace FileTree

/-- What a path leads to. -/
inductive Entry where
  | directory (path : List String)
  | file (bytes : ByteArray)

/-- A step from a directory along a segment. -/
def step (tree : FileTree) (path : List String) (segment : String) : Except ReadError Entry :=
  if segment = "" || segment = "." then .ok (.directory path)
  else if segment = ".." then .ok (.directory path.dropLast)
  else
    let next := path ++ [segment]
    match tree.files.lookup next with
    | some bytes => .ok (.file bytes)
    | none =>
      if tree.files.any fun f => next.isPrefixOf f.1 then .ok (.directory next)
      else .error .notFound

/-- What the segments of a path lead to. Only a directory leads on. -/
def walk (tree : FileTree) (entry : Entry) : List String → Except ReadError Entry
  | [] => .ok entry
  | segment :: rest =>
    match entry with
    | .file _ => .error .notDirectory
    | .directory path => do walk tree (← step tree path segment) rest

def find (tree : FileTree) (path : String) : Except ReadError Entry :=
  if path.isEmpty then .error .notFound else walk tree (.directory []) (segments path)

def access (tree : FileTree) : Files Id where
  isFile path := match tree.find path with
    | .ok (.file _) => true
    | _ => false
  bytes path := match tree.find path with
    | .ok (.file bytes) => .ok bytes
    | .ok (.directory _) => .error .isDirectory
    | .error e => .error e

end FileTree

end BindingGraph.CommandLine
