import VoxelTemplate.Text.Basic
/-! File paths, and files that can be read by path. Paths are texts with `/` between their parts;
nothing is normalised. -/
namespace VoxelTemplate

/-- Why a file could not be read as text. -/
inductive ReadFailure where
  | notFound
  | notADirectory
  | isADirectory
  | notText
  | nulInPath
  /-- In the words of the system. -/
  | other (reason : Text)
deriving DecidableEq, Repr

namespace ReadFailure

def message : ReadFailure → Text
  | notFound => "No such file or directory (os error 2)".toList
  | notADirectory => "Not a directory (os error 20)".toList
  | isADirectory => "Is a directory (os error 21)".toList
  | notText => "stream did not contain valid UTF-8".toList
  | nulInPath => "file name contained an unexpected NUL byte".toList
  | other reason => reason

end ReadFailure

namespace Path

/-- `path` as seen from the directory `base`; an absolute path stays as it is. -/
def join (base path : Text) : Text :=
  if path.head? = some '/' then path
  else if base.isEmpty || base.getLast? = some '/' then base ++ path
  else base ++ '/' :: path

/-- Without slashes at the end, and without parts `.` there that follow a slash; the text is given
and returned backwards. A slash that is the whole text stays. -/
def trimReversed : Text → Text
  | ['/'] => ['/']
  | '/' :: rest => trimReversed rest
  | '.' :: '/' :: rest => trimReversed ('/' :: rest)
  | text => text
termination_by text => text.length

def parent (path : Text) : Text :=
  (trimReversed ((trimReversed path.reverse).dropWhile (· ≠ '/'))).reverse

end Path

/-- Files of a directory and those below it: the parts of each path, and the text of the file or
none where its bytes are no text. -/
structure FileTree where
  files : List (List Text × Option Text)
deriving Repr

namespace FileTree

/-- Parts of a path, those that lead nowhere left out. -/
def parts (path : Text) : List Text :=
  (Text.split '/' path).filter fun part => !part.isEmpty && part ≠ ['.']

def ofFiles (files : List (Text × Option Text)) : FileTree :=
  ⟨files.map fun (path, content) => (parts path, content)⟩

def isDirectory (tree : FileTree) (place : List Text) : Bool :=
  tree.files.any fun (file, _) => place.isPrefixOf file && file ≠ place

/-- Follows the parts of a path from a directory: one in the tree, or `none` for those above it,
where no file is known. -/
def follow (tree : FileTree) : (place : Option (List Text)) → List Text →
    Except ReadFailure Text
  | _, [] => .error .isADirectory
  | place, part :: rest =>
    if part.isEmpty || part = ['.'] then follow tree place rest
    else if part = ['.', '.'] then
      follow tree (place.bind fun place => if place.isEmpty then none else some place.dropLast) rest
    else match place with
      | none => .error .notFound
      | some place =>
        let place := place ++ [part]
        match tree.files.lookup place with
        | some content =>
          if rest.isEmpty then match content with
            | some text => .ok text
            | none => .error .notText
          else .error .notADirectory
        | none =>
          if tree.isDirectory place then follow tree (some place) rest else .error .notFound

def read (tree : FileTree) (path : Text) : Except ReadFailure Text :=
  if '\x00' ∈ path then .error .nulInPath
  else if path.isEmpty then .error .notFound
  else tree.follow (if path.head? = some '/' then none else some []) (Text.split '/' path)

end FileTree
end VoxelTemplate
