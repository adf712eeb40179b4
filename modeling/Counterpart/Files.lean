import Counterpart.Text.Pieces

/-!
# Files

What a command sees of the file system: a function from paths to contents, or to the reason
why there are none.  A tree of files under a working directory gives such a function.
-/

namespace Counterpart

/-- Why a file cannot be read. -/
inductive FileFailure
  | notFound
  | isDirectory
  | notDirectory
  | nameTooLong
  | nulInName
  | notText
  | other (reason : String)
  deriving DecidableEq

def FileFailure.message : FileFailure → String
  | notFound => "No such file or directory (os error 2)"
  | isDirectory => "Is a directory (os error 21)"
  | notDirectory => "Not a directory (os error 20)"
  | nameTooLong => "File name too long (os error 36)"
  | nulInName => "file name contained an unexpected NUL byte"
  | notText => "stream did not contain valid UTF-8"
  | other reason => reason

/-- The contents of files by path. -/
structure Files where
  read : String → Except FileFailure ByteArray

/-- Whether a part of a path stays where it is: the empty part between two slashes, and a
single dot. -/
def staysPut (name : String) : Bool :=
  name == "" || name == "."

/-- The directory of the file at a path: the path before its last name, without the parts that
stay put at its end.  A part that stays put at the very front remains. -/
def directoryOf (path : String) : String :=
  match (Text.pieces '/' path).dropLast with
  | [] => ""
  | first :: rest =>
    match first, (rest.reverse.dropWhile staysPut).reverse with
    | "", [] => "/"
    | first, inner => Text.join "/" (first :: inner)

/-- A path as seen from a directory; an absolute path stands for itself. -/
def resolveIn (directory path : String) : String :=
  if path.toList.head? = some '/' then path
  else if directory = "" || directory.toList.getLast? = some '/' then directory ++ path
  else directory ++ "/" ++ path

/-- Files under a working directory, by the names on the way to them, and the directories. -/
structure FileTree where
  files : List (List String × ByteArray)
  directories : List (List String)

namespace FileTree

/-- The places that a list of names passes on its way from a directory, the directory first. -/
def places (here : List String) : List String → List (List String)
  | [] => [here]
  | name :: rest =>
    if staysPut name then places here rest
    else if name = ".." then here :: places here.dropLast rest
    else here :: places (here ++ [name]) rest

/-- The tree with one more file at a relative path, in directories that are made for it. -/
def insert (tree : FileTree) (path : String) (contents : ByteArray) : FileTree :=
  let way := places [] (Text.pieces '/' path)
  { files := (way.getLast?.getD [], contents) :: tree.files
    directories := way.dropLast ++ tree.directories }

/-- The tree of files that are written one after the other. -/
def ofList (files : List (String × ByteArray)) : FileTree :=
  files.foldl (fun tree file => tree.insert file.1 file.2) ⟨[], []⟩

/-- The contents of the file at the end of a list of names. -/
def file? (tree : FileTree) (names : List String) : Option ByteArray :=
  tree.files.lookup names

/-- Whether a list of names leads to a directory. -/
def isDirectory (tree : FileTree) (names : List String) : Bool :=
  tree.directories.contains names

/-- The contents found by following names from a directory, which is given by its own names
below the working directory, or by nothing if it lies outside. -/
def follow (tree : FileTree) : Option (List String) → List String → Except FileFailure ByteArray
  | _, [] => .error .isDirectory
  | here, name :: rest =>
    if staysPut name then tree.follow here rest
    else if name = ".." then
      match here with
      | some (_ :: _) => tree.follow (here.map List.dropLast) rest
      | _ => tree.follow none rest
    else if 255 < name.utf8ByteSize then .error .nameTooLong
    else
      match here with
      | none => .error .notFound
      | some names =>
        match tree.file? (names ++ [name]) with
        | some contents => if rest.isEmpty then .ok contents else .error .notDirectory
        | none =>
          if tree.isDirectory (names ++ [name]) then tree.follow (some (names ++ [name])) rest
          else .error .notFound

/-- The contents of the file at a path. -/
def read (tree : FileTree) (path : String) : Except FileFailure ByteArray :=
  if path = "" then .error .notFound
  else if path.toList.contains '\x00' then .error .nulInName
  else if 4096 ≤ path.utf8ByteSize then .error .nameTooLong
  else
    match Text.pieces '/' path with
    | "" :: rest => tree.follow none rest
    | names => tree.follow (some []) names

def toFiles (tree : FileTree) : Files :=
  ⟨tree.read⟩

end FileTree

end Counterpart
