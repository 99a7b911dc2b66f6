import CustodySigner.Text.Blank

set_option autoImplicit false
set_option relaxedAutoImplicit false

/-!
The files that a command can read: a tree of directories, where a path leads in it, and why a file
cannot be read. A path is followed name by name, so the first name that leads nowhere decides the
error, and a slash at the end asks for a directory.
-/

namespace CustodySigner.Command

inductive FileError where
  | notFound
  | notPermitted
  | notDirectory
  | isDirectory
  | nameTooLong
  | tooManyLinks
  | notText
  | other (reason : String)
deriving DecidableEq, Repr

namespace FileError

def reason : FileError → String
  | notFound => "No such file or directory (os error 2)"
  | notPermitted => "Permission denied (os error 13)"
  | notDirectory => "Not a directory (os error 20)"
  | isDirectory => "Is a directory (os error 21)"
  | nameTooLong => "File name too long (os error 36)"
  | tooManyLinks => "Too many levels of symbolic links (os error 40)"
  | notText => "stream did not contain valid UTF-8"
  | other reason => reason

/-- The error that a system reports by a number. -/
def ofNumber? : Nat → Option FileError
  | 2 => some notFound
  | 13 => some notPermitted
  | 20 => some notDirectory
  | 21 => some isDirectory
  | 36 => some nameTooLong
  | 40 => some tooManyLinks
  | _ => none

end FileError

/-- The text that bytes encode, if they are UTF-8. -/
def decodeText (content : ByteArray) : Except FileError String :=
  match String.fromUTF8? content with
  | some text => .ok text
  | none => .error .notText

/-- A file, or a directory with what its names stand for. -/
inductive FileTree where
  | file (content : ByteArray)
  | directory (entries : List (String × FileTree))

def maxNameSize : Nat := 255

def maxPathSize : Nat := 4095

namespace FileTree

/-- Follows names from a place in a tree; `above` holds the directories that lead to it, nearest
first. The root is above itself. -/
def follow (here : FileTree) (above : List FileTree) : List String → Except FileError FileTree
  | [] => .ok here
  | name :: rest =>
    match here with
    | file _ => .error .notDirectory
    | directory entries =>
      if name = "" || name = "." then follow here above rest
      else if name = ".." then
        match above with
        | [] => follow here [] rest
        | parent :: above => follow parent above rest
      else if maxNameSize < name.utf8ByteSize then .error .nameTooLong
      else
        match entries.lookup name with
        | none => .error .notFound
        | some next => follow next (here :: above) rest

end FileTree

/-- The names between the slashes of a path. A path from the root begins with an empty name. -/
def pathNames (path : String) : List String :=
  (Text.fields (· == '/') path.toList).map String.ofList

/-- All files, and the names that lead from the root to the current directory. -/
structure FileSystem where
  root : FileTree
  current : List String

namespace FileSystem

def find (fs : FileSystem) (path : String) : Except FileError FileTree :=
  if path = "" then .error .notFound
  else if maxPathSize < path.utf8ByteSize then .error .nameTooLong
  else
    match pathNames path with
    | "" :: names => fs.root.follow [] names
    | names => fs.root.follow [] (fs.current ++ names)

def read (fs : FileSystem) (path : String) : Except FileError String := do
  match ← fs.find path with
  | .file content => decodeText content
  | .directory _ => throw .isDirectory

end FileSystem

end CustodySigner.Command
