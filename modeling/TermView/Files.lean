namespace TermView

inductive FileError where
  | notFound
  | isDirectory
  | notDirectory
  | nameTooLong
  | nullInPath
  | invalidText
  | system (reason : String)
deriving DecidableEq

def FileError.message : FileError → String
  | .notFound => "No such file or directory (os error 2)"
  | .isDirectory => "Is a directory (os error 21)"
  | .notDirectory => "Not a directory (os error 20)"
  | .nameTooLong => "File name too long (os error 36)"
  | .nullInPath => "file name contained an unexpected NUL byte"
  | .invalidText => "stream did not contain valid UTF-8"
  | .system reason => reason

def joinPath (directory name : String) : String :=
  if directory.isEmpty || directory.endsWith "/" then directory ++ name
  else directory ++ "/" ++ name

def longestName : Nat := 255

def longestPath : Nat := 4095

def pathNames (path : String) : Except FileError (List String) :=
  if path.isEmpty then .error .notFound
  else if path.toList.contains '\x00' then .error .nullInPath
  else if longestPath < path.utf8ByteSize then .error .nameTooLong
  else .ok (path.splitOn "/")

structure FileTree where
  workingDirectory : List String
  files : List (List String × List UInt8)
  directories : List (List String)

namespace FileTree

def isDirectory (t : FileTree) (path : List String) : Bool :=
  path.isEmpty || t.directories.any path.isPrefixOf
    || t.files.any fun (file, _) => path.isPrefixOf file && path != file

inductive Place where
  | directory (path : List String)
  | file (path : List String) (content : List UInt8)

def follow (t : FileTree) (here : List String) : List String → Except FileError Place
  | [] => .ok (.directory here)
  | name :: names =>
    if name = "" ∨ name = "." then t.follow here names
    else if name = ".." then t.follow here.dropLast names
    else if longestName < name.utf8ByteSize then .error .nameTooLong
    else
      let there := here ++ [name]
      match t.files.lookup there with
      | some content => if names.isEmpty then .ok (.file there content) else .error .notDirectory
      | none => if t.isDirectory there then t.follow there names else .error .notFound

def start (t : FileTree) (path : String) : List String :=
  if path.startsWith "/" then [] else t.workingDirectory

def locate (t : FileTree) (path : String) : Except FileError Place :=
  match pathNames path with
  | .error e => .error e
  | .ok names => t.follow (t.start path) names

def read (t : FileTree) (path : String) : Except FileError (List UInt8) :=
  match t.locate path with
  | .error e => .error e
  | .ok (.directory _) => .error .isDirectory
  | .ok (.file _ content) => .ok content

def isPresent (t : FileTree) (path : String) : Bool := (t.locate path).toBool

def makeDirectories (t : FileTree) (here : List String) : List String → FileTree
  | [] => t
  | name :: names =>
    if name = "" ∨ name = "." then t.makeDirectories here names
    else if name = ".." then t.makeDirectories here.dropLast names
    else
      let there := here ++ [name]
      if longestName < name.utf8ByteSize ∨ (t.files.lookup there).isSome then t
      else { t with directories := there :: t.directories }.makeDirectories there names

def makeDirectory (t : FileTree) (path : String) : FileTree :=
  match pathNames path with
  | .error _ => t
  | .ok names => t.makeDirectories (t.start path) names

def touch (t : FileTree) (path : String) : FileTree :=
  let names := path.splitOn "/"
  match t.locate path, t.follow (t.start path) names.dropLast with
  | .error .notFound, .ok (.directory directory) =>
    { t with files := (directory ++ names.getLast?.toList, []) :: t.files }
  | _, _ => t

def openForAppending (t : FileTree) (directory name : String) : FileTree :=
  (t.makeDirectory directory).touch (joinPath directory name)

end FileTree

end TermView
