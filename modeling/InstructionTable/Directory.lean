import InstructionTable.Text

/-!
# Directories

A directory holds files by their paths; the directories inside it are those that the paths need.
A path is followed name by name.  What lies outside of the directory is taken to be empty, but for
the device that holds nothing and keeps nothing, which every system has under its root.
-/

namespace InstructionTable

/-- The files below a directory: the names on the way to each, and its bytes. -/
structure Directory where
  files : List (List String × List UInt8)
deriving DecidableEq, Repr

namespace Directory

/-- Why a file cannot be read or written. -/
inductive Error where
  | missing
  | isDirectory
  | notDirectory
  | nameTooLong
  /-- The path holds a NUL, at which every path ends for the system. -/
  | holdsNul
  /-- Any other reason, as the system words it. -/
  | other (report : String)
deriving DecidableEq, Repr

/-- The wording of a reason. -/
def Error.message : Error → String
  | missing => "No such file or directory (os error 2)"
  | isDirectory => "Is a directory (os error 21)"
  | notDirectory => "Not a directory (os error 20)"
  | nameTooLong => "File name too long (os error 36)"
  | holdsNul => "file name contained an unexpected NUL byte"
  | other report => report

/-- Where a path leads. -/
inductive Place where
  /-- To a directory inside. -/
  | directory (path : List String)
  /-- To a directory outside. -/
  | outside
  /-- To the root of the system. -/
  | root
  /-- To the directory of devices. -/
  | devices
  /-- To the device that holds nothing and keeps nothing. -/
  | nullDevice
  /-- To a file. -/
  | file (path : List String)
  /-- To nothing: there is no such name where the path looks for it. -/
  | vacant (path : List String)
deriving DecidableEq, Repr

/-- The number of bytes of the longest name. -/
def longestName : Nat := 255

/-- The number of bytes of the longest path. -/
def longestPath : Nat := 4095

/-- Whether some file lies below a path. -/
def hasBelow
    (directory : Directory)
    (path : List String) :
    Bool :=
  directory.files.any fun (file, _) => path.isPrefixOf file && path.length < file.length

/-- What a path of names inside the directory leads to. -/
def place
    (directory : Directory)
    (path : List String) :
    Place :=
  if (directory.files.lookup path).isSome then .file path
  else if path.isEmpty || directory.hasBelow path then .directory path
  else .vacant path

/-- Whether a name leads nowhere: it is empty or a dot. -/
def stays (name : String) : Bool :=
  name == "" || name == "."

/-- The place of a name, unless it is too long. -/
def named
    (name : String)
    (place : Place) :
    Except Error Place :=
  if longestName < name.utf8ByteSize then .error .nameTooLong else .ok place

/-- Follow one name; two dots lead upwards. -/
def enter
    (directory : Directory)
    (name : String) :
    Place → Except Error Place
  | .file _ | .nullDevice => .error .notDirectory
  | .vacant _ => .error .missing
  | .outside =>
      if stays name || name == ".." then .ok .outside
      else named name (.vacant [])
  | .root =>
      if stays name || name == ".." then .ok .root
      else if name == "dev" then .ok .devices
      else if name == "tmp" then .ok .outside
      else named name (.vacant [])
  | .devices =>
      if stays name then .ok .devices
      else if name == ".." then .ok .root
      else if name == "null" then .ok .nullDevice
      else named name (.vacant [])
  | .directory path =>
      if stays name then .ok (.directory path)
      else if name == ".." then
        .ok (if path.isEmpty then .outside else .directory path.dropLast)
      else named name (directory.place (path ++ [name]))

/-- The names of a path. -/
def names (path : String) : List String :=
  (Text.cut '/' path.toList).map String.ofList

/-- Where a path begins: with a slash at its front, at the root. -/
def origin (path : String) : Place :=
  if path.toList.head? == some '/' then .root else .directory []

/-- Check that a path may be followed: it holds no NUL and is neither empty nor too long. -/
def checkPath (path : String) : Except Error Unit :=
  if path.toList.contains '\x00' then .error .holdsNul
  else if path.isEmpty then .error .missing
  else if longestPath < path.utf8ByteSize then .error .nameTooLong
  else .ok ()

/-- Follow a path to its end. -/
def follow
    (directory : Directory)
    (path : String) :
    Except Error Place := do
  checkPath path
  (names path).foldlM (fun place name => directory.enter name place) (origin path)

/-- The bytes of a file. -/
def read
    (directory : Directory)
    (path : String) :
    Except Error (List UInt8) := do
  match ← directory.follow path with
  | .file path => .ok ((directory.files.lookup path).getD [])
  | .nullDevice => .ok []
  | .vacant _ => .error .missing
  | .directory _ | .outside | .root | .devices => .error .isDirectory

/-- The directory with other bytes in a file, which is made if it is missing. -/
def put
    (directory : Directory)
    (path : List String)
    (bytes : List UInt8) :
    Directory :=
  { files := directory.files.filter (fun (file, _) => file != path) ++ [(path, bytes)] }

/-- Whether a path ends in a slash: it names a directory then, whatever is there. -/
def endsInSlash (path : String) : Bool :=
  path.toList.getLast? == some '/'

/-- The path to the directory that holds the last name of a path. -/
def parent (path : String) : String :=
  let reversed := (path.toList.reverse.dropWhile (· == '/')).dropWhile (· != '/')
  String.ofList (reversed.reverse ++ ['.'])

/-- Write a file.  What lies outside of the directory is not kept. -/
def write
    (directory : Directory)
    (path : String)
    (bytes : List UInt8) :
    Except Error Directory := do
  if endsInSlash path then
    checkPath path
    let _ ← directory.follow (parent path)
    .error .isDirectory
  else
    match ← directory.follow path with
    | .file path => .ok (directory.put path bytes)
    | .vacant [] | .nullDevice => .ok directory
    | .vacant path => .ok (directory.put path bytes)
    | .directory _ | .outside | .root | .devices => .error .isDirectory

/-- The files that are new or have other bytes than before. -/
def changes (before after : Directory) : List (List String × List UInt8) :=
  after.files.filter fun (path, bytes) => before.files.lookup path != some bytes

end Directory
end InstructionTable
