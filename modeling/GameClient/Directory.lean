/-!
# Files by their paths

What a program sees of the file system it runs in: some files, the directories that hold them, and
those above them. A path is followed part by part, and the first part that leads nowhere decides
what is said about it, so that a long name behind a missing directory is missing and not too long.
-/

namespace GameClient

inductive FileError where
  | notFound
  /-- The path goes on behind a file. -/
  | notDirectory
  | isDirectory
  | invalidText
  /-- A path cannot have a null character. -/
  | nullInPath
  /-- The path, or the name that is looked up, has more bytes than it can have. -/
  | nameTooLong
  deriving DecidableEq, Repr

def FileError.message : FileError → String
  | notFound => "No such file or directory (os error 2)"
  | notDirectory => "Not a directory (os error 20)"
  | isDirectory => "Is a directory (os error 21)"
  | invalidText => "stream did not contain valid UTF-8"
  | nullInPath => "file name contained an unexpected NUL byte"
  | nameTooLong => "File name too long (os error 36)"

/-- A place in the file system: the root or the working directory, so many levels up from it, and
then down by names, the last name first. -/
structure Place where
  fromRoot : Bool
  levelsUp : Nat := 0
  names : List String := []
  deriving DecidableEq, Repr

namespace Place

def child (place : Place) (name : String) : Place := { place with names := name :: place.names }

/-- The directory that holds a place. The root holds itself. -/
def parent (place : Place) : Place :=
  match place.names with
  | _ :: names => { place with names }
  | [] => if place.fromRoot then place else { place with levelsUp := place.levelsUp + 1 }

/-- Where one part of a path leads: an empty part and a point stay, two points go up. -/
def enter (place : Place) (part : String) : Place :=
  if part = "" ∨ part = "." then place
  else if part = ".." then place.parent
  else place.child part

def start (path : String) : Place := { fromRoot := path.startsWith "/" }

/-- Where a path leads if every part of it is there. -/
def ofPath (path : String) : Place := (path.splitOn "/").foldl enter (start path)

/-- A place is above another one, or is that place. -/
def holds (above place : Place) : Bool :=
  above.fromRoot == place.fromRoot && above.levelsUp == place.levelsUp
    && above.names.isSuffixOf place.names

def passed (place : Place) : List String → List Place
  | [] => [place]
  | part :: parts => place :: (place.enter part).passed parts

end Place

/-- What is known of the file system: files by their places, and directories beside those that hold
them. -/
structure Directory where
  files : List (Place × ByteArray) := []
  folders : List Place := []

inductive Entry where
  | directory
  | file (content : ByteArray)

namespace Directory

/-- One file that was reached by its path, so that every directory that the path passes is there. -/
def ofReached (path : String) (content : ByteArray) : Directory :=
  { files := [(.ofPath path, content)]
    folders := (Place.start path).passed (path.splitOn "/") }

/-- What stands under the root of every system: the usual directories, and a device that holds
nothing. -/
def standard : Directory where
  files := [(.ofPath "/dev/null", .empty)]
  folders :=
    ["/bin", "/dev", "/etc", "/home", "/lib", "/mnt", "/opt", "/proc", "/root", "/run", "/sbin",
      "/srv", "/sys", "/tmp", "/usr", "/usr/bin", "/usr/lib", "/var", "/var/log", "/var/tmp"].map
      .ofPath

/-- What stands at a place. The working directory, the root and all that is above them are
directories. -/
def entry? (directory : Directory) (place : Place) : Option Entry :=
  match directory.files.find? fun file => file.1 == place with
  | some file => some (.file file.2)
  | none =>
    if place.names.isEmpty || directory.folders.contains place
        || directory.files.any fun file => place.holds file.1 then some .directory
    else none

def nameLimit : Nat := 255

def pathLimit : Nat := 4095

def follow (directory : Directory) (place : Place) : Entry → List String → Except FileError Entry
  | entry, [] => .ok entry
  | .file _, _ :: _ => .error .notDirectory
  | .directory, part :: parts =>
    if nameLimit < part.utf8ByteSize then .error .nameTooLong
    else
      match directory.entry? (place.enter part) with
      | none => .error .notFound
      | some entry => directory.follow (place.enter part) entry parts

def find (directory : Directory) (path : String) : Except FileError Entry :=
  if path.toList.contains '\x00' then .error .nullInPath
  else if path = "" then .error .notFound
  else if pathLimit < path.utf8ByteSize then .error .nameTooLong
  else directory.follow (Place.start path) .directory (path.splitOn "/")

def readText (directory : Directory) (path : String) : Except FileError String :=
  match directory.find path with
  | .error error => .error error
  | .ok .directory => .error .isDirectory
  | .ok (.file content) =>
    match String.fromUTF8? content with
    | some text => .ok text
    | none => .error .invalidText

/-- Puts a file under a path that nothing stands at yet. The path must lead to a directory up to its
last name. -/
def write? (directory : Directory) (path : String) (content : ByteArray) : Option Directory :=
  let folder := directory.follow (Place.start path) .directory (path.splitOn "/").dropLast
  match directory.find path, folder with
  | .error .notFound, .ok .directory =>
    if path = "" then none
    else some { directory with files := (.ofPath path, content) :: directory.files }
  | _, _ => none

end Directory

end GameClient
