import ReportDelivery.Failure
import ReportDelivery.Path

/-! A tree of files and directories, and what the commands do with it.

A path is walked name by name from the root or from the working directory, and `..` leads to the
directory that holds the one reached so far. A refused operation tells which problem came up. -/
namespace ReportDelivery

/-! ### Paths in bytes -/

namespace Path

/-- The byte that a surrogate from U+DC80 to U+DCFF stands for in a path. -/
def escapedByte? (index : Fin 2048) : Option UInt8 :=
  if 0x480 ≤ index.val && index.val < 0x500 then some (.ofNat (index.val - 0x400)) else none

def encodeFrom (position : Nat) : Text → Except Utf8.EncodeError Bytes
  | [] => .ok []
  | .char c :: rest => return Utf8.encodeChar c ++ (← encodeFrom (position + 1) rest)
  | .surrogate i :: rest =>
    match escapedByte? i with
    | some byte => return byte :: (← encodeFrom (position + 1) rest)
    | none => .error ⟨position, i, Utf8.surrogateRun rest⟩

/-- UTF-8, in which the surrogates that stand for a byte are that byte. -/
def encode (path : Text) : Except Utf8.EncodeError Bytes := encodeFrom 0 path

/-- A path that the system takes: it has a form in bytes, and none of them is zero. -/
def check (path : Text) : Except FileError Unit :=
  match encode path with
  | .error error => .error (.unencodable error)
  | .ok bytes => if bytes.contains 0 then .error .nullInPath else .ok ()

/-- The bytes of a path that has such a form. -/
def bytes (path : Text) : Bytes :=
  match encode path with
  | .ok bytes => bytes
  | .error _ => []

/-- The path with the given bytes. Bytes that encode no character become surrogates. -/
def ofBytes (bytes : Bytes) : Text :=
  (Utf8.segments bytes).flatMap fun
    | .scalar c => [.char c]
    | .invalid span _ => span.map fun byte => .ofNat (0xDC00 + byte.toNat)

end Path

/-! ### The tree -/

/-- Where a node is: the names on the way from the root, in bytes. Paths written differently lead to
one place if their bytes are the same. -/
abbrev Place := List Bytes

inductive Node where
  | directory
  | file (content : Bytes)

structure FileSystem where
  /-- All nodes but the root, which is a directory. -/
  nodes : List (Place × Node) := []
  working : Place := []

namespace FileSystem

def node? (fs : FileSystem) (place : Place) : Option Node :=
  if place.isEmpty then some .directory
  else (fs.nodes.find? fun node => node.1 == place).map (·.2)

def set (fs : FileSystem) (place : Place) (node : Node) : FileSystem :=
  { fs with nodes := (fs.nodes.filter fun other => other.1 != place) ++ [(place, node)] }

/-- The name of the directory above, two points. -/
def aboveName : Bytes := [0x2E, 0x2E]

/-- The greatest number of bytes in one name. -/
def nameLimit : Nat := 255

/-- The greatest number of bytes in a path. -/
def pathLimit : Nat := 4095

/-- Follows names from a place. Every place on the way must be a directory; the last one may be
anything or nothing. -/
def walk (fs : FileSystem) (place : Place) : List Bytes → Except PathProblem Place
  | [] => .ok place
  | name :: rest =>
    match fs.node? place with
    | none => .error .missing
    | some (.file _) => .error .notDirectory
    | some .directory =>
      if nameLimit < name.length then .error .nameTooLong
      else fs.walk (if name = aboveName then place.dropLast else place ++ [name]) rest

/-- Where a path leads. -/
def locate (fs : FileSystem) (path : Text) : Except PathProblem Place :=
  if pathLimit < (Path.bytes path).length then .error .nameTooLong
  else
    fs.walk (if (Path.root path).isEmpty then fs.working else [])
      ((Path.components path).map Path.bytes)

def isDirectory (fs : FileSystem) (path : Text) : Bool :=
  match fs.locate path with
  | .ok place =>
    match fs.node? place with
    | some .directory => true
    | _ => false
  | .error _ => false

def read (fs : FileSystem) (path : Text) : Except FileError Bytes := do
  Path.check path
  let content := fs.locate path >>= fun place =>
    match fs.node? place with
    | none => .error .missing
    | some .directory => .error .isDirectory
    | some (.file content) => .ok content
  content.mapError fun problem => .system (.atPath problem path)

def makeDirectory (fs : FileSystem) (path : Text) : Except PathProblem FileSystem := do
  let place ← fs.locate path
  match fs.node? place with
  | some _ => .error .exists
  | none => return fs.set place .directory

/-- Makes the directory with the given names, the last name first, and those above it that are
missing. A directory that is there already will do. What was made before a failure stays. -/
def makeDirectories (root : Text) : List Text → FileSystem → Except SystemError Unit × FileSystem
  | [], fs => (.ok (), fs)
  | last :: above, fs =>
    let path := Path.build root (last :: above).reverse
    let settle := fun (fs : FileSystem) (problem : PathProblem) =>
      if fs.isDirectory path then (.ok (), fs) else (.error (.atPath problem path), fs)
    match fs.makeDirectory path with
    | .ok fs => (.ok (), fs)
    | .error .missing =>
      match makeDirectories root above fs with
      | (.error error, fs) => (.error error, fs)
      | (.ok _, fs) =>
        match fs.makeDirectory path with
        | .ok fs => (.ok (), fs)
        | .error problem => settle fs problem
    | .error problem => settle fs problem

/-- The file gets the content, whether or not it was there. -/
def overwrite (fs : FileSystem) (path : Text) (content : Bytes) :
    Except SystemError Unit × FileSystem :=
  let place := fs.locate path >>= fun place =>
    match fs.node? place with
    | some .directory => .error .isDirectory
    | _ => .ok place
  match place with
  | .ok place => (.ok (), fs.set place (.file content))
  | .error problem => (.error (.atPath problem path), fs)

/-- Writes a file and makes the directories it needs. -/
def write (fs : FileSystem) (path : Text) (content : Bytes) :
    Except FileError Unit × FileSystem :=
  let above := Path.parent path
  match Path.check above with
  | .error error => (.error error, fs)
  | .ok _ =>
    match makeDirectories (Path.root above) (Path.components above).reverse fs with
    | (.error error, fs) => (.error (.system error), fs)
    | (.ok _, fs) =>
      match Path.check path with
      | .error error => (.error error, fs)
      | .ok _ =>
        let (written, fs) := fs.overwrite path content
        (written.mapError .system, fs)

end FileSystem

/-! ### Home directories -/

structure Homes where
  /-- The home of the user who runs the program. -/
  own : Text
  /-- The homes of users by name. -/
  others : List (Text × Text) := []

namespace Homes

def find (homes : Homes) (user : Text) : Except Failure Text := do
  if user.isEmpty then return homes.own
  else
    (Path.check user).mapError .file
    match homes.others.lookup user with
    | some home => return home
    | none => .error .noHome

/-- A path whose first name is `~`, alone or before a user's name, starts in that user's home
directory. -/
def expand (homes : Homes) (path : Text) : Except Failure Text :=
  let path := Path.tidy path
  match Path.root path, Path.components path with
  | [], (.char '~' :: user) :: rest => do
    let home : Text := match Text.trimEnd (· = Path.slash) (← homes.find user) with
      | [] => "/"
      | home => home
    if home.head? = some (.char '~') then .error .noHome
    else return Path.tidy (Path.join home (Text.join "/" rest))
  | _, _ => .ok path

end Homes

end ReportDelivery
