import ReportDelivery.Text.Basic

/-! Paths as text: their components, their normal form, and the name a scanned file gets in the
report.

`normalize` resolves `.` and `..`; `tidy` only drops empty and `.` components and keeps `..`,
which may cross a link. Exactly two leading slashes are a root of their own; any other number of
them is one. -/
namespace ReportDelivery.Path

def slash : CodePoint := .char '/'

/-- The leading slashes that count: none, one or two. -/
def root : Text → Text
  | .char '/' :: .char '/' :: .char '/' :: _ => "/"
  | .char '/' :: .char '/' :: _ => "//"
  | .char '/' :: _ => "/"
  | _ => []

/-- The components other than the empty one and `.`. -/
def components (path : Text) : List Text :=
  (Text.split slash path).filter fun part => !part.isEmpty && part != "."

/-- A root and components as one path, `.` if that is empty. -/
def build (root : Text) (parts : List Text) : Text :=
  match root ++ Text.join "/" parts with
  | [] => "."
  | path => path

/-- Components with each `..` cancelling the one before it. `done` holds the result so far, last
one first; a `..` with nothing to cancel is kept in a relative path and dropped at a root. -/
def resolve (rooted : Bool) (done : List Text) : List Text → List Text
  | [] => done.reverse
  | part :: rest =>
    if part = ".." then
      match done with
      | [] => resolve rooted (if rooted then [] else [part]) rest
      | last :: earlier =>
        if last = ".." then resolve rooted (part :: done) rest else resolve rooted earlier rest
    else resolve rooted (part :: done) rest

def normalize (path : Text) : Text :=
  build (root path) (resolve (!(root path).isEmpty) [] (components path))

def tidy (path : Text) : Text := build (root path) (components path)

/-- `path` as seen from `base`; an absolute path stands alone. -/
def join (base path : Text) : Text :=
  if path.head? = some slash then path
  else if base.isEmpty || base.getLast? = some slash then base ++ path
  else base ++ slash :: path

/-- The last component, empty for a root and for `.`. -/
def fileName (path : Text) : Text := (components path).getLast?.getD []

/-- The path without its last component. -/
def parent (path : Text) : Text := build (root path) (components path).dropLast

/-- The last dot of the file name and what follows it; empty where the dot would start or end the
name. -/
def suffix (path : Text) : Text :=
  let name := fileName path
  let tail := (name.reverse.takeWhile (· ≠ .char '.')).reverse
  let start := name.length - tail.length
  if start ≤ 1 || tail.isEmpty then [] else .char '.' :: tail

/-! ### Names of scanned files -/

def withoutDotSlash : Text → Text
  | .char '.' :: .char '/' :: rest => rest
  | path => path

/-- The name of a scanned file in the report: the file as seen from the scan target. A file that
is the target itself, or has no name, goes by the target. -/
def reportName (target file : Text) : Text :=
  let base := withoutDotSlash target
  if base.isEmpty then file
  else if file = [] || file = "." || base = withoutDotSlash file then base
  else normalize (join base file)

end ReportDelivery.Path
