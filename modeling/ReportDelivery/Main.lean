import ReportDelivery.Command.Run

/-! The program: it takes the part of the file system that the arguments name into memory, runs the
command there, and writes back what the run has changed. There is no way to the collector from
here, so every request finds no connection. -/
namespace ReportDelivery.Main

def textOf (s : String) : Text := Text.ofString s

def pathOf (place : Place) : String := Text.toString (Path.build "/" (place.map Path.ofBytes))

/-- The node at an absolute place, as it is now. What is there and cannot be read as a file counts
as a directory. -/
def observe (place : Place) : IO (Option Node) := do
  match ← (IO.FS.readBinFile (pathOf place)).toBaseIO with
  | .ok content => return some (.file content.toList)
  | .error (.noFileOrDirectory ..) => return none
  | .error _ => return some .directory

/-- Takes what is at `place` and the given names below it into the file system, as far as
directories lead. -/
def takeIn (fs : FileSystem) (place : Place) : Place → IO FileSystem
  | [] => return fs
  | name :: rest => do
    let place := place ++ [name]
    match ← observe place with
    | some .directory => takeIn (fs.set place .directory) place rest
    | some node => return fs.set place node
    | none => return fs

/-- The places that the arguments name. -/
def places (arguments : Arguments) (homes : Homes) (working : Place) : List Place :=
  let output := match arguments.verb with
    | .build build => [build.output]
    | .send _ => []
  let paths := (arguments.reportData :: arguments.gitContext.toList ++ output).filterMap (·.value?)
  paths.map fun path =>
    match homes.expand path with
    | .ok path =>
      let start := if (Path.root path).isEmpty then working.map Path.ofBytes else []
      (Path.resolve true start.reverse (Path.components path)).map Path.bytes
    | .error _ => working

def writeBack (before after : FileSystem) (place : Place) : IO Unit := do
  let path := pathOf place
  match before.node? place, after.node? place with
  | some (.file old), some (.file content) =>
    if old != content then IO.FS.writeBinFile path ⟨content.toArray⟩
  | _, some (.file content) => IO.FS.writeBinFile path ⟨content.toArray⟩
  | none, some .directory => IO.FS.createDirAll path
  | _, _ => return

def environment : IO Environment := do
  let names := apiKeyVariables ++ hostVariable :: RequiredField.all.map (·.envVariable)
  let entries ← names.mapM fun name => do
    return (← IO.getEnv name).map fun value => (textOf name, textOf value)
  return entries.filterMap id

def printSummary (rows : List SummaryRow) : IO Unit := do
  IO.println Summary.title
  IO.println ("\t".intercalate Summary.columns)
  for row in rows do
    IO.println ("\t".intercalate
      [Text.toString row.severity, toString row.findings, toString row.ignored])

def report (outcome : Outcome) : IO UInt32 := do
  for entry in outcome.log do
    IO.eprintln (entry.level.tag ++ " " ++ Text.toString entry.line)
  match outcome.summary with
  | some rows => printSummary rows
  | none => pure ()
  match outcome.exit with
  | .ok code => return code.toUInt32
  | .error failure =>
    IO.eprintln (Text.toString failure.message)
    return 1

def runCommand (arguments : Arguments) : IO UInt32 := do
  let homes : Homes := { own := textOf ((← IO.getEnv "HOME").getD "/") }
  let working := (Path.components (textOf (← IO.currentDir).toString)).map Path.bytes
  let named := places arguments homes working
  let files ← (working :: named).foldlM (takeIn · []) { working }
  let start ← IO.monoNanosNow
  let world : World := {
    files, homes
    environ := ← environment
    area := { root := "/tmp", label := fun n => Text.ofNat (start + n) }
    replies := []
  }
  let outcome := world.run arguments
  for place in named do
    for n in List.range place.length do
      writeBack files outcome.files (place.take (n + 1))
  report outcome

end ReportDelivery.Main

open ReportDelivery in
def main (arguments : List String) : IO UInt32 := do
  match Arguments.read (arguments.map Text.ofString) with
  | .ok arguments => Main.runCommand arguments
  | .error (.help _) =>
    IO.println "usage: scanreport (build | send) --report-data FILE [options]"
    return 0
  | .error (.error e) =>
    IO.eprintln (Text.toString e.message)
    return 2
