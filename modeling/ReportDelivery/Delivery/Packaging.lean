import ReportDelivery.Report.Basic

/-! The report as a compressed file in a temporary directory of its own.

`TempArea.package` makes the directory and writes the file; whoever calls it removes the
directory, also after a failure, whose error tells which directory was made. `Report.ofGzip`
reads such a file back. -/
namespace ReportDelivery

/-- The place for temporary directories. They are numbered, and a number is never used again. -/
structure TempArea where
  root : Text
  /-- The part of a name that tells the `n`-th directory from the others. -/
  label : Nat → Text
  existing : List Nat := []
  made : Nat := 0
  fresh : ∀ n ∈ existing, n < made := by simp

namespace TempArea

def directoryPath (area : TempArea) (n : Nat) : Text := area.root ++ "/reports" ++ area.label n

def filePath (area : TempArea) (n : Nat) : Text :=
  area.directoryPath n ++ "/security-" ++ area.label n ++ ".json.gz"

/-- The number of a new directory, and the area with that directory. -/
def add (area : TempArea) : Nat × TempArea :=
  (area.made, { area with
    existing := area.existing ++ [area.made]
    made := area.made + 1
    fresh := by
      intro n h
      have := area.fresh n
      grind })

def remove (area : TempArea) (n : Nat) : TempArea :=
  { area with
    existing := area.existing.filter (· ≠ n)
    fresh := by
      intro m h
      exact area.fresh m ((List.mem_filter.1 h).1) }

end TempArea

/-- What the system does to a packaging run. -/
inductive PackagingFault where
  | makeDirectory (message : Text)
  | makeFile (message : Text)
  /-- The printer has room for so many containers inside each other. It runs out of it before the
  file is written, so this is never needed together with the faults below. -/
  | shallow (room : Nat)
  | write (message : Text)
  /-- The finished file disappears. -/
  | loseFile

/-- A report in its file. -/
structure Artifact where
  directory : Nat
  path : Text
  /-- What the file holds; none if there is no such file any more. -/
  content : Option Bytes

/-- Why packaging stopped. A member that cannot write itself is no packaging error, nor is a value
that is nested too deep: nobody expects them, and the directory stays. -/
inductive PackagingStop where
  | unwritable (error : CoercionError)
  | tooDeep
  | packaging (error : PackagingError) (directory : Option Nat)

def PackagingStop.failure : PackagingStop → Failure
  | .unwritable error => .coercion error
  | .tooDeep => .printing .tooDeep
  | .packaging error _ => .report (.packaging error)

/-- The report's document in UTF-8, from the printer that there is. -/
def PackagingFault.encoded (fault : Option PackagingFault) (report : Report) :
    Except DocumentError Bytes :=
  match fault with
  | some (.shallow room) => report.encodedWithin room
  | _ => report.encoded

namespace TempArea

/-- Writes the report into the directory `n`, which is there already. -/
def writeArtifact (area : TempArea) (n : Nat) (fault : Option PackagingFault) (report : Report) :
    Except PackagingStop Artifact :=
  let directory := area.directoryPath n
  let path := area.filePath n
  match fault with
  | some (.makeFile message) => .error (.packaging (.file (.other message) directory) (some n))
  | fault =>
    match PackagingFault.encoded fault report with
    | .error (.unwritable error) => .error (.unwritable error)
    | .error (.unprintable .tooDeep) => .error .tooDeep
    | .error (.unprintable error) =>
      .error (.packaging (.writing path (.printing error) directory) (some n))
    | .error (.unencodable error) =>
      .error (.packaging (.writing path (.encoding error) directory) (some n))
    | .ok bytes =>
      match fault with
      | some (.write message) =>
        .error (.packaging (.writing path (.system (.other message)) directory) (some n))
      | some .loseFile => .ok ⟨n, path, none⟩
      | _ => .ok ⟨n, path, some (Gzip.compress bytes)⟩

def package (area : TempArea) (fault : Option PackagingFault) (report : Report) :
    Except PackagingStop Artifact × TempArea :=
  match fault with
  | some (.makeDirectory message) =>
    (.error (.packaging (.directory (.other message)) none), area)
  | fault =>
    let (n, area) := area.add
    (area.writeArtifact n fault report, area)

end TempArea

/-- The report in a compressed file. -/
def Report.ofGzip (content : Bytes) : Except Failure Report := do
  let bytes ← (Gzip.decompress content).mapError Failure.gzip
  let text ← (Utf8.decode bytes).mapError Failure.decoding
  Report.ofDocument text.unifyLineEnds

end ReportDelivery
