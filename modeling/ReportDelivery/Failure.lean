import ReportDelivery.Gzip.File
import ReportDelivery.Json.Printer
import ReportDelivery.Json.Reader
import ReportDelivery.Text.Utf8
import ReportDelivery.Value.Coerce

/-! What can go wrong, by cause.

Each layer has its own type of errors, and `Failure` is their sum. An error says what was found;
its wording is given by `message` alone. -/
namespace ReportDelivery

/-! ### Input documents -/

/-- The two maps of findings in scan results and in reports. -/
inductive Section where
  | findings
  | ignored
deriving DecidableEq

def Section.name : Section → String
  | .findings => "findings"
  | .ignored => "ignored_findings"

/-- A document that is valid JSON and not of the expected form. -/
inductive FormatError where
  | scanDataNotObject (path : Text)
  | contextNotObject (path : Text)
  | reportNotObject
  | languagesNotObject
  | dataflowNotObject
  | filesNotList
  | dataflowMemberNotList (name typeName : String)
  | groupsNotObject (part : Section)
  | groupNotFindings (part : Section) (severity : Text)
  | badFinding (part : Section) (cause : CoercionError)
  | noIgnoreMeta (fingerprint : Value)
  | ignoreMetaNotObject (severity : Text)

def FormatError.message : FormatError → Text
  | .scanDataNotObject path => "report data must be a JSON object: " ++ path
  | .contextNotObject path => "git context must be a JSON object: " ++ path
  | .reportNotObject => "report must be a JSON object"
  | .languagesNotObject => "'found_languages' must be an object"
  | .dataflowNotObject => "'dataflow' must be an object"
  | .filesNotList => "'files' must be a list"
  | .dataflowMemberNotList name typeName =>
    "dataflow '" ++ name ++ "' must be a list, got " ++ typeName
  | .groupsNotObject part => "'" ++ part.name ++ "' must be an object of severity lists"
  | .groupNotFindings part severity =>
    "'" ++ part.name ++ "." ++ severity ++ "' must be a list of finding objects"
  | .badFinding part cause => "invalid finding in '" ++ part.name ++ "': " ++ cause.message
  | .noIgnoreMeta fingerprint => "ignored finding without ignore_meta: " ++ fingerprint.display
  | .ignoreMetaNotObject severity =>
    "'ignored_findings." ++ severity ++ "' has a non-object ignore_meta"

/-! ### The outside world -/

/-- Why the operating system refuses a path. -/
inductive PathProblem where
  | missing
  | exists
  | notDirectory
  | isDirectory
  | nameTooLong
deriving DecidableEq

def PathProblem.number : PathProblem → Nat
  | .missing => 2
  | .exists => 17
  | .notDirectory => 20
  | .isDirectory => 21
  | .nameTooLong => 36

def PathProblem.message : PathProblem → String
  | .missing => "No such file or directory"
  | .exists => "File exists"
  | .notDirectory => "Not a directory"
  | .isDirectory => "Is a directory"
  | .nameTooLong => "File name too long"

inductive SystemError where
  | atPath (problem : PathProblem) (path : Text)
  | other (message : Text)

def SystemError.message : SystemError → Text
  | .atPath problem path =>
    "[Errno " ++ Text.ofNat problem.number ++ "] " ++ problem.message ++ ": " ++ path.quoted
  | .other message => message

/-- Why a file cannot be reached: the system refuses, or the path is none. -/
inductive FileError where
  | system (error : SystemError)
  /-- The path holds U+0000. -/
  | nullInPath
  /-- The path has no form in bytes. -/
  | unencodable (error : Utf8.EncodeError)

def FileError.message : FileError → Text
  | .system error => error.message
  | .nullInPath => "embedded null byte"
  | .unencodable error => error.message

/-- What kind of trouble kept a request from being answered. The first four arise in the exchange
itself; the others come from below it. -/
inductive Trouble where
  | connection
  | timeout
  | request
  | invalidUrl
  | system
  | value
  | runtime
deriving DecidableEq

/-- A request that got no answer. -/
structure TransportFault where
  trouble : Trouble
  message : Text

/-- Whether the exchange itself failed, which the client reports as an error of the collector. -/
def Trouble.isExchange : Trouble → Bool
  | .connection | .timeout | .request | .invalidUrl => true
  | .system | .value | .runtime => false

/-- Why the console does not show a line or a table: it takes texts for markup, and this one is
none. -/
structure ConsoleError where
  message : Text

/-! ### The collector -/

inductive CollectorError where
  | network (url : Text) (cause : TransportFault)
  | unauthorized
  /-- A status of 400 or more, with the start of the answer's text. -/
  | refused (status : Nat) (excerpt : Text)
  | offerNotJson (excerpt : Text)
  | offerNotObject (excerpt : Text)
  | offerIncomplete
  | offerHeadersNotObject

def CollectorError.message : CollectorError → Text
  | .network url cause => "Network error contacting " ++ url ++ ": " ++ cause.message
  | .unauthorized => "API key unauthorized for this operation (401)."
  | .refused status excerpt => "API error " ++ Text.ofNat status ++ ": " ++ excerpt
  | .offerNotJson excerpt => "Upload offer was not JSON: " ++ excerpt
  | .offerNotObject excerpt => "Upload offer was not a JSON object: " ++ excerpt
  | .offerIncomplete => "Upload offer did not include a signed id and upload URL."
  | .offerHeadersNotObject => "Upload offer headers were not a JSON object."

/-- Why a request of the client has no result. -/
inductive ClientError where
  | collector (error : CollectorError)
  | transport (fault : TransportFault)
  | file (error : FileError)

def ClientError.message : ClientError → Text
  | .collector error => error.message
  | .transport fault => fault.message
  | .file error => error.message

/-! ### Reports -/

/-- What a complete identity of the repository needs. -/
inductive RequiredField where
  | branch
  | defaultBranch
  | commit
  | originUrl
deriving DecidableEq

namespace RequiredField

/-- The order in which missing ones are reported. -/
def all : List RequiredField := [.branch, .defaultBranch, .commit, .originUrl]

/-- The environment variable that supplies the field. -/
def envVariable : RequiredField → String
  | .branch => "BEARER_BRANCH"
  | .defaultBranch => "BEARER_DEFAULT_BRANCH"
  | .commit => "BEARER_COMMIT"
  | .originUrl => "BEARER_REPOSITORY_URL"

def description : RequiredField → String
  | .branch => "name of the branch being scanned"
  | .defaultBranch => "default branch of the repository"
  | .commit => "hash of the current commit of the repository"
  | .originUrl => "origin URL of the repository"

def message (field : RequiredField) : Text :=
  "Couldn't determine the " ++ Text.ofString field.description ++ ". Please set the '"
    ++ Text.ofString field.envVariable ++ "' environment variable."

end RequiredField

inductive AssemblyError where
  | conversion (cause : CoercionError)
  | listExpected (field typeName : String)
  | mappingExpected (part : Section) (typeName : String)
  | malformedEntries (part : Section) (severity : Value)

def AssemblyError.message : AssemblyError → Text
  | .conversion cause => "could not translate findings: " ++ cause.message
  | .listExpected field typeName =>
    "report field '" ++ field ++ "' expected a list, got " ++ typeName
  | .mappingExpected part typeName =>
    "report field '" ++ part.name ++ "' expected a mapping, got " ++ typeName
  | .malformedEntries part severity =>
    "report field '" ++ part.name ++ "' has malformed entries for severity '" ++ severity.display
      ++ "'"

/-- Why a report has no document: a member that cannot write itself, a value without a JSON form,
or a lone surrogate. -/
inductive DocumentError where
  | unwritable (error : CoercionError)
  | unprintable (error : Json.PrintError)
  | unencodable (error : Utf8.EncodeError)

/-- Why the text of a report did not get into its file. -/
inductive WriteFault where
  | printing (error : Json.PrintError)
  | encoding (error : Utf8.EncodeError)
  | system (error : SystemError)

def WriteFault.message : WriteFault → Text
  | .printing error => error.message
  | .encoding error => error.message
  | .system error => error.message

/-- A failure to package that names the temporary directory made before it, if there is one. -/
inductive PackagingError where
  | directory (cause : SystemError)
  | file (cause : SystemError) (directory : Text)
  | writing (path : Text) (cause : WriteFault) (directory : Text)

def PackagingError.message : PackagingError → Text
  | .directory cause => "could not create report directory: " ++ cause.message
  | .file cause _ => "could not create report file: " ++ cause.message
  | .writing path cause _ => "could not write report file " ++ path ++ ": " ++ cause.message

inductive UploadError where
  | artifactMissing (path : Text)
  | failed (path : Text) (cause : ClientError)
  | notification (cause : CollectorError)

def UploadError.message : UploadError → Text
  | .artifactMissing path => "report artifact is missing: " ++ path
  | .failed path cause => "upload of " ++ path ++ " failed: " ++ cause.message
  | .notification cause => "scan finished notification failed: " ++ cause.message

/-- The problems that delivery is meant to survive. -/
inductive ReportError where
  | notARepository
  | incomplete (missing : List RequiredField)
  | assembly (error : AssemblyError)
  | packaging (error : PackagingError)
  | upload (error : UploadError)

def ReportError.message : ReportError → Text
  | .notARepository => "not a git repository"
  | .incomplete missing => Text.join "\n" (missing.map (·.message))
  | .assembly error => error.message
  | .packaging error => error.message
  | .upload error => error.message

/-! ### All of them -/

inductive Failure where
  | coercion (error : CoercionError)
  | json (error : Json.ReadError)
  | printing (error : Json.PrintError)
  | decoding (error : Utf8.DecodeError)
  | encoding (error : Utf8.EncodeError)
  | format (error : FormatError)
  | report (error : ReportError)
  | collector (error : CollectorError)
  | transport (fault : TransportFault)
  | file (error : FileError)
  | gzip (error : Gzip.Error)
  | console (error : ConsoleError)
  /-- A path starts with the home of a user who has none. -/
  | noHome
  /-- The option that names a file has been emptied. -/
  | noPath

namespace Failure

def message : Failure → Text
  | .coercion error => error.message
  | .json error => error.message
  | .printing error => error.message
  | .decoding error => error.message
  | .encoding error => error.message
  | .format error => error.message
  | .report error => error.message
  | .collector error => error.message
  | .transport fault => fault.message
  | .file error => error.message
  | .gzip error => error.message
  | .console error => error.message
  | .noHome => "Could not determine home directory."
  | .noPath => "expected str, bytes or os.PathLike object, not list"

def ofDocument : DocumentError → Failure
  | .unwritable error => .coercion error
  | .unprintable error => .printing error
  | .unencodable error => .encoding error

def ofClient : ClientError → Failure
  | .collector error => .collector error
  | .transport fault => .transport fault
  | .file error => .file error

/-- What keeps a value from being shown. A text shows itself. Any other value may run into one of
the interpreter's `limits`: on the digits of an integer, or on how deep containers may stand inside
each other. -/
def ofShowing (limits : Value → Option Json.PrintError) : Value → Option Json.PrintError
  | .str _ => none
  | v => limits v

/-- The limit that is the same wherever a value is shown. -/
def digitsTooMany (v : Value) : Option Json.PrintError :=
  if v.isShowable then none else some .integerTooLong

/-- What assembling a report fails with. The problem with a group is told with its severity, and if
that cannot be shown, then this is what it fails with. -/
def ofAssemblyUnder (limits : Value → Option Json.PrintError) (error : AssemblyError) : Failure :=
  match error with
  | .malformedEntries _ severity =>
    match ofShowing limits severity with
    | none => .report (.assembly error)
    | some fault => .printing fault
  | _ => .report (.assembly error)

def ofAssembly : AssemblyError → Failure := ofAssemblyUnder digitsTooMany

end Failure
end ReportDelivery
