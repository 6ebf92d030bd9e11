import ReportDelivery.Text.Blank

/-! Environment variables, and what is taken from them: the API key and the collector's address.

An explicit value comes first. A value of white space only counts as no value. -/
namespace ReportDelivery

abbrev Environment := List (Text × Text)

namespace Environment

/-- The value of a variable, empty if it is unset. -/
def get (environ : Environment) (name : String) : Text :=
  ((environ.find? fun entry => entry.1 = Text.ofString name).map (·.2)).getD []

end Environment

def version : Text := "1.4.0"

def defaultHost : Text := "https://my.bearer.sh"

/-- The variables that may hold the API key, in order of preference. -/
def apiKeyVariables : List String := ["BEARER_API_KEY", "BEARER_TOKEN"]

def hostVariable : String := "BEARER_HOST"

/-- The first candidate with content, without the white space around it. -/
def firstContent? (candidates : List Text) : Option Text :=
  (candidates.find? Text.hasContent).map Text.strip

def chooseApiKey (explicit : Option Text) (environ : Environment) : Option Text :=
  firstContent? (explicit.toList ++ apiKeyVariables.map environ.get)

def stripSlashes (host : Text) : Text := Text.trimEnd (· = .char '/') host

def chooseHost (explicit : Option Text) (environ : Environment) : Text :=
  stripSlashes ((firstContent? (explicit.toList ++ [environ.get hostVariable])).getD defaultHost)

end ReportDelivery
