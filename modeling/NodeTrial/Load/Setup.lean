import NodeTrial.Text.Quoted
import NodeTrial.Url.Base

/-! Setting up a load run: the base URLs of its servers. Every candidate must be a URL that names
can be joined onto, or nothing is set up at all.
-/

namespace NodeTrial

/-- What is wrong with a load run before anything is sent. -/
inductive SetupError where
  | badBaseUrl (candidate : String) (error : UrlError)
  | notABase (candidate : String)
  | tooManyRequests (servers rounds : Nat)
  | url (error : UrlError)
  deriving DecidableEq, Repr

namespace SetupError

def message : SetupError → String
  | .badBaseUrl candidate error =>
    "base URL \"" ++ candidate ++ "\" could not be parsed: " ++ error.message
  | .notABase candidate => "base URL \"" ++ candidate ++ "\" can't have a path joined onto it"
  | .tooManyRequests servers rounds =>
    Text.natText servers ++ " servers repeated " ++ Text.natText rounds
      ++ " times is more requests than can be counted"
  | .url error => "URL error: " ++ error.message

/-- The short form of a setup error: its name and its arguments. -/
def diagnostic : SetupError → String
  | .badBaseUrl candidate error =>
    "BadBaseUrl(" ++ Text.quoted candidate ++ ", " ++ error.diagnostic ++ ")"
  | .notABase candidate => "NotABase(" ++ Text.quoted candidate ++ ")"
  | .tooManyRequests servers rounds =>
    "TooManyRequests(" ++ Text.natText servers ++ ", " ++ Text.natText rounds ++ ")"
  | .url error => "Url(" ++ error.diagnostic ++ ")"

end SetupError

namespace Load

def baseUrl (candidate : String) : Except SetupError Url :=
  match Url.parse candidate with
  | .error error => .error (.badBaseUrl candidate error)
  | .ok url =>
    if url.isBase then (Url.base (some candidate) candidate).mapError .url
    else .error (.notABase candidate)

/-- The base URLs of the candidates, or those of the defaults if there is no candidate. -/
def baseUrls (candidates defaults : List String) : Except SetupError (List Url) :=
  if candidates.isEmpty then
    defaults.mapM fun default => (Url.base (some default) default).mapError .url
  else candidates.mapM baseUrl

end Load

end NodeTrial
