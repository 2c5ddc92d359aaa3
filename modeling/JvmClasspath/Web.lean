import JvmClasspath.FileSystem

/-!
# The web

What downloading a URL gives. The URL is taken as it is spelled, and one that nothing is known of
cannot be reached.
-/

namespace JvmClasspath

/-- What comes back from a URL: no answer, with a reason, or an answer. -/
inductive Response where
  | failure (reason : String)
  | answer (status : Int) (phrase : String) (body : Content)
deriving DecidableEq, Repr

structure Web where
  responses : List (String × Response)

namespace Web

/-- How long to wait for an answer, in seconds. -/
def patience : String := "30.0"

def respond (web : Web) (url : String) : Response :=
  (web.responses.lookup url).getD (.failure "unreachable")

/-- The body of a successful answer, or why there is none. A status from 400 to 599 is a failure. -/
def download (web : Web) (url : String) : Except String Content :=
  match web.respond url with
  | .failure reason => .error reason
  | .answer status phrase body =>
    if 400 ≤ status ∧ status < 500 then
      .error (s!"{status} Client Error: " ++ phrase ++ " for url: " ++ url)
    else if 500 ≤ status ∧ status < 600 then
      .error (s!"{status} Server Error: " ++ phrase ++ " for url: " ++ url)
    else .ok body

end Web

/-- What a class path is built from: the file system and the web. -/
structure World where
  files : FileSystem
  web : Web

end JvmClasspath
