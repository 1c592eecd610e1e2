import RequestPipeline.Http.Field
import RequestPipeline.Text.Blank

/-!
# Cookies

The name and value pairs that a list of `Cookie` values carries, and the value under a name.
-/

namespace RequestPipeline.Http.Cookie

open Text

/-- The name and value of one piece; a piece without `=` carries none. -/
def pair? (piece : List Char) : Option (List Char × List Char) := cutFirst? '=' (trim piece)

def pairs (value : String) : List (List Char × List Char) :=
  (splitAt ';' value.toList).filterMap pair?

def allPairs (values : List String) : List (List Char × List Char) :=
  (values.filter isPlainValue).flatMap pairs

/-- The value in the first pair under the name. -/
def value? (name : String) (values : List String) : Option (List Char) :=
  ((allPairs values).find? (·.1 == name.toList)).map fun pair => trim pair.2

def setValue (name path text : String) : String :=
  name ++ "=" ++ text ++ "; Path=" ++ path ++ "; HttpOnly; SameSite=Lax"

end RequestPipeline.Http.Cookie
