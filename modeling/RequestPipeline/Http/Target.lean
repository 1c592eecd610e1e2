/-!
# Request targets

Reads the path out of a request target. A target is a path with an optional query, an absolute
target `scheme://authority` with an optional path and query, an authority alone, or `*`.
-/

namespace RequestPipeline.Http.Target

def isPathChar (c : Char) : Bool :=
  let n := c.val
  n == 0x21 || n == 0x22 || (0x24 ≤ n && n ≤ 0x3B) || n == 0x3D || (0x40 ≤ n && n ≤ 0x5F)
    || (0x61 ≤ n && n ≤ 0x7E) || 0x80 ≤ n

def isQueryChar (c : Char) : Bool :=
  let n := c.val
  n == 0x21 || (0x24 ≤ n && n ≤ 0x3B) || n == 0x3D || (0x3F ≤ n && n ≤ 0x7E) || 0x80 ≤ n

def isQuery (cs : List Char) : Bool := (cs.takeWhile (· != '#')).all isQueryChar

/-- The path in front of a query or fragment, both of which must be well formed. -/
def pathBefore? (cs : List Char) : Option (List Char) :=
  let path := cs.takeWhile fun c => c != '?' && c != '#'
  if !path.all isPathChar then none
  else
    match cs.drop path.length with
    | '?' :: query => if isQuery query then some path else none
    | _ => some path

def isSchemeChar (c : Char) : Bool :=
  c.isAlphanum || c == '+' || c == '-' || c == '.' || c == '~'

def scheme? (cs : List Char) : Option (List Char × List Char) :=
  let scheme := cs.takeWhile isSchemeChar
  match cs.drop scheme.length with
  | ':' :: '/' :: '/' :: rest => some (scheme, rest)
  | _ => none

def isAuthorityChar (c : Char) : Bool :=
  c.isAlphanum || "!$&'()*+,-.;=_~".toList.contains c

/-- What has been seen of an authority; a user part clears the colons and the percent sign, and
so does a closed bracket. -/
structure AuthorityScan where
  colons : Nat := 0
  bracketOpen : Bool := false
  bracketClosed : Bool := false
  percent : Bool := false
  endsInAt : Bool := false

def AuthorityScan.step (scan : AuthorityScan) (c : Char) : Option AuthorityScan :=
  let scan := { scan with endsInAt := false }
  match c with
  | ':' => if scan.colons ≥ 8 then none else some { scan with colons := scan.colons + 1 }
  | '[' =>
      if scan.percent || scan.bracketOpen then none else some { scan with bracketOpen := true }
  | ']' =>
      if !scan.bracketOpen || scan.bracketClosed then none
      else some { scan with bracketClosed := true, colons := 0, percent := false }
  | '@' => some { scan with endsInAt := true, colons := 0, percent := false }
  | '%' => some { scan with percent := true }
  | c => if isAuthorityChar c then some scan else none

def AuthorityScan.isComplete (scan : AuthorityScan) : Bool :=
  scan.bracketOpen == scan.bracketClosed && scan.colons ≤ 1 && !scan.endsInAt && !scan.percent

/-- Whether a text is an authority; the empty text counts as one. -/
def isAuthority (cs : List Char) : Bool :=
  match cs.foldlM AuthorityScan.step {} with
  | some scan => scan.isComplete
  | none => false

def cutAuthority? (cs : List Char) : Option (List Char × List Char) :=
  let authority := cs.takeWhile fun c => c != '/' && c != '?' && c != '#'
  if isAuthority authority then some (authority, cs.drop authority.length) else none

/-- Nothing in place of a path stands for `/`. -/
def orSlash (path : List Char) : List Char := if path = [] then ['/'] else path

/-- The longest text that is read as a target, in bytes. -/
def maxBytes : Nat := 65534

def maxScheme : Nat := 64

def pathChars? (cs : List Char) : Option (List Char) :=
  match cs with
  | [] => none
  | ['*'] => some ['*']
  | '/' :: _ => (pathBefore? cs).map orSlash
  | _ =>
      match scheme? cs with
      | some (scheme, rest) =>
          if scheme.length > maxScheme then none
          else
            match cutAuthority? rest with
            | some (_ :: _, rest) => (pathBefore? rest).map orSlash
            | _ => none
      | none =>
          match cutAuthority? cs with
          | some (_, []) => some []
          | _ => none

def path? (text : String) : Option String :=
  if text.utf8ByteSize > maxBytes then none
  else (pathChars? text.toList).map String.ofList

example : path? "/a/b?x=1#y" = some "/a/b" := by decide

example : path? "http://host:80" = some "/" := by decide

example : path? "host:80" = some "" := by decide

example : path? "a/b" = none := by decide

example : path? "/a b" = none := by decide

end RequestPipeline.Http.Target
