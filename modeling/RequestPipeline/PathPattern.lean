import RequestPipeline.Text.Cut
import RequestPipeline.Error

/-!
# Path patterns

Five shapes of pattern, written `/a/b`, the empty text, `/a/*`, `*.e` and `/`; which paths each
accepts, and which of two patterns takes precedence.
-/

namespace RequestPipeline

inductive PathPattern
  /-- One path. -/
  | exact (path : String)
  /-- The context root alone, written as the empty text. -/
  | root
  /-- A path and everything below it, written with a closing `/*`. -/
  | subtree (stem : String)
  /-- Every path whose last segment has the extension. -/
  | extension (ext : String)
  /-- Every path, written `/`. -/
  | fallback
  deriving DecidableEq, Repr

namespace PathPattern

open Text

/-- The stem of a text that ends in `/*`. -/
def stem? (cs : List Char) : Option (List Char) := stripEnd? ['/', '*'] cs

def ofChars? : List Char → Option PathPattern
  | [] => some .root
  | ['/'] => some .fallback
  | '*' :: '.' :: ext =>
      if ext = [] ∨ '/' ∈ ext ∨ '*' ∈ ext then none else some (.extension (String.ofList ext))
  | '/' :: rest =>
      match stem? ('/' :: rest) with
      | some stem => if '*' ∈ stem then none else some (.subtree (String.ofList stem))
      | none => if '*' ∈ rest then none else some (.exact (String.ofList ('/' :: rest)))
  | _ => none

def parse (text : String) : Except Error PathPattern :=
  match ofChars? text.toList with
  | some pattern => .ok pattern
  | none => .error (.configuration ("invalid path pattern '" ++ text ++ "'"))

/-- Reads every pattern of a list; the first malformed one decides the error. -/
def parseAll : List String → Except Error (List PathPattern)
  | [] => .ok []
  | text :: texts =>
      match parse text with
      | .error e => .error e
      | .ok pattern =>
          match parseAll texts with
          | .error e => .error e
          | .ok patterns => .ok (pattern :: patterns)

def text : PathPattern → String
  | .exact path => path
  | .root => ""
  | .subtree stem => stem ++ "/*"
  | .extension ext => "*." ++ ext
  | .fallback => "/"

/-- What follows the last dot of the last segment. -/
def extensionOf? (path : List Char) : Option (List Char) :=
  afterLast? '.' (afterLast '/' path)

def accepts (pattern : PathPattern) (path : String) : Bool :=
  match pattern with
  | .exact wanted => wanted == path
  | .root => path == "/" || path == ""
  | .subtree stem =>
      match stripStart? stem.toList path.toList with
      | some rest => rest.isEmpty || rest.head? == some '/'
      | none => false
  | .extension ext => extensionOf? path.toList == some ext.toList
  | .fallback => true

/-- The standing of each shape: one path before a subtree, before an extension, before all. -/
def rank : PathPattern → Nat
  | .exact _ | .root => 3
  | .subtree _ => 2
  | .extension _ => 1
  | .fallback => 0

/-- Compares two patterns for the same path; of two subtrees the one with the longer stem, in
bytes, stands higher. -/
def precedence (a b : PathPattern) : Ordering :=
  match a, b with
  | .subtree s, .subtree t => compare s.utf8ByteSize t.utf8ByteSize
  | _, _ => compare a.rank b.rank

def shape : PathPattern → String
  | .exact _ => "exact"
  | .root => "root"
  | .subtree _ => "prefix"
  | .extension _ => "extension"
  | .fallback => "default"

/-- The text that the shape leaves open. -/
def held : PathPattern → String
  | .exact text | .subtree text | .extension text => text
  | .root | .fallback => ""

end PathPattern

end RequestPipeline
