import RequestPipeline.Text.Alphanumeric
import RequestPipeline.Text.Blank

/-!
# Environment files

A file of `KEY = value` entries with comments, two kinds of quotes, escapes and substitution of
variables. An entry goes on over the end of a line while a quote is open.
-/

namespace RequestPipeline

abbrev Environment := List (String × String)

namespace Environment

def value? (environment : Environment) (name : String) : Option String :=
  (environment.find? (·.1 == name)).map Prod.snd

def setIfMissing (environment : Environment) (name value : String) : Environment :=
  if (environment.value? name).isSome then environment else environment ++ [(name, value)]

end Environment

namespace EnvFile

open Text

inductive Scan
  | plain
  | blank
  | escape
  | double
  | doubleEscape
  | single
  | singleEscape
  deriving DecidableEq, Repr

def Scan.outside (c : Char) (otherwise : Scan) : Scan :=
  if c = '\\' then .escape
  else if c = '"' then .double
  else if c = '\'' then .single
  else otherwise

/-- One more character; a comment begins at a `#` right behind a blank and is not stepped into. -/
def Scan.step (scan : Scan) (c : Char) : Scan :=
  match scan with
  | .plain =>
      if isBlank c && c != '\n' && c != '\r' then .blank else .outside c .plain
  | .blank => .outside c .plain
  | .escape => .plain
  | .double => if c = '\\' then .doubleEscape else if c = '"' then .plain else .double
  | .doubleEscape => .double
  | .single => if c = '\\' then .singleEscape else if c = '\'' then .plain else .single
  | .singleEscape => .single

/-- Scans a line up to a comment: what stands before it, and the scan at the end of a line
without one. -/
def scanLine : Scan → List Char → List Char × Option Scan
  | scan, [] => ([], some scan)
  | scan, c :: rest =>
      if scan = .blank ∧ c = '#' then ([], none)
      else
        let (kept, last) := scanLine (scan.step c) rest
        (c :: kept, last)

def dropLineEnd (cs : List Char) : List Char :=
  if cs.getLast? = some '\n' then
    let cs := cs.dropLast
    if cs.getLast? = some '\r' then cs.dropLast else cs
  else cs

def physicalLines : List Char → List (List Char)
  | [] => []
  | '\n' :: rest => ['\n'] :: physicalLines rest
  | c :: rest =>
      match physicalLines rest with
      | [] => [[c]]
      | line :: lines => (c :: line) :: lines

def isComment (cs : List Char) : Bool := (cs.dropWhile isBlank).head? == some '#'

/-- Joins lines into entries; none stands for an entry that the text leaves open. -/
def entries (read : List Char) (scan : Scan) : List (List Char) → List (Option (List Char))
  | [] => if scan = .plain then [] else [none]
  | line :: rest =>
      if isComment (read ++ line) then some [] :: entries [] .plain rest
      else
        match scanLine scan line with
        | (kept, none) => some (read ++ kept) :: entries [] .plain rest
        | (_, some .plain) => some (dropLineEnd (read ++ line)) :: entries [] .plain rest
        | (_, some scan) => entries (read ++ line) scan rest

/-- Where in a value a character stands; `quoted` tells whether double quotes are open. -/
inductive Place
  | text (quoted : Bool)
  | literal
  | escape (quoted : Bool)
  | reference (quoted : Bool) (name : List Char)
  | braced (quoted : Bool) (name : List Char)
  | behind

def escaped? (c : Char) : Option Char :=
  if c = 'n' then some '\n'
  else if c = '\\' ∨ c = '\'' ∨ c = '"' ∨ c = '$' ∨ c = ' ' then some c
  else none

def substitute (environment : Environment) (name : List Char) : List Char :=
  ((environment.value? (String.ofList name)).getD "").toList

/-- Reads a value from a place on. A name without braces ends at the first character that is no
letter or digit, which then stands for itself. -/
def value? (environment : Environment) : Place → List Char → Option (List Char)
  | .text false, [] | .escape false, [] | .behind, [] => some []
  | .reference false name, [] => some (substitute environment name)
  | _, [] => none
  | .text quoted, c :: rest =>
      if c = '$' then value? environment (.reference quoted []) rest
      else if c = '"' then value? environment (.text !quoted) rest
      else if c = '\\' then value? environment (.escape quoted) rest
      else if quoted then (value? environment (.text true) rest).map (c :: ·)
      else if c = '\'' then value? environment .literal rest
      else if c = ' ' ∨ c = '\t' then value? environment .behind rest
      else (value? environment (.text false) rest).map (c :: ·)
  | .literal, c :: rest =>
      if c = '\'' then value? environment (.text false) rest
      else (value? environment .literal rest).map (c :: ·)
  | .escape quoted, c :: rest =>
      match escaped? c with
      | some c => (value? environment (.text quoted) rest).map (c :: ·)
      | none => none
  | .reference quoted name, c :: rest =>
      if isAlphanumeric c then value? environment (.reference quoted (name ++ [c])) rest
      else if c = '\x7b' ∧ name = [] then value? environment (.braced quoted []) rest
      else if c = '$' then
        (value? environment (.reference quoted []) rest).map (substitute environment name ++ ·)
      else (value? environment (.text quoted) rest).map (substitute environment name ++ c :: ·)
  | .braced quoted name, c :: rest =>
      if c = '\x7d' then
        (value? environment (.text quoted) rest).map (substitute environment name ++ ·)
      else value? environment (.braced quoted (name ++ [c])) rest
  | .behind, c :: rest =>
      if c = ' ' ∨ c = '\t' then value? environment .behind rest
      else if c = '#' then some []
      else none

def isKeyStart (c : Char) : Bool := c.isAlpha || c == '_'

def isKeyChar (c : Char) : Bool := c.isAlphanum || c == '_' || c == '.'

def key? (cs : List Char) : Option (List Char × List Char) :=
  if cs.head?.any isKeyStart then
    let key := cs.takeWhile isKeyChar
    some (key, (cs.drop key.length).dropWhile isBlank)
  else none

/-- A key and what stands behind its `=`; the word `export` may stand in front of a key. -/
def assignment? (cs : List Char) : Option (List Char × List Char) :=
  match key? cs with
  | none => none
  | some (key, '=' :: rest) => some (key, rest)
  | some (key, rest) =>
      if key = "export".toList then
        match key? rest with
        | some (key, '=' :: rest) => some (key, rest)
        | _ => none
      else none

/-- What an entry does to the variables; none when it is malformed. -/
def assign? (environment : Environment) (entry : List Char) : Option Environment :=
  let cs := (dropEndWhile isBlank entry).dropWhile isBlank
  if cs = [] ∨ cs.head? = some '#' then some environment
  else
    match assignment? cs with
    | none => none
    | some (key, rest) =>
        let rest := rest.dropWhile isBlank
        let value :=
          if rest = [] ∨ rest.head? = some '#' then some []
          else value? environment (.text false) rest
        value.map fun value =>
          environment.setIfMissing (String.ofList key) (String.ofList value)

def dropMark : List Char → List Char
  | '\uFEFF' :: rest => rest
  | cs => cs

def load? (environment : Environment) (text : String) : Option Environment :=
  (entries [] .plain (physicalLines (dropMark text.toList))).foldlM
    (fun environment entry => entry.bind (assign? environment)) environment

end EnvFile

end RequestPipeline
