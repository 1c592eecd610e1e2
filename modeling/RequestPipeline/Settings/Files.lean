import RequestPipeline.Text.Cut

/-!
# Files

The files below the current directory, and the names by which they are reached.
-/

namespace RequestPipeline

inductive FileNode
  | text (content : String)
  /-- A file whose content is no text. -/
  | binary
  | directory
  deriving DecidableEq, Repr

def FileNode.ofBytes (bytes : ByteArray) : FileNode :=
  match String.fromUTF8? bytes with
  | some content => .text content
  | none => .binary

/-- Files by name; the parts of a name have `/` between them. -/
abbrev Files := List (String × FileNode)

namespace Files

/-- What a name in its full form leads to; a part of such a name leads to a directory. -/
def node? (files : Files) (name : List Char) : Option FileNode :=
  match files.find? (·.1.toList == name) with
  | some (_, node) => some node
  | none =>
      if files.any fun file => (Text.stripStart? (name ++ ['/']) file.1.toList).isSome then
        some .directory
      else none

def isStep (part : List Char) : Bool :=
  part == [] || part == ".".toList || part == "..".toList

def join (directory : List (List Char)) : List Char :=
  ['/'].intercalate directory

/-- Follows the parts of a name from a directory; above the current directory nothing is known
but the directories themselves. -/
def walk (files : Files) : List (List Char) → List (List Char) → Option FileNode
  | _, [] => some .directory
  | directory, part :: rest =>
      if part = [] ∨ part = ".".toList then walk files directory rest
      else if part = "..".toList then
        if directory = [] then (if rest.all isStep then some .directory else none)
        else walk files directory.dropLast rest
      else
        match files.node? (join (directory ++ [part])) with
        | some .directory => walk files (directory ++ [part]) rest
        | some node => if rest = [] then some node else none
        | none => none

/-- A name of more bytes than this leads nowhere, whatever its parts are. -/
def longestName : Nat := 4095

def lookup (files : Files) (name : String) : Option FileNode :=
  if longestName < name.utf8ByteSize then none
  else
    match name.toList with
    | [] => none
    | '/' :: rest => if (Text.splitAt '/' rest).all isStep then some .directory else none
    | chars => files.walk [] (Text.splitAt '/' chars)

/-- The extension of a name: what follows the last dot of its last part, unless that dot is the
first character. -/
def extension? (name : String) : Option String :=
  let part := Text.afterLast '/' name.toList
  match Text.afterLast? '.' part with
  | some ext => if ext.length + 1 = part.length then none else some (String.ofList ext)
  | none => none

example : extension? "a/b.c.toml" = some "toml" := by decide

example : extension? "a/.toml" = none := by decide

end Files

end RequestPipeline
