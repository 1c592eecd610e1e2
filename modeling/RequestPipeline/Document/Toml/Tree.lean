import RequestPipeline.Document

/-!
# Tables of a TOML text

A table grows by headers and by dotted keys. How each part of it came about decides whether it
may grow further: a table with a header of its own is not extended by dotted keys, one made by
dotted keys is not given a header, and a value is not extended at all.
-/

namespace RequestPipeline.Document.Toml

inductive Origin
  /-- On the way to a header. -/
  | implied
  /-- By a header of its own. -/
  | header
  /-- By a dotted key. -/
  | dotted
  deriving DecidableEq, Repr

/-- A value, or a table that may still grow. -/
inductive Node
  | leaf (value : Document)
  | branch (origin : Origin) (entries : List (String × Node))

abbrev Entries := List (String × Node)

namespace Entries

def node? (entries : Entries) (key : String) : Option Node :=
  (entries.find? (·.1 == key)).map Prod.snd

def put (entries : Entries) (key : String) (node : Node) : Entries :=
  entries.filter (·.1 != key) ++ [(key, node)]

/-- Adds a value under a key of several parts; `origin` tells how the table itself came about
when dotted parts led to it. -/
def insert (origin : Option Origin) (entries : Entries) :
    List String → Document → Option Entries
  | [], _ => none
  | [key], value =>
      if origin.any (· != .dotted) then none
      else if (entries.node? key).isSome then none
      else some (entries.put key (.leaf value))
  | key :: rest, value =>
      match entries.node? key with
      | none =>
          (insert (some .dotted) [] rest value).map fun inner =>
            entries.put key (.branch .dotted inner)
      | some (.leaf _) => none
      | some (.branch .header _) => none
      | some (.branch origin inner) =>
          (insert (some origin) inner rest value).map fun inner =>
            entries.put key (.branch origin inner)

def openHeader (entries : Entries) : List String → Option Entries
  | [] => none
  | [key] =>
      match entries.node? key with
      | none => some (entries.put key (.branch .header []))
      | some (.branch .implied inner) => some (entries.put key (.branch .header inner))
      | some _ => none
  | key :: rest =>
      match entries.node? key with
      | none =>
          (openHeader [] rest).map fun inner => entries.put key (.branch .implied inner)
      | some (.leaf _) => none
      | some (.branch origin inner) =>
          (openHeader inner rest).map fun inner => entries.put key (.branch origin inner)

def changeAt (change : Entries → Option Entries) (entries : Entries) :
    List String → Option Entries
  | [] => change entries
  | key :: rest =>
      match entries.node? key with
      | some (.branch origin inner) =>
          (changeAt change inner rest).map fun inner => entries.put key (.branch origin inner)
      | _ => none

end Entries

mutual

def Node.document : Node → Document
  | .leaf value => value
  | .branch _ entries => .table (documents entries)

def documents : List (String × Node) → List (String × Document)
  | [] => []
  | (key, node) :: rest => (key, node.document) :: documents rest

end

end RequestPipeline.Document.Toml
