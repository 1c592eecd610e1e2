import RequestPipeline.Document.Toml.Moment
import RequestPipeline.Document.Toml.Number
import RequestPipeline.Document.Toml.Tree

/-!
# Reading TOML

Reads a text of headers and entries as one table. Arrays of tables by header are refused while
reading, since no setting is one.
-/

namespace RequestPipeline.Document.Toml

def inlineTable? (entries : List (List String × Document)) : Option Document :=
  (entries.foldlM (fun made (key, value) => Entries.insert none made key value) []).map
    fun made => .table (documents made)

def plain? (cs : List Char) : Option (Document × List Char) :=
  ((moment? cs).orElse fun _ => number? cs).map fun rest =>
    (.plain (String.ofList (cs.take (cs.length - rest.length))), rest)

mutual

/-- A value; the fuel bounds the number of items, and `levels` the nesting of brackets. -/
def value? : Nat → Nat → List Char → Option (Document × List Char)
  | 0, _, _ => none
  | fuel + 1, levels, cs =>
      match cs, levels with
      | '"' :: _, _ | '\'' :: _, _ =>
          (string? cs).map fun (chars, rest) => (.text (String.ofList chars), rest)
      | 't' :: rest, _ => (word? "rue".toList rest).map (.flag true, ·)
      | 'f' :: rest, _ => (word? "alse".toList rest).map (.flag false, ·)
      | '[' :: _, 0 | '\x7b' :: _, 0 => none
      | '[' :: rest, levels + 1 =>
          (items? fuel levels rest).map fun (items, rest) => (.list items, rest)
      | '\x7b' :: rest, levels + 1 =>
          match skip rest with
          | '\x7d' :: rest => some (.table [], rest)
          | rest =>
              match entries? fuel levels rest with
              | some (entries, rest) => (inlineTable? entries).map (·, rest)
              | none => none
      | cs, _ => plain? cs

/-- The items of an array up to its closing bracket; a comma may stand behind the last one. -/
def items? : Nat → Nat → List Char → Option (List Document × List Char)
  | 0, _, _ => none
  | fuel + 1, levels, cs =>
      match skipLines cs.length cs with
      | ']' :: rest => some ([], rest)
      | cs =>
          match value? fuel levels cs with
          | none => none
          | some (item, rest) =>
              match skipLines rest.length rest with
              | ']' :: rest => some ([item], rest)
              | ',' :: rest =>
                  (items? fuel levels rest).map fun (items, rest) => (item :: items, rest)
              | _ => none

/-- The entries between braces up to the closing one; no comma stands behind the last one. -/
def entries? : Nat → Nat → List Char → Option (List (List String × Document) × List Char)
  | 0, _, _ => none
  | fuel + 1, levels, cs =>
      match key? cs with
      | some (key, '=' :: rest) =>
          match value? fuel levels (skip rest) with
          | none => none
          | some (value, rest) =>
              match skip rest with
              | '\x7d' :: rest => some ([(key, value)], rest)
              | ',' :: rest =>
                  (entries? fuel levels rest).map fun (entries, rest) =>
                    ((key, value) :: entries, rest)
              | _ => none
      | _ => none

end

def header? (cs : List Char) : Option (List String × List Char) :=
  match key? cs with
  | some (key, ']' :: rest) => (lineEnd? rest).map (key, ·)
  | _ => none

def entry? (cs : List Char) : Option ((List String × Document) × List Char) :=
  match key? cs with
  | some (key, '=' :: rest) =>
      let rest := skip rest
      match value? (2 * rest.length + 2) deepest rest with
      | some (value, rest) => (lineEnd? rest).map ((key, value), ·)
      | none => none
  | _ => none

/-- Reads headers and entries; entries go into the table of the last header. The fuel bounds the
lines. -/
def lines? : Nat → List String → Entries → List Char → Option Entries
  | 0, _, _, _ => none
  | fuel + 1, path, entries, cs =>
      match skipLines cs.length cs with
      | [] => some entries
      | '[' :: rest =>
          match header? rest with
          | some (key, rest) =>
              match entries.openHeader key with
              | some entries => lines? fuel key entries rest
              | none => none
          | none => none
      | cs =>
          match entry? cs with
          | some ((key, value), rest) =>
              match entries.changeAt (fun inner => inner.insert none key value) path with
              | some entries => lines? fuel path entries rest
              | none => none
          | none => none

def dropMark : List Char → List Char
  | '\uFEFF' :: rest => rest
  | cs => cs

def read? (text : String) : Option Document :=
  let cs := dropMark text.toList
  (lines? (cs.length + 1) [] [] cs).map fun entries => .table (documents entries)

end RequestPipeline.Document.Toml
