import RequestPipeline.Document
import RequestPipeline.Identifier

/-!
# Reading JSON

A strict reader for the values a document may hold: no byte order mark, nothing after the value,
no raw control characters in a string, no lone surrogates. A number is refused while reading.
-/

namespace RequestPipeline.Document.Json

def isBlank (c : Char) : Bool := c == ' ' || c == '\t' || c == '\n' || c == '\r'

def skip (cs : List Char) : List Char := cs.dropWhile isBlank

def hex4? : List Char → Option (Nat × List Char)
  | a :: b :: c :: d :: rest =>
      match hexValue? a, hexValue? b, hexValue? c, hexValue? d with
      | some a, some b, some c, some d => some (((a.val * 16 + b) * 16 + c) * 16 + d, rest)
      | _, _, _, _ => none
  | _ => none

/-- The character of a code point that is no surrogate. -/
def scalar? (n : Nat) : Option Char :=
  if h : n.isValidChar then some (Char.ofNatAux n h) else none

def shortEscape? : Char → Option Char
  | '"' => some '"'
  | '\\' => some '\\'
  | '/' => some '/'
  | 'b' => some '\x08'
  | 'f' => some '\x0c'
  | 'n' => some '\n'
  | 'r' => some '\r'
  | 't' => some '\t'
  | _ => none

/-- The character of an escape, the backslash being read; a high surrogate needs a low one
after it. -/
def escape? : List Char → Option (Char × List Char)
  | 'u' :: rest =>
      match hex4? rest with
      | none => none
      | some (n, rest) =>
          if 0xD800 ≤ n ∧ n < 0xDC00 then
            match rest with
            | '\\' :: 'u' :: rest =>
                match hex4? rest with
                | none => none
                | some (m, rest) =>
                    if 0xDC00 ≤ m ∧ m < 0xE000 then
                      (scalar? (0x10000 + (n - 0xD800) * 1024 + (m - 0xDC00))).map (·, rest)
                    else none
            | _ => none
          else (scalar? n).map (·, rest)
  | c :: rest => (shortEscape? c).map (·, rest)
  | [] => none

/-- The rest of a string up to its closing mark; the fuel bounds the characters. -/
def stringRest? : Nat → List Char → Option (List Char × List Char)
  | 0, _ => none
  | _ + 1, [] => none
  | _ + 1, '"' :: rest => some ([], rest)
  | fuel + 1, '\\' :: rest =>
      match escape? rest with
      | none => none
      | some (c, rest) => (stringRest? fuel rest).map fun (chars, rest) => (c :: chars, rest)
  | fuel + 1, c :: rest =>
      if c.val < 32 then none
      else (stringRest? fuel rest).map fun (chars, rest) => (c :: chars, rest)

def string? (cs : List Char) : Option (String × List Char) :=
  (stringRest? (cs.length + 1) cs).map fun (chars, rest) => (String.ofList chars, rest)

def word? : List Char → List Char → Option (List Char)
  | [], cs => some cs
  | w :: word, c :: cs => if w = c then word? word cs else none
  | _ :: _, [] => none

mutual

/-- A value; the fuel bounds the nesting and the number of items. -/
def value? : Nat → List Char → Option (Document × List Char)
  | 0, _ => none
  | fuel + 1, cs =>
      match skip cs with
      | '"' :: rest => (string? rest).map fun (value, rest) => (.text value, rest)
      | '[' :: rest =>
          match skip rest with
          | ']' :: rest => some (.list [], rest)
          | rest => (items? fuel rest).map fun (items, rest) => (.list items, rest)
      | '\x7b' :: rest =>
          match skip rest with
          | '\x7d' :: rest => some (.table [], rest)
          | rest => (entries? fuel rest).map fun (entries, rest) => (.table entries, rest)
      | 't' :: rest => (word? "rue".toList rest).map (.flag true, ·)
      | 'f' :: rest => (word? "alse".toList rest).map (.flag false, ·)
      | 'n' :: rest => (word? "ull".toList rest).map (.null, ·)
      | _ => none

def items? : Nat → List Char → Option (List Document × List Char)
  | 0, _ => none
  | fuel + 1, cs =>
      match value? fuel cs with
      | none => none
      | some (item, rest) =>
          match skip rest with
          | ']' :: rest => some ([item], rest)
          | ',' :: rest => (items? fuel rest).map fun (items, rest) => (item :: items, rest)
          | _ => none

def entries? : Nat → List Char → Option (List (String × Document) × List Char)
  | 0, _ => none
  | fuel + 1, cs =>
      match skip cs with
      | '"' :: rest =>
          match string? rest with
          | none => none
          | some (key, rest) =>
              match skip rest with
              | ':' :: rest =>
                  match value? fuel rest with
                  | none => none
                  | some (value, rest) =>
                      match skip rest with
                      | '\x7d' :: rest => some ([(key, value)], rest)
                      | ',' :: rest =>
                          (entries? fuel rest).map fun (entries, rest) =>
                            ((key, value) :: entries, rest)
                      | _ => none
              | _ => none
      | _ => none

end

def read? (text : String) : Option Document :=
  let cs := text.toList
  match value? (2 * cs.length + 2) cs with
  | some (value, rest) => if skip rest = [] then some value else none
  | none => none

end RequestPipeline.Document.Json
