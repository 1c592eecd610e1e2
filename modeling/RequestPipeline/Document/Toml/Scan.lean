import RequestPipeline.Document
import RequestPipeline.Identifier

/-!
# Scanning TOML

The characters of a TOML text as blanks, comments, keys and strings. Each reader gives what it
has read and what is left.
-/

namespace RequestPipeline.Document.Toml

def isBlank (c : Char) : Bool := c == ' ' || c == '\t'

def skip (cs : List Char) : List Char := cs.dropWhile isBlank

def newline? : List Char → Option (List Char)
  | '\n' :: rest => some rest
  | '\r' :: '\n' :: rest => some rest
  | _ => none

/-- Whether a character may stand for itself in a comment or a string: every character but the
controls, of which the tab alone is admitted. -/
def isPlainChar (c : Char) : Bool :=
  c == '\t' || (0x20 ≤ c.val && c.val ≤ 0x7E) || 0x80 ≤ c.val

def skipComment (cs : List Char) : List Char :=
  match cs with
  | '#' :: rest => rest.dropWhile isPlainChar
  | _ => cs

def lineEnd? (cs : List Char) : Option (List Char) :=
  match skipComment (skip cs) with
  | [] => some []
  | rest => newline? rest

def skipLines : Nat → List Char → List Char
  | 0, cs => cs
  | fuel + 1, cs =>
      let rest := skipComment (skip cs)
      match newline? rest with
      | some rest => skipLines fuel rest
      | none => rest

def word? : List Char → List Char → Option (List Char)
  | [], cs => some cs
  | w :: word, c :: cs => if w = c then word? word cs else none
  | _ :: _, [] => none

def digitValue? (base : Nat) (c : Char) : Option Nat :=
  match hexValue? c with
  | some digit => if digit.val < base then some digit.val else none
  | none => none

/-- The number that `count` digits at the head of a text make behind those that made `n`. -/
def fixedDigits? (base : Nat) : Nat → Nat → List Char → Option (Nat × List Char)
  | 0, n, cs => some (n, cs)
  | count + 1, n, c :: cs =>
      match digitValue? base c with
      | some digit => fixedDigits? base count (n * base + digit) cs
      | none => none
  | _ + 1, _, [] => none

def codePoint? (count : Nat) (cs : List Char) : Option (Char × List Char) :=
  match fixedDigits? 16 count 0 cs with
  | some (n, rest) => if h : n.isValidChar then some (Char.ofNatAux n h, rest) else none
  | none => none

def escape? : List Char → Option (Char × List Char)
  | 'b' :: rest => some ('\x08', rest)
  | 't' :: rest => some ('\t', rest)
  | 'n' :: rest => some ('\n', rest)
  | 'f' :: rest => some ('\x0c', rest)
  | 'r' :: rest => some ('\r', rest)
  | '"' :: rest => some ('"', rest)
  | '\\' :: rest => some ('\\', rest)
  | 'u' :: rest => codePoint? 4 rest
  | 'U' :: rest => codePoint? 8 rest
  | _ => none

def skipBreaks : List Char → List Char
  | '\r' :: '\n' :: rest => skipBreaks rest
  | c :: rest => if isBlank c || c == '\n' then skipBreaks rest else c :: rest
  | [] => []

/-- What is left after a backslash at the end of a line: the blanks and line ends behind it do
not belong to the string. -/
def continuation? (cs : List Char) : Option (List Char) := (newline? (skip cs)).map skipBreaks

def push (c : Char) (read : Option (List Char × List Char)) : Option (List Char × List Char) :=
  read.map fun (chars, rest) => (c :: chars, rest)

def basicRest? : Nat → List Char → Option (List Char × List Char)
  | 0, _ => none
  | _ + 1, [] => none
  | _ + 1, '"' :: rest => some ([], rest)
  | fuel + 1, '\\' :: rest =>
      match escape? rest with
      | some (c, rest) => push c (basicRest? fuel rest)
      | none => none
  | fuel + 1, c :: rest => if isPlainChar c then push c (basicRest? fuel rest) else none

def literalRest? : List Char → Option (List Char × List Char)
  | [] => none
  | '\'' :: rest => some ([], rest)
  | c :: rest => if isPlainChar c then push c (literalRest? rest) else none

/-- The marks that still belong to a string of several lines after its closing three. -/
def closingMarks (mark : Char) (rest : List Char) : List Char × List Char :=
  let extra := (rest.takeWhile (· == mark)).take 2
  (extra, rest.drop extra.length)

def longBasicRest? : Nat → List Char → Option (List Char × List Char)
  | 0, _ => none
  | _ + 1, [] => none
  | _ + 1, '"' :: '"' :: '"' :: rest => some (closingMarks '"' rest)
  | fuel + 1, '\\' :: rest =>
      match continuation? rest with
      | some rest => longBasicRest? fuel rest
      | none =>
          match escape? rest with
          | some (c, rest) => push c (longBasicRest? fuel rest)
          | none => none
  | fuel + 1, c :: rest =>
      match newline? (c :: rest) with
      | some rest => push '\n' (longBasicRest? fuel rest)
      | none => if isPlainChar c then push c (longBasicRest? fuel rest) else none

def longLiteralRest? : Nat → List Char → Option (List Char × List Char)
  | 0, _ => none
  | _ + 1, [] => none
  | _ + 1, '\'' :: '\'' :: '\'' :: rest => some (closingMarks '\'' rest)
  | fuel + 1, c :: rest =>
      match newline? (c :: rest) with
      | some rest => push '\n' (longLiteralRest? fuel rest)
      | none => if isPlainChar c then push c (longLiteralRest? fuel rest) else none

def dropFirstLineEnd (cs : List Char) : List Char := (newline? cs).getD cs

def shortString? : List Char → Option (List Char × List Char)
  | '"' :: rest => basicRest? (rest.length + 1) rest
  | '\'' :: rest => literalRest? rest
  | _ => none

def string? : List Char → Option (List Char × List Char)
  | '"' :: '"' :: '"' :: rest =>
      let rest := dropFirstLineEnd rest
      longBasicRest? (rest.length + 1) rest
  | '\'' :: '\'' :: '\'' :: rest =>
      let rest := dropFirstLineEnd rest
      longLiteralRest? (rest.length + 1) rest
  | cs => shortString? cs

def isBareKeyChar (c : Char) : Bool := c.isAlphanum || c == '-' || c == '_'

def keyPart? (cs : List Char) : Option (String × List Char) :=
  match cs with
  | '"' :: _ | '\'' :: _ => (shortString? cs).map fun (chars, rest) => (String.ofList chars, rest)
  | _ =>
      let bare := cs.takeWhile isBareKeyChar
      if bare = [] then none else some (String.ofList bare, cs.drop bare.length)

/-- At most so many parts of a key with dots between them, blanks around each dropped. -/
def keyParts? : Nat → List Char → Option (List String × List Char)
  | 0, _ => none
  | parts + 1, cs =>
      match keyPart? (skip cs) with
      | none => none
      | some (part, rest) =>
          match skip rest with
          | '.' :: rest => (keyParts? parts rest).map fun (parts, rest) => (part :: parts, rest)
          | rest => some ([part], rest)

/-- How deep the brackets of a value may be nested, and how many parts a key may have. -/
def deepest : Nat := 79

def key? (cs : List Char) : Option (List String × List Char) := keyParts? deepest cs

end RequestPipeline.Document.Toml
