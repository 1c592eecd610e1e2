/-!
# Identifiers

Identifiers of 128 bits as thirty-two hexadecimal digits.  How they are read, written and issued is
left to a scheme.  The standard one writes the hyphenated text, reads four forms, and numbers the
identifiers that it issues.
-/

namespace RequestPipeline

def hexValue? (c : Char) : Option (Fin 16) :=
  let n := c.toNat
  if n < 48 then none
  else if h : n - 48 < 10 then some ⟨n - 48, by omega⟩
  else if n < 65 then none
  else if h : n - 65 < 6 then some ⟨n - 65 + 10, by omega⟩
  else if n < 97 then none
  else if h : n - 97 < 6 then some ⟨n - 97 + 10, by omega⟩
  else none

def hexDigit (value : Fin 16) : Char :=
  if value.val < 10 then Char.ofNat (48 + value.val) else Char.ofNat (87 + value.val)

theorem hexValue?_hexDigit (value : Fin 16) : hexValue? (hexDigit value) = some value := by
  revert value
  decide

structure Identifier where
  digits : List (Fin 16)
  length_digits : digits.length = 32
  deriving DecidableEq

namespace Identifier

def groups : List Nat := [8, 4, 4, 4, 12]

def writeGroups : List Nat → List (Fin 16) → List Char
  | [], _ => []
  | [n], digits => (digits.take n).map hexDigit
  | n :: rest, digits => (digits.take n).map hexDigit ++ '-' :: writeGroups rest (digits.drop n)

def readDigits : Nat → List Char → Option (List (Fin 16) × List Char)
  | 0, cs => some ([], cs)
  | _ + 1, [] => none
  | n + 1, c :: cs =>
      match hexValue? c, readDigits n cs with
      | some digit, some (digits, rest) => some (digit :: digits, rest)
      | _, _ => none

/-- Reads groups of digits with a hyphen between them; nothing may follow. -/
def readGroups : List Nat → List Char → Option (List (Fin 16))
  | [], cs => if cs = [] then some [] else none
  | n :: groups, cs =>
      match readDigits n cs with
      | none => none
      | some (digits, rest) =>
          match groups, rest with
          | [], [] => some digits
          | _ :: _, '-' :: rest => (readGroups groups rest).map (digits ++ ·)
          | _, _ => none

def ofDigits? (digits : List (Fin 16)) : Option Identifier :=
  if h : digits.length = 32 then some ⟨digits, h⟩ else none

def text (id : Identifier) : String := String.ofList (writeGroups groups id.digits)

def readHyphenated? (cs : List Char) : Option Identifier :=
  (readGroups groups cs).bind ofDigits?

def readPlain? (cs : List Char) : Option Identifier :=
  (readGroups [32] cs).bind ofDigits?

def unbrace? : List Char → Option (List Char)
  | '\x7b' :: cs => if cs.getLast? = some '\x7d' then some cs.dropLast else none
  | _ => none

def unurn? (cs : List Char) : Option (List Char) :=
  if (cs.take 9).map Char.toLower = "urn:uuid:".toList then some (cs.drop 9) else none

/-- Reads plain digits, the hyphenated form, and the latter in braces or as a name of its own
scheme. -/
def parse? (cs : List Char) : Option Identifier :=
  readPlain? cs <|> readHyphenated? cs <|> (unbrace? cs).bind readHyphenated?
    <|> (unurn? cs).bind readHyphenated?

/-- The first twenty digits of every identifier handed out here; the thirteenth is a 7. -/
def issuedHead : List (Fin 16) :=
  [0, 1, 9, 10, 7, 12, 4, 14, 5, 11, 3, 6, 7, 13, 2, 15, 9, 8, 4, 14]

def lowDigits : Nat → Nat → List (Fin 16)
  | 0, _ => []
  | width + 1, n => lowDigits width (n / 16) ++ [Fin.ofNat 16 n]

theorem length_lowDigits (width n : Nat) : (lowDigits width n).length = width := by
  induction width generalizing n with
  | zero => rfl
  | succ width ih => simp [lowDigits, ih]

def issued (n : Nat) : Identifier where
  digits := issuedHead ++ lowDigits 12 n
  length_digits := by simp [length_lowDigits, issuedHead]

def issuedNumber? (id : Identifier) : Option Nat :=
  if id.digits.take 20 = issuedHead then
    some ((id.digits.drop 20).foldl (fun n digit => n * 16 + digit.val) 0)
  else none

example : (issued 3).text = "019a7c4e-5b36-7d2f-984e-000000000003" := by decide

example : (issued 300).issuedNumber? = some 300 := by decide

end Identifier

/-- How identifiers are read, written and issued, the `n`-th one after those before it. -/
structure IdentifierScheme where
  read? : List Char → Option Identifier
  text : Identifier → String
  issue : Nat → Identifier

def IdentifierScheme.standard : IdentifierScheme :=
  ⟨Identifier.parse?, Identifier.text, Identifier.issued⟩

end RequestPipeline
