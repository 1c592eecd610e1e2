/-!
# Documents

Structured values of texts, flags, plain scalars, lists and tables, and their compact written
form.
-/

namespace RequestPipeline

inductive Document
  | null
  | flag (value : Bool)
  /-- A number, a date or a time, kept as it is written: no setting is one. -/
  | plain (written : String)
  | text (value : String)
  | list (items : List Document)
  | table (entries : List (String × Document))

namespace Document

def controlDigits (n : Nat) : String :=
  let digits := Nat.toDigits 16 n
  String.ofList (List.replicate (4 - digits.length) '0' ++ digits)

/-- A character inside quotes: quotation marks, backslashes and controls are escaped. -/
def quoteChar (c : Char) : String :=
  if c = '"' then "\\\""
  else if c = '\\' then "\\\\"
  else if c = '\x08' then "\\b"
  else if c = '\t' then "\\t"
  else if c = '\n' then "\\n"
  else if c = '\x0c' then "\\f"
  else if c = '\r' then "\\r"
  else if c.val < 32 then "\\u" ++ controlDigits c.toNat
  else String.singleton c

def quote (s : String) : String :=
  "\"" ++ String.join (s.toList.map quoteChar) ++ "\""

mutual

/-- The written form without blanks, entries in their order. -/
def compact : Document → String
  | .null => "null"
  | .flag true => "true"
  | .flag false => "false"
  | .plain written => written
  | .text value => quote value
  | .list items => "[" ++ compactItems items ++ "]"
  | .table entries => "\x7b" ++ compactEntries entries ++ "\x7d"

def compactItems : List Document → String
  | [] => ""
  | [item] => item.compact
  | item :: items => item.compact ++ "," ++ compactItems items

def compactEntries : List (String × Document) → String
  | [] => ""
  | [(key, value)] => quote key ++ ":" ++ value.compact
  | (key, value) :: entries =>
      quote key ++ ":" ++ value.compact ++ "," ++ compactEntries entries

end

end Document

end RequestPipeline
