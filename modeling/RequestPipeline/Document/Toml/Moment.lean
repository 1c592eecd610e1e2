import RequestPipeline.Document.Toml.Scan

/-!
# Dates and times of a TOML text

A date, a time, or a date with a time and perhaps the offset of a zone. Each reader gives what is
left behind it.
-/

namespace RequestPipeline.Document.Toml

/-- A number of `count` digits that lies between two bounds. -/
def partBetween? (count low high : Nat) (cs : List Char) : Option (Nat × List Char) :=
  match fixedDigits? 10 count 0 cs with
  | some (n, rest) => if low ≤ n ∧ n ≤ high then some (n, rest) else none
  | none => none

def isLeap (year : Nat) : Bool := year % 4 == 0 && (year % 100 != 0 || year % 400 == 0)

def daysIn (year month : Nat) : Nat :=
  if month = 2 then if isLeap year then 29 else 28
  else if month = 4 ∨ month = 6 ∨ month = 9 ∨ month = 11 then 30
  else 31

def date? (cs : List Char) : Option (List Char) := do
  let (year, rest) ← partBetween? 4 0 9999 cs
  let rest ← word? ['-'] rest
  let (month, rest) ← partBetween? 2 1 12 rest
  let rest ← word? ['-'] rest
  let (_, rest) ← partBetween? 2 1 (daysIn year month) rest
  return rest

def clock? (cs : List Char) : Option (List Char) := do
  let (_, rest) ← partBetween? 2 0 23 cs
  let rest ← word? [':'] rest
  let (_, rest) ← partBetween? 2 0 59 rest
  return rest

def dropFraction (cs : List Char) : List Char :=
  match cs with
  | '.' :: c :: rest => if c.isDigit then rest.dropWhile Char.isDigit else cs
  | _ => cs

/-- A time: hour, minute and second, which may be a leap second. -/
def time? (cs : List Char) : Option (List Char) := do
  let rest ← clock? cs
  let rest ← word? [':'] rest
  let (_, rest) ← partBetween? 2 0 60 rest
  return dropFraction rest

def offset? : List Char → Option (List Char)
  | [] => none
  | c :: rest =>
      if c = 'Z' ∨ c = 'z' then some rest
      else if c = '+' ∨ c = '-' then clock? rest
      else none

def dropTime (cs : List Char) : List Char :=
  match cs with
  | [] => []
  | c :: rest =>
      if c = 'T' ∨ c = 't' ∨ c = ' ' then
        match time? rest with
        | some rest => (offset? rest).getD rest
        | none => cs
      else cs

def moment? (cs : List Char) : Option (List Char) :=
  match date? cs with
  | some rest => some (dropTime rest)
  | none => time? cs

example : moment? "2000-02-29 07:32:00.5-07:00,".toList = some [','] := by decide +kernel

example : moment? "1900-02-29".toList = none ∧ moment? "24:00:00".toList = none := by
  decide +kernel

end RequestPipeline.Document.Toml
