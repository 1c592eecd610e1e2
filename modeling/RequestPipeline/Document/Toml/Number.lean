import RequestPipeline.Document.Toml.Scan

/-!
# Numbers of a TOML text

Integers in four bases and numbers with a fraction or a power of ten. A number is accepted when
it has a value: an integer in 64 bits, any other one as a finite double or, with a minus, as the
infinite one. Each reader gives what is left behind the number.
-/

namespace RequestPipeline.Document.Toml

/-- The digits that follow a digit; a `_` stands between two digits only. -/
def moreDigits? (base : Nat) : List Char → Option (List Nat × List Char)
  | [] => some ([], [])
  | ['_'] => none
  | '_' :: c :: rest =>
      match digitValue? base c with
      | some digit => (moreDigits? base rest).map fun (digits, rest) => (digit :: digits, rest)
      | none => none
  | c :: rest =>
      match digitValue? base c with
      | some digit => (moreDigits? base rest).map fun (digits, rest) => (digit :: digits, rest)
      | none => some ([], c :: rest)

def digits? (base : Nat) : List Char → Option (List Nat × List Char)
  | [] => none
  | c :: rest =>
      match digitValue? base c with
      | some digit => (moreDigits? base rest).map fun (digits, rest) => (digit :: digits, rest)
      | none => none

def ofDigits (base : Nat) (digits : List Nat) : Nat :=
  digits.foldl (fun n digit => n * base + digit) 0

/-- Whether there is a minus in front, and what is left behind a sign. -/
def sign : List Char → Bool × List Char
  | '-' :: rest => (true, rest)
  | '+' :: rest => (false, rest)
  | cs => (false, cs)

def isWord (negative : Bool) (n : Nat) : Bool :=
  if negative then n ≤ Nat.pow 2 63 else n < Nat.pow 2 63

/-- The middle between the largest finite double and the next power of two: what lies below is
rounded to a finite one. -/
def doubleBound : Nat := Nat.pow 2 1024 - Nat.pow 2 970

/-- Whether the number of these digits times a power of ten is rounded to a finite double. A
negative power that has no fewer than the digits leaves less than one. -/
def isFiniteDouble (digits : List Nat) (power : Int) : Bool :=
  let n := ofDigits 10 digits
  match power with
  | .ofNat power => n == 0 || (power ≤ 308 && n * Nat.pow 10 power < doubleBound)
  | .negSucc power => digits.length ≤ power + 1 || n < doubleBound * Nat.pow 10 (power + 1)

/-- The digits in front of a point; none but a lone zero begins with a zero. -/
def whole? : List Char → Option (List Nat × List Char)
  | '0' :: rest => some ([0], rest)
  | cs => digits? 10 cs

def fraction? : List Char → Option (List Nat × List Char)
  | '.' :: rest => digits? 10 rest
  | cs => some ([], cs)

def power? : List Char → Option (Int × List Char)
  | [] => some (0, [])
  | c :: rest =>
      if c = 'e' ∨ c = 'E' then
        let (negative, rest) := sign rest
        (digits? 10 rest).map fun (digits, rest) =>
          let n : Int := ofDigits 10 digits
          (if negative then -n else n, rest)
      else some (0, c :: rest)

/-- Whether a character begins the part of a number that makes it no integer. -/
def isFractional (c : Char) : Bool := c == '.' || c == 'e' || c == 'E'

def decimal? (cs : List Char) : Option (List Char) :=
  let (negative, cs) := sign cs
  match whole? cs with
  | none => none
  | some (whole, rest) =>
      if rest.head?.any isFractional then do
        let (fraction, rest) ← fraction? rest
        let (power, rest) ← power? rest
        if negative || isFiniteDouble (whole ++ fraction) (power - fraction.length) then some rest
        else none
      else if isWord negative (ofDigits 10 whole) then some rest
      else none

def special? (cs : List Char) : Option (List Char) :=
  let (_, rest) := sign cs
  (word? "inf".toList rest).orElse fun _ => word? "nan".toList rest

def based? (base : Nat) (cs : List Char) : Option (List Char) :=
  match digits? base cs with
  | some (digits, rest) => if isWord false (ofDigits base digits) then some rest else none
  | none => none

def number? : List Char → Option (List Char)
  | '0' :: 'x' :: rest => based? 16 rest
  | '0' :: 'o' :: rest => based? 8 rest
  | '0' :: 'b' :: rest => based? 2 rest
  | cs => (special? cs).orElse fun _ => decimal? cs

example : number? "-9_223_372_036_854_775_808,".toList = some [','] := by decide +kernel

example : number? "9223372036854775808".toList = none := by decide +kernel

example : number? "1.8e308".toList = none ∧ number? "1.7e308".toList = some [] := by
  decide +kernel

end RequestPipeline.Document.Toml
