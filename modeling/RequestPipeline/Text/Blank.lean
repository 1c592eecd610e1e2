/-!
# White space

Characters with the Unicode property `White_Space`, and trimming by them.
-/

namespace RequestPipeline.Text

/-- The twenty-five characters with the property `White_Space`. -/
def isBlank (c : Char) : Bool :=
  let n := c.val
  (9 ≤ n && n ≤ 13) || n == 0x20 || n == 0x85 || n == 0xA0 || n == 0x1680
    || (0x2000 ≤ n && n ≤ 0x200A) || n == 0x2028 || n == 0x2029 || n == 0x202F
    || n == 0x205F || n == 0x3000

def dropEndWhile (p : Char → Bool) (cs : List Char) : List Char :=
  (cs.reverse.dropWhile p).reverse

def trim (cs : List Char) : List Char :=
  dropEndWhile isBlank (cs.dropWhile isBlank)

def isBlankText (s : String) : Bool :=
  s.toList.all isBlank

example : isBlankText "\u3000\t " = true := by decide

example : isBlankText "\u200b" = false := by decide

example : trim " a b\t".toList = "a b".toList := by decide

end RequestPipeline.Text
