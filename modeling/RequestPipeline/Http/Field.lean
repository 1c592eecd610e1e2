import RequestPipeline.Text.Cut

/-!
# Header fields

Which texts may stand as a field value, and which of them are plain.
-/

namespace RequestPipeline.Http

/-- Whether a character may stand in a field value: no control character but the tab. -/
def isFieldChar (c : Char) : Bool :=
  c == '\t' || (32 ≤ c.val && c.val != 127)

def isFieldValue (value : String) : Bool := value.toList.all isFieldChar

def isPlainChar (c : Char) : Bool :=
  c == '\t' || (32 ≤ c.val && c.val < 127)

def isPlainValue (value : String) : Bool := value.toList.all isPlainChar

theorem isFieldChar_of_isPlainChar {c : Char} (plain : isPlainChar c = true) :
    isFieldChar c = true := by
  simp only [isPlainChar, isFieldChar, Bool.or_eq_true, Bool.and_eq_true, decide_eq_true_eq,
    bne_iff_ne, ne_eq] at *
  rcases plain with tab | ⟨low, high⟩
  · exact Or.inl tab
  · exact Or.inr ⟨low, fun same => by rw [same] at high; exact absurd high (by decide)⟩

def isTokenChar (c : Char) : Bool :=
  c.isAlphanum || "!#$%&'*+-.^_\x60|~".toList.contains c

def isToken (text : String) : Bool :=
  !text.isEmpty && text.toList.all isTokenChar

/-- A list of named values; names are in lower case. -/
abbrev Fields := List (String × String)

namespace Fields

def values (fields : Fields) (name : String) : List String :=
  (fields.filter (·.1 == name)).map Prod.snd

def append (fields : Fields) (name value : String) : Fields := fields ++ [(name, value)]

def insert (fields : Fields) (name value : String) : Fields :=
  fields.filter (·.1 != name) ++ [(name, value)]

def erase (fields : Fields) (name : String) : Fields := fields.filter (·.1 != name)

theorem values_append (fields : Fields) (name value wanted : String) :
    (fields.append name value).values wanted =
      fields.values wanted ++ (if name = wanted then [value] else []) := by
  by_cases same : name = wanted <;> simp [values, append, same]

end Fields

end RequestPipeline.Http
