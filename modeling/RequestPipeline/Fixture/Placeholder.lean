import RequestPipeline.Identifier
import RequestPipeline.Text.Cut

/-!
# Placeholders

Identifiers that were handed out are shown as `<session-N>`, and the same words stand for them in
what is read.
-/

namespace RequestPipeline.Fixture

def placeholder (n : Nat) : String := "<session-" ++ toString n ++ ">"

def shownIdentifier (id : Identifier) : String :=
  match id.issuedNumber? with
  | some n => placeholder n
  | none => id.text

/-- Puts identifiers in place of their placeholders, for as many as have been handed out. -/
def fillPlaceholders (issued : Nat) (text : String) : String :=
  (List.range issued).foldl
    (fun text n => text.replace (placeholder (n + 1)) (Identifier.issued (n + 1)).text) text

def showFirst : List Char → List Char
  | [] => []
  | c :: rest =>
      match Identifier.readHyphenated? ((c :: rest).take 36) with
      | some id =>
          match id.issuedNumber? with
          | some n => (placeholder n).toList ++ (c :: rest).drop 36
          | none => c :: rest
      | none => c :: showFirst rest

def showPlaceholder (text : String) : String := String.ofList (showFirst text.toList)

end RequestPipeline.Fixture
