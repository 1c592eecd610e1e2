import RequestPipeline.Text.Blank
import RequestPipeline.Text.Cut

/-!
# Context paths

A context is mounted under a path that is empty, or begins with `/` and does not end with it.
Any text is brought into that form, and a full path is split at the mount.
-/

namespace RequestPipeline

inductive ContextPathFault
  | noLeadingSlash
  | trailingSlash
  deriving DecidableEq, Repr

structure PathInContext where
  contextPath : String
  path : String
  deriving DecidableEq, Repr

namespace ContextPath

open Text

/-- The first fault of a text, in the order in which the two are looked for. -/
def fault? (text : String) : Option ContextPathFault :=
  let cs := text.toList
  if cs = [] then none
  else if cs.head? ≠ some '/' then some .noLeadingSlash
  else if cs.getLast? = some '/' then some .trailingSlash
  else none

/-- Drops the slashes at the end and puts one in front where it is missing. -/
def normalizeChars (cs : List Char) : List Char :=
  let trimmed := dropEndWhile (· == '/') cs
  if trimmed = [] ∨ trimmed.head? = some '/' then trimmed else '/' :: trimmed

def normalize (text : String) : String := String.ofList (normalizeChars text.toList)

/-- Splits a full path: the mount itself reads as `/` within the context, and a path that
continues the mount other than with `/` lies outside. -/
def split (contextPath full : String) : Option PathInContext :=
  match stripStart? contextPath.toList full.toList with
  | none => none
  | some [] => some ⟨contextPath, "/"⟩
  | some ('/' :: rest) => some ⟨contextPath, String.ofList ('/' :: rest)⟩
  | some _ => none

example : normalize "/shop//" = "/shop" := by decide

example : normalize "admin" = "/admin" := by decide

end ContextPath

end RequestPipeline
