import RequestPipeline.LifecycleState

/-!
# Errors

The causes for which a registration, stage or life-cycle call is refused, and their wording.
-/

namespace RequestPipeline

inductive RegistrationKind
  | unit
  | interceptor
  deriving DecidableEq, Repr

def RegistrationKind.word : RegistrationKind → String
  | .unit => "unit"
  | .interceptor => "interceptor"

/-- A refused call. Only a configuration error may carry a cause of its own. -/
inductive Error
  | illegalState (operation : String) (state : LifecycleState)
  | duplicateName (kind : RegistrationKind) (name : String)
  | classResolution (className reason : String)
  | configuration (detail : String)
  | configurationFrom (detail : String) (cause : Error)
  deriving DecidableEq, Repr

namespace Error

def code : Error → String
  | .illegalState .. => "ILLEGAL_LIFECYCLE_STATE"
  | .duplicateName .. => "DUPLICATE_NAME"
  | .classResolution .. => "CLASS_RESOLUTION"
  | .configuration .. | .configurationFrom .. => "CONFIGURATION"

/-- The wording of an error, its cause left out. -/
def message : Error → String
  | .illegalState operation state =>
      operation ++ " is not permitted while the context is " ++ state.word
  | .duplicateName kind name => kind.word ++ " '" ++ name ++ "' is already registered"
  | .classResolution className reason =>
      "failed to resolve class '" ++ className ++ "': " ++ reason
  | .configuration detail | .configurationFrom detail _ => "configuration error: " ++ detail

def causes : Error → List String
  | .configurationFrom _ cause => cause.message :: cause.causes
  | _ => []

/-- Whether the error is one of setting up, rather than one of calling at the wrong time or
with a taken name. -/
def abortsStart : Error → Bool
  | .classResolution .. | .configuration .. | .configurationFrom .. => true
  | .illegalState .. | .duplicateName .. => false

def isConfiguration : Error → Bool
  | .configuration .. | .configurationFrom .. => true
  | _ => false

end Error

end RequestPipeline
