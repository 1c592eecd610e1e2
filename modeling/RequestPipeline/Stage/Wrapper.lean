import RequestPipeline.Collaborator
import RequestPipeline.Http.Cookie
import RequestPipeline.PathPattern

/-!
# Wrapper stages

Stages that stand in front of dispatch and hold a link to the next stage: the session stage, the
access-control stage, and stages that an application brings along.
-/

namespace RequestPipeline

open Http

structure SessionStage where
  cookieName : String := "PLINTHSESSION"
  cookiePath : String := "/"
  identifiers : IdentifierScheme := .standard

namespace SessionStage

def identifier? (stage : SessionStage) (request : Request) : Option Identifier :=
  (Cookie.value? stage.cookieName (request.fields.values "cookie")).bind stage.identifiers.read?

/-- Offers a fresh identifier to the client; one that was brought back is not offered again. -/
def offer (stage : SessionStage) (session : Session) (response : Response) : Response :=
  if session.fresh then
    response.addField "set-cookie"
      (Cookie.setValue stage.cookieName stage.cookiePath (stage.identifiers.text session.id))
  else response

end SessionStage

inductive AccessDecision
  | allow
  | deny (reason : String)
  | challenge (reason : String)
  deriving DecidableEq, Repr

inductive AccessMode
  | allowAll
  | denyAll
  | requireSession (protectedPaths : List PathPattern)
  | custom (policy : Request → AccessDecision)

namespace AccessMode

def ofPatterns (patterns : List String) : Except Error AccessMode :=
  match PathPattern.parseAll patterns with
  | .error e => .error e
  | .ok parsed => .ok (.requireSession parsed)

def hasReturned (session : Option Session) : Bool := session.any fun session => !session.fresh

def decide (mode : AccessMode) (request : Request) : AccessDecision :=
  match mode with
  | .allowAll => .allow
  | .denyAll => .deny "Access denied (deny-all mode)"
  | .requireSession protectedPaths =>
      if !protectedPaths.any (·.accepts request.path) then .allow
      else if hasReturned request.session then .allow
      else .challenge ("A session is required for '" ++ request.path ++ "'")
  | .custom policy => policy request

end AccessMode

namespace AccessDecision

/-- The answer that a decision gives; none when the request goes on. -/
def answer? : AccessDecision → Option Response
  | .allow => none
  | .deny reason => some (.errorReport 403 "ACCESS_DENIED" reason)
  | .challenge reason => some (.errorReport 401 "AUTHENTICATION_REQUIRED" reason)

end AccessDecision

structure CustomWrapper where
  name : String
  start : Journal → Except Error Unit := fun _ => .ok ()
  handle : Journal → Request → Verdict
  startLine : Option String := none
  stopLine : Option String := none
  linkLine : String → Option String := fun _ => none
  unlinkLine : Option String := none
  enterLine : Option String := none

inductive Wrapper
  | session (stage : SessionStage)
  | security (mode : AccessMode)
  | custom (stage : CustomWrapper)

namespace Wrapper

def name : Wrapper → String
  | .session _ => "session"
  | .security _ => "security"
  | .custom stage => stage.name

/-- Starts a wrapper; only one brought along may refuse. -/
def start : Wrapper → Journal → Except Error Unit
  | .custom stage => stage.start
  | _ => fun _ => .ok ()

def startLine : Wrapper → Option String
  | .custom stage => stage.startLine
  | _ => none

def stopLine : Wrapper → Option String
  | .custom stage => stage.stopLine
  | _ => none

def linkLine : Wrapper → String → Option String
  | .custom stage => stage.linkLine
  | _ => fun _ => none

def unlinkLine : Wrapper → Option String
  | .custom stage => stage.unlinkLine
  | _ => none

def enterLine : Wrapper → Option String
  | .custom stage => stage.enterLine
  | _ => none

end Wrapper

end RequestPipeline
