import RequestPipeline.Host.Basic

/-!
# Stage factories

Makes the stages that a context needs and has not been given.
-/

namespace RequestPipeline

structure StageFactory where
  session : Journal → Except Error Wrapper
  security : Journal → Except Error Wrapper
  dispatch : Journal → Except Error DispatchStage
  line : StageKind → Option String := fun _ => none

namespace StageFactory

/-- The factory for stock stages: sessions under the usual cookie, access for all. -/
def stock : StageFactory where
  session _ := .ok (.session {})
  security _ := .ok (.security .allowAll)
  dispatch _ := .ok .stock

def createWrapper (kind : StageKind) (make : Journal → Except Error Wrapper)
    (line : Option String) (host : Host) : Except Error Nat × Host :=
  let noted := host.note (.requested kind) line
  match make host.journal with
  | .error e => (.error e, noted)
  | .ok wrapper =>
      let (index, host) := noted.addWrapper wrapper
      (.ok index, host)

def createSession (factory : StageFactory) (host : Host) : Except Error Nat × Host :=
  createWrapper .session factory.session (factory.line .session) host

def createSecurity (factory : StageFactory) (host : Host) : Except Error Nat × Host :=
  createWrapper .security factory.security (factory.line .security) host

def createDispatch (factory : StageFactory) (host : Host) : Except Error Nat × Host :=
  let noted := host.note (.requested .dispatch) (factory.line .dispatch)
  match factory.dispatch host.journal with
  | .error e => (.error e, noted)
  | .ok stage =>
      let (index, host) := noted.addDispatch stage
      (.ok index, host)

end StageFactory

end RequestPipeline
