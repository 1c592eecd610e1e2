import RequestPipeline.Host.Basic

/-!
# Working on stages

Starting, stopping and linking stages, and giving a dispatch stage its routing.
-/

namespace RequestPipeline

def startMoment {α : Type} : Except Error α → StageMoment
  | .ok _ => .started
  | .error _ => .startFailed

namespace Host

def startWrapper (host : Host) (index : Nat) : Except Error Unit × Host :=
  match host.wrappers[index]? with
  | none => (.ok (), host)
  | some cell =>
      let result := cell.wrapper.start host.journal
      (result, host.note (.stage (.wrapper index) (startMoment result)) cell.wrapper.startLine)

/-- Starts a dispatch stage; one that refuses keeps its flags. -/
def startDispatch (host : Host) (index : Nat) : Except Error Unit × Host :=
  match host.dispatches[index]? with
  | none => (.ok (), host)
  | some cell =>
      let result := cell.stage.start host.journal
      let noted := host.note (.stage (.dispatch index) (startMoment result)) cell.stage.startLine
      match result with
      | .error e => (.error e, noted)
      | .ok reported =>
          (.ok (), noted.updateDispatch index
            fun cell => { cell with running := true, reported := reported })

def startStage (host : Host) : StageRef → Except Error Unit × Host
  | .wrapper index => host.startWrapper index
  | .dispatch index => host.startDispatch index

def stopStage (host : Host) (ref : StageRef) : Host :=
  match ref with
  | .wrapper index =>
      match host.wrappers[index]? with
      | none => host
      | some cell => host.note (.stage ref .stopped) cell.wrapper.stopLine
  | .dispatch index =>
      match host.dispatches[index]? with
      | none => host
      | some cell =>
          (host.note (.stage ref .stopped) cell.stage.stopLine).updateDispatch index
            fun cell => { cell with running := false, reported := false }

def link (host : Host) (index : Nat) (next : StageRef) : Host :=
  match host.wrappers[index]? with
  | none => host
  | some cell =>
      (host.note (.stage (.wrapper index) (.linked next))
          (cell.wrapper.linkLine (host.stageName next))).updateWrapper index
        fun cell => { cell with next := some next }

def unlink (host : Host) (index : Nat) : Host :=
  match host.wrappers[index]? with
  | none => host
  | some cell =>
      (host.note (.stage (.wrapper index) .unlinked) cell.wrapper.unlinkLine).updateWrapper index
        fun cell => { cell with next := none }

def isStarted (host : Host) (index : Nat) : Bool :=
  ((host.dispatches[index]?).map (·.reported)).getD false

def replaceRouting (host : Host) (index : Nat) (routing : RoutingTable) : Host :=
  match host.dispatches[index]? with
  | none => host
  | some cell =>
      let placed := host.updateDispatch index
        fun cell => { cell with routing := some routing }
      match cell.routing with
      | none => placed
      | some previous => { placed with journal := previous.destroyAll placed.journal }

/-- Gives a dispatch stage the routing of a snapshot. The routing is initialised first; when that
fails the old routing stays. -/
def finalizeRouting (host : Host) (index : Nat) (snapshot : Snapshot) :
    Except Error Unit × Host :=
  match host.dispatches[index]? with
  | none => (.ok (), host)
  | some cell =>
      let noted := host.note (.stage (.dispatch index) .finalized) cell.stage.finalizeLine
      match cell.stage.finalize host.journal with
      | .error e => (.error e, noted)
      | .ok () =>
          let routing := RoutingTable.build snapshot cell.errorUnit
          match routing.initAll noted.journal with
          | (.error e, journal) => (.error e, { noted with journal := journal })
          | (.ok (), journal) =>
              (.ok (), { noted with journal := journal }.replaceRouting index routing)

def clearRouting (host : Host) (index : Nat) : Host :=
  match host.dispatches[index]? with
  | none => host
  | some cell =>
      let noted := host.note (.stage (.dispatch index) .cleared) cell.stage.clearLine
      match cell.routing with
      | none => noted
      | some routing =>
          let emptied := noted.updateDispatch index fun cell => { cell with routing := none }
          { emptied with journal := routing.destroyAll emptied.journal }

/-- Sets the unit that serves what no pattern accepts, from the next routing on. -/
def setErrorHandler (host : Host) (index : Nat) (unit : Option (Instance ServiceUnit)) : Host :=
  match host.dispatches[index]? with
  | none => host
  | some cell =>
      (host.note (.stage (.dispatch index) (.errorHandlerSet unit.isSome))
          (cell.stage.errorHandlerLine unit.isSome)).updateDispatch index
        fun cell => { cell with errorUnit := unit }

def routing? (host : Host) (index : Nat) : Option RoutingTable :=
  (host.dispatches[index]?).bind (·.routing)

def lookupUnit (host : Host) (index : Nat) (name : String) : Option (Instance ServiceUnit) :=
  (host.routing? index).bind fun routing => routing.snapshot.unit? name

end Host

end RequestPipeline
