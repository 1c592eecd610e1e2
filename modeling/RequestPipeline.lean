import RequestPipeline.Context.Call
import RequestPipeline.Fixture.Classes
import RequestPipeline.Fixture.Hook
import RequestPipeline.Http.Target
import RequestPipeline.Metrics
import RequestPipeline.Proofs.AccessPaths
import RequestPipeline.Proofs.ChainNesting
import RequestPipeline.Proofs.ChainWalks
import RequestPipeline.Proofs.Constructions
import RequestPipeline.Proofs.DispatchCounts
import RequestPipeline.Proofs.ErrorHandling
import RequestPipeline.Proofs.InTurn
import RequestPipeline.Proofs.InitOrder
import RequestPipeline.Proofs.LayeredSettings
import RequestPipeline.Proofs.LazyStages
import RequestPipeline.Proofs.LoggedRuns
import RequestPipeline.Proofs.MadeUpNames
import RequestPipeline.Proofs.MountPaths
import RequestPipeline.Proofs.Overlaps
import RequestPipeline.Proofs.OverrideOrder
import RequestPipeline.Proofs.PatternMeaning
import RequestPipeline.Proofs.SessionCookies
import RequestPipeline.Proofs.StartErrors
import RequestPipeline.Settings.Loader
import RequestPipeline.Settings.Shown
