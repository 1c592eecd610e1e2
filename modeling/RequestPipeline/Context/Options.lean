import RequestPipeline.Settings.Basic
import RequestPipeline.StageKind

/-!
# Pipeline options

Which of the optional stages a context has.
-/

namespace RequestPipeline

structure PipelineOptions where
  sessions : Bool := false
  security : Bool := false
  deriving DecidableEq, Repr

namespace PipelineOptions

/-- Reads two bits, the lower one for sessions; higher bits play no part. -/
def ofBits (bits : Nat) : PipelineOptions := ⟨bits.testBit 0, bits.testBit 1⟩

def bits (options : PipelineOptions) : Nat :=
  options.sessions.toNat + 2 * options.security.toNat

def union (a b : PipelineOptions) : PipelineOptions :=
  ⟨a.sessions || b.sessions, a.security || b.security⟩

/-- Whether a kind of stage is enabled; dispatch always is. -/
def enables (options : PipelineOptions) : StageKind → Bool
  | .session => options.sessions
  | .security => options.security
  | .dispatch => true

def ofSettings (settings : ContextSettings) : PipelineOptions :=
  ⟨settings.sessions, settings.security⟩

theorem ofBits_bits (options : PipelineOptions) : ofBits options.bits = options := by
  obtain ⟨sessions, security⟩ := options
  cases sessions <;> cases security <;> decide

end PipelineOptions

end RequestPipeline
