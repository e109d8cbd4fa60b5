import Switchboard.Pipeline.Run

namespace Switchboard

/-- A request, and what becomes of the world before it comes. -/
structure Dispatch (σ : Type) where
  request : Request
  before : World σ → World σ := id

/-- A request that was served: what went on the wire for it and how everything went. -/
structure Visit (σ : Type) where
  request : Request
  wire : Wire
  session : Session σ

namespace Pipeline

variable {σ : Type}

def serve (p : Pipeline σ) : List (Dispatch σ) → World σ → Metrics → List (Visit σ) × Metrics
  | [], _, m => ([], m)
  | dispatch :: rest, world, m =>
    let (wire, session) := p.execute dispatch.request (dispatch.before world)
    let (visits, m) := p.serve rest session.world (m.recordAll session.journal.samples)
    (⟨dispatch.request, wire, session⟩ :: visits, m)

end Pipeline

end Switchboard
