import SipOverRelay.Managed
import SipOverRelay.Tunnel.Run

/-!
# Runs of a managed tunnel

A run is a sequence of happenings: requests of the owner, and between them whatever happens to the
tunnel itself, reports and ticks that nobody asked the managed tunnel for among it.
-/

namespace SipOverRelay

/-- Something that happens to a managed tunnel. -/
inductive ManagedHappening (σ : Type) where
  /-- The owner makes a request. -/
  | request (operation : ManagedOperation)
  /-- Something happens to the tunnel. -/
  | meanwhile (happening : Happening σ)

namespace Managed

variable {σ : Type} [Surroundings σ]

/-- The managed tunnel after one happening. -/
def meet (m : Managed σ) : ManagedHappening σ → Managed σ
  | .request operation => (m.operate operation).2
  | .meanwhile happening => m.onStation (·.meet happening)

/-- The managed tunnel after a sequence of happenings. -/
def after (m : Managed σ) (happenings : List (ManagedHappening σ)) : Managed σ :=
  happenings.foldl meet m

end Managed

end SipOverRelay
