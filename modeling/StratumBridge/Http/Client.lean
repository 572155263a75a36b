/-!
# Requests to other servers

What `reqwest` reports of a request.
-/

namespace StratumBridge.Http

universe u

/-- `StatusCode`, with the phrase that it is shown with. -/
structure Status where
  code : Nat
  reason : String
  deriving DecidableEq

/-- `is_success`. -/
def Status.isSuccess (status : Status) : Bool :=
  200 ≤ status.code ∧ status.code < 300

/-- A request fails, or it is answered. -/
inductive Reply (β : Type u)
  | unreachable (err : String)
  | answered (status : Status) (body : β)

end StratumBridge.Http
