import Mathlib.Data.Finmap
import Mathlib.Tactic

/-!
# AuthZEN messages

The JSON values and the serde types of the Access Evaluation endpoint.

An object that is only built by insertion, looked up and compared is a finite map (`JsonMap`):
`serde_json` maps are equal when they hold the same entries. A property map that is written back
into a JSON text keeps the order of its entries (`Properties`).
-/

namespace AuthzenPdp

/-- A JSON number as `serde_json` keeps it. -/
inductive Number where
  | posInt (n : UInt64)
  | negInt (n : Int64)
  | float (bits : UInt64)
  deriving DecidableEq

/-- `serde_json::Value`. -/
inductive Value where
  | null
  | bool (b : Bool)
  | number (n : Number)
  | string (s : String)
  | array (values : List Value)
  | object (fields : List (String × Value))

/-- A JSON object as a finite map. -/
abbrev JsonMap : Type := Finmap fun _ : String => Value

/-- A JSON object with the order of its entries. -/
abbrev Properties : Type := AList fun _ : String => Value

/-- `Map::is_empty`. -/
def JsonMap.isEmpty (m : JsonMap) : Bool := decide (m.keys = ∅)

/-- `Map::is_empty`. -/
def Properties.isEmpty (m : Properties) : Bool := m.entries.isEmpty

/-- The entries as the fields of a JSON object. -/
def Properties.fields (m : Properties) : List (String × Value) := m.entries.map fun e => (e.1, e.2)

structure Subject where
  entityType : String
  id : String
  properties : Option Properties

structure Resource where
  entityType : String
  id : String
  properties : Option Properties

structure Action where
  name : String

structure EvaluationRequest where
  subject : Subject
  action : Action
  resource : Resource
  context : Option Value

structure EvaluationResponse where
  decision : Bool
  context : Option JsonMap

def EvaluationResponse.new (decision : Bool) : EvaluationResponse := ⟨decision, none⟩

def EvaluationResponse.withContext (r : EvaluationResponse) (context : Option JsonMap) :
    EvaluationResponse := { r with context := context }

/-- The body of an error answer. -/
structure ErrorBody where
  error : String
  message : String
  deriving DecidableEq

theorem JsonMap.isEmpty_iff {m : JsonMap} : m.isEmpty = true ↔ m = ∅ := by
  rw [JsonMap.isEmpty, decide_eq_true_iff]
  constructor
  · intro h
    refine Finmap.ext_lookup fun k => ?_
    rw [Finmap.lookup_empty, Finmap.lookup_eq_none, ← Finmap.mem_keys, h]
    exact Finset.notMem_empty k
  · rintro rfl
    exact Finmap.keys_empty

/-! ## `Except` -/

theorem bind_eq_ok {ε α γ : Type} {x : Except ε α} {f : α → Except ε γ} {c : γ} :
    x >>= f = .ok c ↔ ∃ a, x = .ok a ∧ f a = .ok c := by
  cases x <;> simp [bind, Except.bind]

/-- Continuations that agree on the result give the same computation. -/
theorem bind_congr_ok {ε α γ : Type} {x : Except ε α} {f g : α → Except ε γ}
    (h : ∀ a, x = .ok a → f a = g a) : x >>= f = x >>= g := by
  cases x with
  | error e => rfl
  | ok a => exact h a rfl

theorem mapError_eq_ok {ε ε' α : Type} {x : Except ε α} {f : ε → ε'} {a : α} :
    x.mapError f = .ok a ↔ x = .ok a := by
  cases x <;> simp [Except.mapError]

end AuthzenPdp
