import AuthzenPdp.Context.Valid
import AuthzenPdp.Lib.Run

/-!
# Startup and reload

The policy file is read by three parties on their own: the provider when it is built and when it is
updated, the loader at startup, and `reload`.

* `startup`, `reload`: the code with one argument for each read (`startup_eq_ok_iff`);
* `Sys`, `step`: the same code in steps, between which another process may rewrite the file. A step
  makes at most one read of the file or one write of shared state.
-/

namespace AuthzenPdp

variable {β σ : Type}

/-- What a read of the policy file gives: its content, or an error. -/
abbrev File : Type := Except String String

def readSource (policyPath : String) : File → Except PolicyError String
  | .ok src => .ok src
  | .error source => .error (.fileRead policyPath source)

def loadAndValidate (api : PolicyApi β σ) (policyPath : String) (schema : σ) (file : File) :
    Except PolicyError (String × Nat) := do
  let src ← readSource policyPath file
  let count ← validateSource api src policyPath schema
  .ok (src, count)

/-- The provider's own read: the content must parse, and nothing else is checked. -/
def providerRead (api : PolicyApi β σ) : File → Except String (PolicySet β)
  | .ok src => api.fromStr src
  | .error source => .error source

/-- `new_provider`: `PolicySetProvider::new` reads the file. -/
def newProvider (api : PolicyApi β σ) (policyPath : String) (file : File) :
    Except PolicyError (PolicySet β) :=
  (providerRead api file).mapError fun _ => .provider (api.providerError policyPath file)

/-- `update_provider_data`: the set to swap in. It can fail for reasons of its own. -/
def updateProviderData (api : PolicyApi β σ) (file : File) : Option String →
    Except String (PolicySet β)
  | some fault => .error fault
  | none => providerRead api file

/-! ## One read, one argument -/

/-- The live set, the source last loaded and the readiness flag. -/
structure Pdp (β : Type) where
  provider : PolicySet β
  loadedSrc : String
  ready : Bool

/-- `run` up to the reload task, with the files read by the provider and by the loader. -/
def startup (api : PolicyApi β σ) (schema : σ) (policyPath : String) (providerFile file : File) :
    Except String (Pdp β) := do
  let provider ← (newProvider api policyPath providerFile).mapError PolicyError.text
  let (policySrc, _) ← (loadAndValidate api policyPath schema file).mapError fun e =>
    "startup policy validation failed: " ++ e.text
  .ok ⟨provider, policySrc, true⟩

/-- `reload`, with the file it reads, the file the provider reads and a fault of the provider. -/
def reload (api : PolicyApi β σ) (schema : σ) (policyPath : String) (s : Pdp β)
    (file providerFile : File) (fault : Option String) : Pdp β :=
  match readSource policyPath file with
  | .error _ => { s with ready := false }
  | .ok src =>
    if src = s.loadedSrc then { s with ready := true }
    else match validateSource api src policyPath schema with
      | .error _ => { s with ready := false }
      | .ok _ => match updateProviderData api providerFile fault with
        | .ok ps => { provider := ps, loadedSrc := src, ready := true }
        | .error _ => { s with ready := false }

theorem loadAndValidate_eq_ok_iff {api : PolicyApi β σ} {schema : σ} {policyPath : String}
    {file : File} {src : String} {n : Nat} :
    loadAndValidate api policyPath schema file = .ok (src, n) ↔
      file = .ok src ∧ validateSource api src policyPath schema = .ok n := by
  cases file with
  | error e => simp [loadAndValidate, readSource, bind_eq_ok]
  | ok src' =>
    simp only [loadAndValidate, readSource, bind_eq_ok, Except.ok.injEq, Prod.mk.injEq]
    constructor
    · rintro ⟨_, rfl, n', hv, rfl, rfl⟩
      exact ⟨rfl, hv⟩
    · rintro ⟨rfl, hv⟩
      exact ⟨_, rfl, n, hv, rfl, rfl⟩

theorem newProvider_eq_ok_iff {api : PolicyApi β σ} {policyPath : String} {file : File}
    {ps : PolicySet β} :
    newProvider api policyPath file = .ok ps ↔ providerRead api file = .ok ps := mapError_eq_ok

/-- **What a successful startup serves.** -/
theorem startup_eq_ok_iff {api : PolicyApi β σ} {schema : σ} {policyPath : String}
    {providerFile file : File} {p : Pdp β} :
    startup api schema policyPath providerFile file = .ok p ↔
      providerRead api providerFile = .ok p.provider ∧ file = .ok p.loadedSrc ∧
        (∃ n, validateSource api p.loadedSrc policyPath schema = .ok n) ∧ p.ready = true := by
  obtain ⟨provider, loadedSrc, ready⟩ := p
  simp only [startup, bind_eq_ok, mapError_eq_ok, newProvider_eq_ok_iff, Prod.exists,
    loadAndValidate_eq_ok_iff, Except.ok.injEq, Pdp.mk.injEq]
  constructor
  · rintro ⟨_, hp, _, n, ⟨hf, hv⟩, rfl, rfl, rfl⟩
    exact ⟨hp, hf, ⟨n, hv⟩, rfl⟩
  · rintro ⟨hp, hf, ⟨n, hv⟩, rfl⟩
    exact ⟨_, hp, _, n, ⟨hf, hv⟩, rfl, rfl, rfl⟩

/-! ## In steps -/

/-- The next statement of the server. -/
inductive Pc (β : Type) where
  | newProvider
  | loadAndValidate
  | failed
  | recv
  | readSource
  | validateSource (src : String)
  | updateProviderData (src : String)
  | swap (src : String) (ps : PolicySet β)
  | setLoaded (src : String)
  | setReady (ready : Bool)
  | stopped

structure Sys (β : Type) where
  file : File
  live : Option (PolicySet β)
  loadedSrc : Option String
  ready : Bool
  pc : Pc β

/-- Before startup. -/
def Sys.boot (file : File) : Sys β := ⟨file, none, none, false, .newProvider⟩

/-- What `receiver.recv()` yields. -/
inductive Recv where
  | event
  | lagged (missed : Nat)
  | closed

/-- A rewrite of the file, a result of the receiver, a fault of `update_provider_data`, or the next
statement of the server. -/
inductive Label where
  | write (file : File)
  | recv (r : Recv)
  | fault (error : String)
  | run

section Step

variable (api : PolicyApi β σ) (schema : σ) (policyPath : String)

/-- The next statement. -/
def exec (s : Sys β) : Option (Sys β) :=
  match s.pc with
  | .newProvider => some <| match newProvider api policyPath s.file with
    | .ok ps => { s with live := some ps, pc := .loadAndValidate }
    | .error _ => { s with pc := .failed }
  | .loadAndValidate => some <| match loadAndValidate api policyPath schema s.file with
    | .ok (src, _) => { s with loadedSrc := some src, ready := true, pc := .recv }
    | .error _ => { s with pc := .failed }
  | .readSource => some <| match readSource policyPath s.file with
    | .error _ => { s with pc := .setReady false }
    | .ok src =>
      if some src = s.loadedSrc then { s with pc := .setReady true }
      else { s with pc := .validateSource src }
  | .validateSource src => some <| match validateSource api src policyPath schema with
    | .error _ => { s with pc := .setReady false }
    | .ok _ => { s with pc := .updateProviderData src }
  | .updateProviderData src => some <| match updateProviderData api s.file none with
    | .ok ps => { s with pc := .swap src ps }
    | .error _ => { s with pc := .setReady false }
  | .swap src ps => some { s with live := some ps, pc := .setLoaded src }
  | .setLoaded src => some { s with loadedSrc := some src, pc := .setReady true }
  | .setReady ready => some { s with ready := ready, pc := .recv }
  | .failed | .recv | .stopped => none

def step (s : Sys β) : Label → Option (Sys β)
  | .write file => some { s with file := file }
  | .recv r => match s.pc, r with
    | .recv, .event => some { s with pc := .readSource }
    | .recv, .lagged _ | .recv, .closed => some { s with pc := .stopped }
    | _, _ => none
  | .fault _ => match s.pc with
    | .updateProviderData _ => some { s with pc := .setReady false }
    | _ => none
  | .run => exec api schema policyPath s

end Step

end AuthzenPdp
