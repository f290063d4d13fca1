/-
**Governance enumerations and errors shared by the layers.**

`dnc.kernel.contracts`: how an effect can be undone (`SideEffectClass`), what it touches
(`EffectType`), and how strongly an environment isolates it (`IsolationGrade`, ordered by rank). Of
`dnc.execution.snapshot`, the grades by which a replay says how much of a run it reproduces.

`dnc.kernel.errors`: a parser at the boundary of the kernel reports whatever is wrong with its input
as a DNCValidationError. It fails closed if it does so, or returns an object that is as its
constructor wants it. For a parser whose objects are so by their construction, what matters is what
it raises (`failsClosed_iff_raises`).
-/

import Dnc.Logic.Raises
import Dnc.PyLib.Enum
import Dnc.PyLib.Value

namespace Dnc

open PyLib Logic

inductive SideEffectClass where
  | none | reversible | compensatable | irreversible
deriving DecidableEq, Repr

instance : PyEnum SideEffectClass where
  name := "SideEffectClass"
  members := [.none, .reversible, .compensatable, .irreversible]
  value
    | .none => "NONE"
    | .reversible => "REVERSIBLE"
    | .compensatable => "COMPENSATABLE"
    | .irreversible => "IRREVERSIBLE"

inductive EffectType where
  | providerCall | fileWrite | databaseWrite | networkCall | cacheWrite | processSpawn | cleanup
deriving DecidableEq, Repr

instance : PyEnum EffectType where
  name := "EffectType"
  members := [.providerCall, .fileWrite, .databaseWrite, .networkCall, .cacheWrite, .processSpawn,
    .cleanup]
  value
    | .providerCall => "PROVIDER_CALL"
    | .fileWrite => "FILE_WRITE"
    | .databaseWrite => "DATABASE_WRITE"
    | .networkCall => "NETWORK_CALL"
    | .cacheWrite => "CACHE_WRITE"
    | .processSpawn => "PROCESS_SPAWN"
    | .cleanup => "CLEANUP"

inductive IsolationGrade where
  | i0None | i1GraphOnly | i2ProcessLocal | i3RecordedExternals | i4SandboxedEnvironment
deriving DecidableEq, Repr

instance : PyEnum IsolationGrade where
  name := "IsolationGrade"
  members := [.i0None, .i1GraphOnly, .i2ProcessLocal, .i3RecordedExternals,
    .i4SandboxedEnvironment]
  value
    | .i0None => "I0_NONE"
    | .i1GraphOnly => "I1_GRAPH_ONLY"
    | .i2ProcessLocal => "I2_PROCESS_LOCAL"
    | .i3RecordedExternals => "I3_RECORDED_EXTERNALS"
    | .i4SandboxedEnvironment => "I4_SANDBOXED_ENVIRONMENT"

/-- `IsolationGrade.rank`. -/
def IsolationGrade.rank (grade : IsolationGrade) : Nat := PyEnum.rank grade

inductive ReproducibilityGrade where
  | r0None | r1ManifestOnly | r2DeterministicCore | r3RecordedExternals | r4EnvironmentReplay
deriving DecidableEq, Repr

instance : PyEnum ReproducibilityGrade where
  name := "ReproducibilityGrade"
  members := [.r0None, .r1ManifestOnly, .r2DeterministicCore, .r3RecordedExternals,
    .r4EnvironmentReplay]
  value
    | .r0None => "R0_NONE"
    | .r1ManifestOnly => "R1_MANIFEST_ONLY"
    | .r2DeterministicCore => "R2_DETERMINISTIC_CORE"
    | .r3RecordedExternals => "R3_RECORDED_EXTERNALS"
    | .r4EnvironmentReplay => "R4_ENVIRONMENT_REPLAY"

/-- A DNCValidationError. -/
def IsValidation (error : PyError) : Prop := ∃ message, error = .dncValidationError message

/-- The parser raises a DNCValidationError or returns an object that is as it should be. -/
def FailsClosed {α : Type} (valid : α → Prop) (result : Except PyError α) : Prop :=
  match result with
  | .ok object => valid object
  | .error error => IsValidation error

/-- A parser whose objects are valid fails closed if it raises nothing else. -/
theorem failsClosed_iff_raises {α : Type} {valid : α → Prop} {result : Except PyError α}
    (holds : ∀ object, result = .ok object → valid object) :
    FailsClosed valid result ↔ OnlyRaises IsValidation result := by
  cases result with
  | ok object => exact iff_of_true (holds object rfl) (OnlyRaises.ok object)
  | error error =>
    constructor
    · rintro isValidation _ ⟨⟩
      exact isValidation
    · exact fun raises => raises error rfl

theorem validation_raises {α : Type} (message : String) :
    OnlyRaises IsValidation (.error (.dncValidationError message) : Except PyError α) :=
  .error ⟨message, rfl⟩

/-- A check that raises one before the rest. -/
theorem validation_if {α : Type} {condition : Prop} [Decidable condition] {message : String}
    {rest : Except PyError α} (right : ¬ condition → OnlyRaises IsValidation rest) :
    OnlyRaises IsValidation (if condition then .error (.dncValidationError message) else rest) :=
  .ite (fun _ => validation_raises message) right

/-- A ValueError is none. -/
theorem not_onlyRaises_valueError {α : Type} (message : String) :
    ¬ OnlyRaises IsValidation (.error (.valueError message) : Except PyError α) := by
  intro raises
  obtain ⟨other, same⟩ := raises _ rfl
  cases same

end Dnc
