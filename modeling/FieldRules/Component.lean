import FieldRules.Dict
import FieldRules.Json.Value

/-!
# Outside components (`crates/validator/src/registry.rs:85-169`)

A rule may leave a verdict to a component from outside: a function that judges a value, or fails with a
reason. Components are looked up by name while a rule set is built. What is asked of them during a validation
is kept as a list of calls, in order.
-/

namespace FieldRules

/-- Judges a value, or fails with a reason. -/
abbrev Component := Json → Except String Bool

abbrev ComponentLookup := String → Option Component

/-- A question put to a component. -/
structure Call where
  component : String
  value : Json
  deriving Repr

/-- A result together with the questions asked on the way to it. -/
structure Traced (α : Type) where
  result : α
  calls : List Call

namespace Traced

def pure {α : Type} (result : α) : Traced α :=
  ⟨result, []⟩

/-- Puts earlier questions before those of a result. -/
def after {α : Type} (calls : List Call) (traced : Traced α) : Traced α :=
  ⟨traced.result, calls ++ traced.calls⟩

end Traced

abbrev ComponentRegistry := Dict Component

def ComponentRegistry.lookup (registry : ComponentRegistry) : ComponentLookup :=
  fun name => registry.find? name

end FieldRules
