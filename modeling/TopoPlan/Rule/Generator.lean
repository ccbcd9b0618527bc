import TopoPlan.Config.Basic
import TopoPlan.Network.Description
import TopoPlan.Rule.Row

/-!
# Generators

A generator makes the rows of an attach rule for one object, from the configuration
and the network as they are.  Rules refer to generators by name.
-/

namespace TopoPlan

/-- A maker of the rows of one object. -/
abbrev Generator := Config -> Network -> Scope -> Except CompileError (List Row)

/-- Generators by name. -/
abbrev Generators := Table Generator

namespace Generators

/-- The first generator that a rule refers to and that there is not. -/
def unknown? (generators : Generators) (config : Config) : Option String :=
  (config.rules.filterMap (·.generatorName?)).find? fun name => !generators.contains name

/-- An error of a generator; one that tells its generator stays as it is. -/
def failure (name : String) : CompileError -> CompileError
  | .generator raiser reason => .generator raiser reason
  | error => .generator name error.message

/-- The rows that a generator makes for an object. -/
def rows (generators : Generators) (name : String) (config : Config) (network : Network)
    (owner : Scope) : Except CompileError (List Row) :=
  match generators[name]? with
  | none => .error (.unknownGenerator name)
  | some generator => (generator config network owner).mapError (failure name)

end Generators

end TopoPlan
