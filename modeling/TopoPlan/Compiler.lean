import TopoPlan.Extension.Basic
import TopoPlan.Network.Addressing
import TopoPlan.Network.Construction
import TopoPlan.Network.Resolution
import TopoPlan.Network.Segments
import TopoPlan.Network.View
import TopoPlan.Rule.Assignment

/-!
# Compilers

A compiler is a configuration with its extensions.  It makes the resolved network of
a topology: classes act, segments are found, addresses and parameters are assigned,
and every object gets its view.
-/

namespace TopoPlan

/-- A configuration that is ready to compile topologies. -/
structure Compiler where
  /-- The configuration with the classes of the extensions. -/
  config : Config
  extensions : List Extension
  generators : Generators
  extra : ExtraClasses

namespace Compiler

/-- Refuse rules with a generator that there is not. -/
def checkGenerators (generators : Generators) (config : Config) : Except CompileError Unit :=
  match generators.unknown? config with
  | some name => .error (.unknownGenerator name)
  | none => .ok ()

/-- The compiler of a configuration. -/
def ofConfig (given : Config) : Except CompileError Compiler := do
  let extensions <- Extension.ofConfig given
  let config := extensions.foldl Extension.extendConfig given
  let generators : Generators := Table.setAll {} (extensions.flatMap Extension.generators)
  checkGenerators generators config
  pure { config, extensions, generators, extra := extensions.foldl Extension.extendClasses {} }

/-- Give the parameters of all extensions. -/
def giveParameters (compiler : Compiler) (network : Network) : Network :=
  compiler.extensions.foldl (Extension.giveParameters compiler.config) network

/-- Check what all extensions need. -/
def check (compiler : Compiler) (network : Network) : Except CompileError Unit :=
  compiler.extensions.forM (Extension.check compiler.config network)

/-- Resolve a fresh network, and tell the order of its objects. -/
def run (compiler : Compiler) (files : TextFiles) : Stage (List Scope) := do
  let config := compiler.config
  Network.resolve config compiler.extra
  Segments.addAll config
  Addressing.assignAll config
  Assignment.assignAll config files compiler.generators
  modify compiler.giveParameters
  let order <- View.build
  Stage.ofExcept (compiler.check (<- get))
  pure order

/-- The resolved network of a topology, and the order of its objects. -/
def resolve (compiler : Compiler) (files : TextFiles) (topology : Topology) :
    Except CompileError (Network × List Scope) := do
  let network <- Network.ofTopology compiler.config topology
  let (outcome, resolved) := (compiler.run files).outcome network
  outcome.map fun order => (resolved, order)

end Compiler

end TopoPlan
