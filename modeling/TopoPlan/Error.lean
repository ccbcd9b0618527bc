import TopoPlan.Address.Subnet
import TopoPlan.Config.ClassKind

/-!
# Compilation errors

Every way in which a compilation can fail, as a cause with the objects that it is
about.  The wording is in `CompileError.message` alone, and
`CompileError.category` sorts causes into five groups.
-/

namespace TopoPlan

/-- Why a file could not be read or written. -/
inductive FileFault where
  | notFound
  | isDirectory
  | alreadyExists
  | notDirectory
  | invalidText
  | other (text : String)
  deriving DecidableEq, Inhabited

/-- The wording of a file fault. -/
def FileFault.message : FileFault -> String
  | .notFound => "No such file or directory (os error 2)"
  | .isDirectory => "Is a directory (os error 21)"
  | .alreadyExists => "File exists (os error 17)"
  | .notDirectory => "Not a directory (os error 20)"
  | .invalidText => "stream did not contain valid UTF-8"
  | .other text => text

/-- Why an address, a subnet or an index of a pool is refused. -/
inductive AddressFault where
  | host (text : String)
  | subnet (fault : SubnetFault)
  | length (fault : Numeral.Fault)
  | poolTooSmall (pool : String) (length : Nat)
  | indexOutOfRange (pool : String)
  | indexOverflow (pool : String)
  | otherLength (expected : Nat) (pool : String)
  | outsideRange (range : Subnet)
  | noGateway
  deriving DecidableEq, Inhabited

/-- The wording of an address fault. -/
def AddressFault.message : AddressFault -> String
  | .host text => Subnet.notAddressText text
  | .subnet fault => fault.message
  | .length fault => fault.message
  | .poolTooSmall pool blockLength =>
    s!"prefix range of pool {pool} is too small for prefixes of length {blockLength}"
  | .indexOutOfRange pool => s!"index out of range of pool {pool}"
  | .indexOverflow pool => s!"index overflows address space of pool {pool}"
  | .otherLength expected pool => s!"expected a prefix of length {expected} for pool {pool}"
  | .outsideRange range => s!"outside of pool range {range}"
  | .noGateway => "no gateway address available"

/-- Why a topology is refused. -/
inductive TopologyFault where
  | unnamedNode (position : Nat)
  | duplicateNode (key : String)
  | unknownEnd (edge : Nat) (key : String)
  | unknownGroupNode (group key : String)
  deriving DecidableEq, Inhabited

/-- The wording of a topology fault. -/
def TopologyFault.message : TopologyFault -> String
  | .unnamedNode position => s!"node {position} has neither id nor name"
  | .duplicateNode key => s!"duplicated node '{key}' in topology"
  | .unknownEnd edge key => s!"edge {edge} references unknown node '{key}'"
  | .unknownGroupNode group key => s!"group '{group}' references unknown node '{key}'"

/-- Why a member declaration names no kind of objects. -/
inductive MemberFault where
  | noClass
  | twoKinds (first second : ClassKind)
  deriving DecidableEq, Inhabited

/-- The wording of a member fault. -/
def MemberFault.message : MemberFault -> String
  | .noClass => "no class specified for member class"
  | .twoKinds first second =>
    s!"{first.name} class and {second.name} class cannot be specified at the same time"

/-- What makes explicit addresses of a segment contradict each other. -/
inductive AddressConflict where
  | subnets (first second : Subnet)
  | outside (address : Address) (object : String) (subnet : Subnet)
  deriving DecidableEq, Inhabited

/-- The wording of an address conflict. -/
def AddressConflict.message : AddressConflict -> String
  | .subnets first second => s!"{first} and {second}"
  | .outside address object subnet => s!"{address} of {object} is outside of {subnet}"

/-- Why a compilation failed. -/
inductive CompileError where
  | unknownClass (kind name object : String)
  | unknownRule (name object : String)
  | unknownLayer (layer context : String)
  | unknownPolicy (policy kind className : String)
  | undefinedPolicy (policy object : String)
  | unknownNode (name context : String)
  | unknownPlaceLabel (target aliasName : String)
  | unknownGenerator (name : String)
  | unknownModule (name : String)
  | duplicatePrimary (kind object first second : String)
  | primaryOnlyField (field kind className : String)
  | inconsistentAddress (conflict : AddressConflict) (segment : String)
  | inconsistentPolicy (first second segment : String)
  | missingPolicy (object layer : String)
  | duplicatePlaceLabel (label first second : String)
  | duplicateName (kind name : String)
  | invalidMemberClass (object declaredBy : String) (fault : MemberFault)
  | misplacedManagementClass (className object : String)
  | notEnoughCandidates (rule : String) (required : Nat)
  | poolExhausted (pool : String) (required : Nat)
  | addressExhausted (subnet : Subnet) (required : Nat)
  | cycle (path : List String)
  | unresolvedDependency (dependency node : String)
  | incompleteSort (sorted total : Nat)
  | unnamedInterface (node : String)
  | invalidTopology (fault : TopologyFault)
  | invalidAddress (value : String) (fault : AddressFault)
  | invalidRule (rule reason : String)
  | sourceFile (path : String) (fault : FileFault)
  | sourceFormat (path reason : String)
  | generator (name reason : String)
  | moduleRequirement (moduleName reason : String)
  deriving DecidableEq, Inhabited

/-- The five groups of causes. -/
inductive ErrorCategory where
  | reference
  | conflict
  | capacity
  | structural
  | input
  deriving DecidableEq, Inhabited

/-- The word for a group of causes. -/
def ErrorCategory.name : ErrorCategory -> String
  | .reference => "reference"
  | .conflict => "conflict"
  | .capacity => "capacity"
  | .structural => "structural"
  | .input => "input"

namespace CompileError

/-- The wording of an error. -/
def message : CompileError -> String
  | unknownClass kind name object => s!"unknown {kind} class '{name}' referenced by {object}"
  | unknownRule name object => s!"invalid parameter rule name {name} (requested by {object})"
  | unknownLayer layer context => s!"layer {layer} not found ({context})"
  | unknownPolicy policy kind className =>
    s!"invalid policy name {policy} in {kind}class {className}"
  | undefinedPolicy policy object => s!"undefined IP policy {policy} for {object}"
  | unknownNode name context => s!"unknown node '{name}' referenced by {context}"
  | unknownPlaceLabel target aliasName =>
    s!"unknown place label {target} (specified for meta value label {aliasName})"
  | unknownGenerator name => s!"no generator found for {name}"
  | unknownModule name => s!"unknown module {name}"
  | duplicatePrimary kind object first second =>
    s!"multiple primary {kind} classes on {object} ({first}, {second})"
  | primaryOnlyField field kind className =>
    s!"{field} can be specified only in primary class (found in {kind}class {className})"
  | inconsistentAddress conflict segment =>
    s!"inconsistent specification of ip address ({conflict.message}) in network segment {segment}"
  | inconsistentPolicy first second segment =>
    s!"inconsistent IP policy ({first}, {second}) for segment {segment}"
  | missingPolicy object layer => s!"no policy defined for {object} in layer {layer}"
  | duplicatePlaceLabel label first second =>
    s!"duplicated place label {label} ({first}, {second})"
  | duplicateName kind name => s!"duplicated {kind} name {name}"
  | invalidMemberClass object declaredBy fault =>
    s!"invalid member class on {object}: {fault.message} (class {declaredBy})"
  | misplacedManagementClass className object =>
    s!"management interface class {className} cannot be used on topology interface {object}"
  | notEnoughCandidates rule required =>
    s!"not enough candidates for {rule} ({required} required)"
  | poolExhausted pool required =>
    s!"no enough network prefix in address pool {pool} ({required} required)"
  | addressExhausted subnet required =>
    s!"address prefix {subnet} is too small ({required} addresses required)"
  | cycle path => "cyclic dependency detected: [" ++ ", ".intercalate path ++ "]"
  | unresolvedDependency dependency node =>
    s!"dependency {dependency} not found for node {node}"
  | incompleteSort sorted total =>
    s!"some nodes are not included in the sorted list ({sorted} of {total})"
  | unnamedInterface node => s!"still exists unnamed interfaces on node {node}"
  | invalidTopology fault => s!"invalid topology: {fault.message}"
  | invalidAddress value fault => s!"invalid address '{value}': {fault.message}"
  | invalidRule rule reason => s!"invalid parameter rule {rule}: {reason}"
  | sourceFile path fault => s!"failed to read source file {path}: {fault.message}"
  | sourceFormat path reason => s!"failed to parse source file {path}: {reason}"
  | generator name reason => s!"generator {name} failed: {reason}"
  | moduleRequirement moduleName reason =>
    s!"module {moduleName} requirement not satisfied: {reason}"

/-- The group that an error belongs to. -/
def category : CompileError -> ErrorCategory
  | unknownClass .. | unknownRule .. | unknownLayer .. | unknownPolicy ..
  | undefinedPolicy .. | unknownNode .. | unknownPlaceLabel .. | unknownGenerator ..
  | unknownModule .. => .reference
  | duplicatePrimary .. | primaryOnlyField .. | inconsistentAddress ..
  | inconsistentPolicy .. | missingPolicy .. | duplicatePlaceLabel .. | duplicateName ..
  | invalidMemberClass .. | misplacedManagementClass .. => .conflict
  | notEnoughCandidates .. | poolExhausted .. | addressExhausted .. => .capacity
  | cycle .. | unresolvedDependency .. | incompleteSort .. | unnamedInterface .. =>
    .structural
  | invalidTopology .. | invalidAddress .. | invalidRule .. | sourceFile ..
  | sourceFormat .. | generator .. | moduleRequirement .. => .input

end CompileError

end TopoPlan
