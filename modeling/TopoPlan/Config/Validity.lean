import TopoPlan.Config.Basic
import TopoPlan.Config.ParamName

/-!
# Valid configurations

The conditions on a configuration that do not need a topology.  They are checked in
a fixed order and the first violation counts.
-/

namespace TopoPlan

/-- What is wrong with a layer. -/
inductive LayerFault where
  | emptyName
  | duplicateLayer (name : String)
  | duplicatePolicy (name : String)
  | policyRange (policy : String) (fault : SubnetFault)
  | policyLength (policy : String) (length : Nat)
  | managementName
  | managementRange (fault : SubnetFault)
  | managementGateway (text : String)
  | gatewayOutside (gateway : String) (range : Subnet)
  deriving DecidableEq, Inhabited

/-- The wording of a layer fault. -/
def LayerFault.message : LayerFault -> String
  | .emptyName => "layer name cannot be empty"
  | .duplicateLayer name => s!"duplicated layer name {name}"
  | .duplicatePolicy name => s!"duplicated policy name {name}"
  | .policyRange policy fault => s!"policy {policy}: {fault.message}"
  | .policyLength policy length =>
    s!"policy {policy}: prefix length {length} exceeds address length"
  | .managementName => "mgmt_layer name cannot be empty"
  | .managementRange fault => s!"mgmt_layer range: {fault.message}"
  | .managementGateway text => "mgmt_layer gateway: " ++ Subnet.notAddressText text
  | .gatewayOutside gateway range => s!"mgmt_layer gateway {gateway} is outside of {range}"

/-- What is wrong with a parameter rule. -/
inductive RuleFault where
  | duplicateRule (name : String)
  | sourceAndGenerator (rule : String)
  | generatorFormat (generator : String)
  | sourceWithoutFile (rule : String)
  | candidatesWithoutFile (rule : String)
  | noLayer (rule : String)
  | unknownLayer (rule layer : String)
  deriving DecidableEq, Inhabited

/-- The wording of a rule fault. -/
def RuleFault.message : RuleFault -> String
  | .duplicateRule name => s!"duplicated parameter rule {name}"
  | .sourceAndGenerator rule => s!"param_rule {rule} specifies both source and generator"
  | .generatorFormat generator =>
    s!"invalid generator format {generator}: expected 'module.generator'"
  | .sourceWithoutFile rule => s!"param_rule {rule}: file source requires a file"
  | .candidatesWithoutFile rule => s!"param_rule {rule}: file rule requires sourcefile"
  | .noLayer rule => s!"invalid parameter rule {rule}: layer is required"
  | .unknownLayer rule layer => s!"invalid parameter rule {rule}: layer {layer} not found"

/-- What is wrong with a class. -/
inductive ClassFault where
  | emptyName (kind : ClassKind)
  | duplicateClass (kind : ClassKind) (name : String)
  | member (className : String) (fault : MemberFault)
  | segmentLayer (className layer : String)
  | unknownStyle (style : String)
  | sortWithoutGroup (template : String)
  deriving DecidableEq, Inhabited

/-- The wording of a class fault. -/
def ClassFault.message : ClassFault -> String
  | .emptyName kind => s!"{kind.name} class without name"
  | .duplicateClass kind name => s!"duplicated {kind.name} class {name}"
  | .member className fault => s!"class {className}: {fault.message}"
  | .segmentLayer className layer => s!"segment class {className}: layer {layer} not found"
  | .unknownStyle style => s!"unknown config template style {style}"
  | .sortWithoutGroup template =>
    s!"config template {template} of style sort requires sort_group"

/-- Why a configuration is not valid. -/
inductive ConfigFault where
  | layer (fault : LayerFault)
  | rule (fault : RuleFault)
  | definition (fault : ClassFault)
  | name (fault : NameFault)
  deriving DecidableEq, Inhabited

/-- The wording of a configuration fault. -/
def ConfigFault.message : ConfigFault -> String
  | .layer fault => "Invalid layer configuration: " ++ fault.message
  | .rule fault => "Invalid parameter rule: " ++ fault.message
  | .definition fault => "Invalid class definition: " ++ fault.message
  | .name fault => "Invalid parameter name: " ++ fault.message

/-- The outcome of a check. -/
abbrev Check := Except ConfigFault Unit

/-- Refuse where a condition holds. -/
def refuseIf (condition : Bool) (fault : ConfigFault) : Check :=
  if condition then .error fault else .ok ()

namespace Config

/-- The range of a policy is a subnet, and no segment needs more bits than it has. -/
def checkPolicy (policy : Policy) : Check := do
  match Subnet.parse policy.range with
  | .error fault => .error (.layer (.policyRange policy.name fault))
  | .ok range =>
    refuseIf (policy.kind = .ip && range.width < policy.subnetLength)
      (.layer (.policyLength policy.name policy.subnetLength))

/-- Policies have names that no earlier policy has.  The result is all names. -/
def checkPolicies (taken : List String) (policies : List Policy) :
    Except ConfigFault (List String) :=
  policies.foldlM (fun taken policy => do
    refuseIf (taken.contains policy.name) (.layer (.duplicatePolicy policy.name))
    checkPolicy policy
    pure (taken ++ [policy.name])) taken

/-- Layers have names, no two the same, and sound policies. -/
def checkLayers (layers : List Layer) : Check := do
  let _ <- layers.foldlM (fun (taken : List String × List String) layer => do
    refuseIf layer.name.isEmpty (.layer .emptyName)
    refuseIf (taken.1.contains layer.name) (.layer (.duplicateLayer layer.name))
    let policies <- checkPolicies taken.2 layer.policies
    pure (taken.1 ++ [layer.name], policies)) ([], [])

/-- The management layer has a name and a range, and its gateway lies in the range. -/
def checkManagement (management : ManagementLayer) : Check := do
  refuseIf management.name.isEmpty (.layer .managementName)
  match Subnet.parse management.range with
  | .error fault => .error (.layer (.managementRange fault))
  | .ok range =>
    match management.gateway with
    | none => pure ()
    | some gateway =>
      match Address.parseHost? gateway with
      | none => .error (.layer (.managementGateway gateway))
      | some address =>
        refuseIf (!range.contains address) (.layer (.gatewayOutside gateway range))

/-- A parameter name is not reserved. -/
def checkName (name : String) : Check :=
  match ParamName.fault? name with
  | some fault => .error (.name fault)
  | none => .ok ()

/-- A rule that shares values in segments names a layer. -/
def checkRuleLayer (config : Config) (rule : ParameterRule) : Check :=
  match rule.assign with
  | .segment =>
    match rule.layer with
    | none => .error (.rule (.noLayer rule.name))
    | some layer => refuseIf (config.layer? layer).isNone (.rule (.unknownLayer rule.name layer))
  | _ => .ok ()

/-- A rule has what its kind needs. -/
def checkRule (config : Config) (rule : ParameterRule) : Check := do
  checkName rule.name
  refuseIf (rule.source.isSome && rule.generator.isSome) (.rule (.sourceAndGenerator rule.name))
  refuseIf (rule.generator.isSome && rule.generatorParts?.isNone)
    (.rule (.generatorFormat (rule.generator.getD "")))
  refuseIf (rule.source.any fun source => source.kind = .file && source.file.isNone)
    (.rule (.sourceWithoutFile rule.name))
  refuseIf (!rule.attaches && rule.kind = .file && rule.sourceFile.isNone)
    (.rule (.candidatesWithoutFile rule.name))
  checkRuleLayer config rule

/-- Rules have different names and are sound. -/
def checkRules (config : Config) : Check := do
  let _ <- config.rules.foldlM (fun (taken : List String) rule => do
    refuseIf (taken.contains rule.name) (.rule (.duplicateRule rule.name))
    checkRule config rule
    pure (taken ++ [rule.name])) []

/-- The classes of one kind have names, no two the same. -/
def checkClassNames (kind : ClassKind) (names : List String) : Check := do
  let _ <- names.foldlM (fun (taken : List String) name => do
    refuseIf name.isEmpty (.definition (.emptyName kind))
    refuseIf (taken.contains name) (.definition (.duplicateClass kind name))
    pure (taken ++ [name])) []

/-- The parameters that classes give. -/
def classValues (config : Config) : List (Table Value) :=
  config.networkClasses.map (·.values) ++ config.nodeClasses.map (·.values) ++
    config.interfaceClasses.map (·.values) ++ config.connectionClasses.map (·.values) ++
    config.groupClasses.map (·.values)

/-- The declarations of members, with the classes that declare them. -/
def memberDeclarations (config : Config) : List (String × MemberClass) :=
  (config.nodeClasses.map fun definition => (definition.name, definition.members)) ++
      (config.interfaceClasses.map fun definition => (definition.name, definition.members)) ++
      (config.connectionClasses.map fun definition => (definition.name, definition.members))
    |>.flatMap fun entry => entry.2.map fun member => (entry.1, member)

/-- A declaration of members names classes of one kind. -/
def checkMember (declaration : String × MemberClass) : Check :=
  match declaration.2.target with
  | .error fault => .error (.definition (.member declaration.1 fault))
  | .ok _ => .ok ()

/-- A segment class belongs to a layer. -/
def checkSegmentClass (config : Config) (definition : SegmentClass) : Check :=
  refuseIf (config.layer? definition.layer).isNone
    (.definition (.segmentLayer definition.name definition.layer))

/-- A template has a known style, and style `sort` names a group. -/
def checkTemplate (template : Template) : Check := do
  refuseIf (!template.style.isEmpty && template.style != Template.sortStyle &&
      template.style != Template.hierarchyStyle)
    (.definition (.unknownStyle template.style))
  refuseIf (template.isSortStyle && template.sortGroup.isEmpty)
    (.definition (.sortWithoutGroup template.name))

/-- Classes are sound. -/
def checkClasses (config : Config) : Check := do
  ClassKind.all.forM fun kind =>
    checkClassNames kind ((config.classTemplates kind).map (·.1))
  config.classValues.forM fun values => values.keys.forM checkName
  config.memberDeclarations.forM checkMember
  config.segmentClasses.forM (checkSegmentClass config)
  config.allTemplates.forM checkTemplate

/-- Check a configuration. -/
def validate (config : Config) : Check := do
  checkLayers config.layers
  config.management.forM checkManagement
  checkRules config
  checkClasses config

end Config

end TopoPlan
