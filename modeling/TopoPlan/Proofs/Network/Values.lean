import TopoPlan.Compiler
import TopoPlan.Proofs.Network.Stages

/-!
# Stages that give values

After the search for segments, stages give values: parameters of all objects and the
subnets of segments.  A frame is valueless when it does not look at them; every such
stage is within every valueless frame.  Only the attachment of records, which adds
objects, is none of these stages.
-/

namespace TopoPlan

/-- A frame that does not look at parameters and subnets. -/
structure Frame.Valueless (frame : Frame) : Prop where
  parameters : ∀ network scope change,
    frame.holds network (network.updateParameters scope change)
  subnet : ∀ (network : Network) id subnet (change : Parameters → Parameters),
    frame.holds network (network.updateSegment id fun segment =>
      { segment with subnet, parameters := change segment.parameters })
  nodes : ∀ (network : Network) (change : Node → Parameters),
    frame.holds network { network with
      nodes := network.nodes.map fun node => { node with parameters := change node } }
  attachments : ∀ (network : Network) (change : Attachment → Parameters),
    frame.holds network { network with
      attachments := network.attachments.map fun attachment =>
        { attachment with parameters := change attachment } }

/-- A frame that is weaker than a valueless one is valueless. -/
theorem Frame.Valueless.mono {frame other : Frame} (valueless : frame.Valueless)
    (weaker : ∀ before after, frame.holds before after → other.holds before after) :
    other.Valueless where
  parameters network scope change := weaker _ _ (valueless.parameters network scope change)
  subnet network id subnet change := weaker _ _ (valueless.subnet network id subnet change)
  nodes network change := weaker _ _ (valueless.nodes network change)
  attachments network change := weaker _ _ (valueless.attachments network change)

variable {frame : Frame}

namespace Distribution

open Stage

/-- What every gift of a value keeps, giving values to groups keeps. -/
theorem giveAll_holds {name : String} {groups : List (List Scope × String)}
    (gives : ∀ entry ∈ groups, ∀ scope ∈ entry.1, ∀ network,
      frame.holds network (network.updateParameters scope (·.set name entry.2)))
    (network : Network) : frame.holds network (giveAll name network groups) :=
  frame.foldl_of_mem (fun current => current)
    (fun entry listed current => frame.foldl_of_mem (fun current => current)
      (gives entry listed) current) network

/-- The distribution of a rule keeps what every gift to an object of its groups keeps. -/
theorem distributeRule_holds {config : Config} {files : TextFiles} {grouping : Grouping}
    {name : String} {objects : List Scope}
    (gives : ∀ seen rule groups, grouping seen rule objects = .ok groups →
      ∀ group ∈ groups, ∀ scope ∈ group, ∀ network value,
        frame.holds network (network.updateParameters scope (·.set name value))) :
    Within frame (distributeRule config files grouping name objects) := by
  refine within_get_bind fun network => ?_
  refine holds_ofExcept_bind fun rule _ => ?_
  split
  · exact frame.refl network
  · refine holds_ofExcept_bind fun groups grouped => holds_ofExcept_bind fun candidates _ => ?_
    refine giveAll_holds (fun entry listed scope member current => ?_) network
    exact gives network rule groups grouped entry.1 (List.of_mem_zip listed).1 scope member
      current entry.2

end Distribution

variable (valueless : frame.Valueless)

include valueless

namespace Addressing

open Stage

/-- Addresses that are given keep the frame. -/
theorem foldl_giveAddress_holds (layer : String) (subnet : Subnet) (network : Network)
    (entries : List (InterfaceId × Address)) :
    frame.holds network (entries.foldl (giveAddress layer subnet) network) := by
  refine frame.foldl (fun current => current) (fun current entry => ?_) network entries
  exact valueless.parameters current (.interface entry.1)
    (·.setAll (addressParameters layer subnet entry.2))

/-- Subnets given to connections keep the frame. -/
theorem foldl_giveConnectionSubnet_holds (layer : String) (subnet : Subnet) (network : Network)
    (ids : List ConnectionId) :
    frame.holds network (ids.foldl (giveConnectionSubnet layer subnet) network) := by
  refine frame.foldl (fun current => current) (fun current id => ?_) network ids
  exact valueless.parameters current (.connection id)
    (·.setIfAbsent (subnetKey layer) subnet.text)

/-- A plan that is written keeps the frame. -/
theorem writePlan_holds (layer : String) (network : Network) (plan : SegmentPlan)
    (subnet : Subnet) (hosts : List Address) :
    frame.holds network (writePlan layer network plan subnet hosts) := by
  have addressed := foldl_giveAddress_holds valueless layer subnet network
    (plan.waiting.zip hosts ++ plan.reserved)
  have connected := foldl_giveConnectionSubnet_holds valueless layer subnet
    ((plan.waiting.zip hosts ++ plan.reserved).foldl (giveAddress layer subnet) network)
    (network.segment plan.segment).connections
  exact frame.trans addressed (frame.trans connected
    (valueless.subnet _ plan.segment (some subnet) (·.setAll (subnetParameters layer subnet))))

/-- The addressing of segments keeps the frame. -/
theorem assignSegments_within (config : Config) (layer : Layer) :
    Within frame (assignSegments config layer) := by
  refine within_bind within_get fun _ => within_bind (within_ofExcept _) fun _ =>
    within_forM fun plan _ => ?_
  unfold assignPlan
  split
  · exact within_pure _
  · exact within_bind (within_require _ _) fun _ =>
      within_modify fun network => writePlan_holds valueless _ network plan _ _

/-- The assignment of loopbacks keeps the frame. -/
theorem assignLoopbacks_within (layer : Layer) (policy : Policy) :
    Within frame (assignLoopbacks layer policy) := by
  refine within_get_bind fun network => ?_
  refine holds_ofExcept_bind fun _ _ => holds_ofExcept_bind fun _ _ =>
    holds_ofExcept_bind fun _ _ => holds_ofExcept_bind fun _ _ => ?_
  refine frame.foldl (fun current => current) (fun current entry => ?_) network _
  exact valueless.parameters current (.node entry.1)
    (·.set (loopbackKey layer.name) entry.2.network.text)

/-- The assignment of management addresses keeps the frame. -/
theorem assignManagement_within (config : Config) : Within frame (assignManagement config) := by
  unfold assignManagement
  split
  · exact within_pure _
  · refine within_get_bind fun network => ?_
    refine holds_ofExcept_bind fun _ _ => holds_ofExcept_bind fun _ _ =>
      holds_ofExcept_bind fun _ _ => holds_ofExcept_bind fun _ _ =>
        holds_ofExcept_bind fun _ _ => holds_ofExcept_bind fun _ _ => ?_
    exact foldl_giveAddress_holds valueless _ _ network _

/-- The whole addressing keeps the frame. -/
theorem assignAll_within (config : Config) : Within frame (assignAll config) :=
  within_bind
    (within_forM fun layer _ => within_bind (assignSegments_within valueless config layer)
      fun _ => within_forM fun policy _ => assignLoopbacks_within valueless layer policy)
    fun _ => assignManagement_within valueless config

end Addressing

namespace Assignment

open Stage

/-- Names given to objects as parameters keep the frame. -/
theorem nameObjects_holds (network : Network) (scopes : List Scope) :
    frame.holds network (nameObjects network scopes) :=
  frame.foldl (fun current => current)
    (fun current scope => valueless.parameters current scope _) network scopes

/-- The distribution of one rule keeps the frame. -/
theorem distributeRule_within (config : Config) (files : TextFiles)
    (grouping : Distribution.Grouping) (name : String) (objects : List Scope) :
    Within frame (Distribution.distributeRule config files grouping name objects) :=
  Distribution.distributeRule_holds fun _ _ _ _ _ _ scope _ network _ =>
    valueless.parameters network scope _

/-- The distribution of all rules keeps the frame. -/
theorem distribute_within (config : Config) (files : TextFiles)
    (grouping : Distribution.Grouping) (scopes : List Scope) :
    Within frame (Distribution.distribute config files grouping scopes) :=
  within_bind within_get fun _ => within_forM fun entry _ =>
    distributeRule_within valueless config files grouping entry.1 entry.2

/-- The assignment to the objects of a kind keeps the frame. -/
theorem assignKind_within (config : Config) (files : TextFiles)
    (scopes : Network → List Scope) : Within frame (assignKind config files scopes) :=
  within_bind (within_modify fun network => nameObjects_holds valueless network _) fun _ =>
    within_bind within_get fun _ => distribute_within valueless config files _ _

/-- The assignment to the interfaces keeps the frame. -/
theorem assignInterfaces_within (config : Config) (files : TextFiles) :
    Within frame (assignInterfaces config files) := by
  refine within_bind within_get fun _ => within_bind (within_modify fun network => ?_) fun _ =>
    distribute_within valueless config files _ _
  refine frame.foldl (fun current => current) (fun current id => ?_) network _
  exact valueless.parameters current (.interface id) (·.setAll (takenOver current id))

/-- All parameters are values; records remain to be attached. -/
theorem assignAll_within (config : Config) (files : TextFiles) (generators : Generators)
    (attaches : Within frame (Attaching.attachAll config files generators)) :
    Within frame (assignAll config files generators) := by
  refine within_bind (within_modify fun network => valueless.parameters network .network _)
    fun _ => ?_
  refine within_bind (assignKind_within valueless config files _) fun _ => ?_
  refine within_bind (assignKind_within valueless config files _) fun _ => ?_
  refine within_bind (assignKind_within valueless config files _) fun _ => ?_
  refine within_bind (assignKind_within valueless config files _) fun _ => ?_
  exact within_bind (assignInterfaces_within valueless config files) fun _ => attaches

end Assignment

/-- The parameters of extensions are values. -/
theorem Compiler.giveParameters_holds (compiler : Compiler) (network : Network) :
    frame.holds network (compiler.giveParameters network) := by
  refine frame.foldl (fun current => current) (fun current extension => ?_) network _
  cases extension with
  | builtin => exact frame.refl current
  | containerlab =>
    let change (node : Node) : Parameters := (Containerlab.giveMounts compiler.config node).parameters
    have mounts : Containerlab.giveMounts compiler.config =
        fun node => { node with parameters := change node } := by
      funext node
      dsimp only [change]
      unfold Containerlab.giveMounts
      split <;> rfl
    have mounted := valueless.nodes current change
    rw [← mounts] at mounted
    refine frame.trans mounted ?_
    exact valueless.parameters _ .network fun parameters =>
      (parameters.set Containerlab.networkNameKey compiler.config.name).set
        Containerlab.linksKey (Containerlab.links current)

/-- Views are values. -/
theorem View.build_within : Stage.Within frame View.build := by
  refine Stage.within_bind Stage.within_get fun _ =>
    Stage.within_bind (Stage.within_ofExcept _) fun views =>
      Stage.within_bind (Stage.within_modify fun network => ?_) fun _ => Stage.within_pure _
  exact frame.trans
    (frame.foldl (fun current => current)
      (fun current entry => valueless.parameters current entry.1 _) network views)
    (valueless.attachments _ _)

end TopoPlan
