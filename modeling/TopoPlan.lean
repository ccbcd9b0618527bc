import TopoPlan.Address.Bytes
import TopoPlan.CommandLine
import TopoPlan.Config.Encode
import TopoPlan.Main
import TopoPlan.Proofs.Address.PoolRuns
import TopoPlan.Proofs.Dependency.Order
import TopoPlan.Proofs.Network.SegmentAddresses
import TopoPlan.Proofs.Network.Coherence
import TopoPlan.Proofs.Network.SearchedObjects
import TopoPlan.Proofs.Network.ChildClasses
import TopoPlan.Proofs.Network.ObjectOrder
import TopoPlan.Proofs.Network.RelativeViews
import TopoPlan.Proofs.Network.PolicySubnets
import TopoPlan.Proofs.Network.ClassRecords
import TopoPlan.Proofs.Network.WellFormed
import TopoPlan.Proofs.Network.Readdressing
import TopoPlan.Proofs.Network.VirtualMarks
import TopoPlan.Proofs.Network.Loopbacks
import TopoPlan.Proofs.Rule.SharedValues
import TopoPlan.Proofs.CompilationFailures
import TopoPlan.Proofs.Address.LowestHosts
import TopoPlan.Proofs.Network.PolicyPools
import TopoPlan.Proofs.Network.SegmentPeers
import TopoPlan.Proofs.Network.IndependentLayers
import TopoPlan.Proofs.Address.BlockNumbers
import TopoPlan.Proofs.Dependency.SortErrors
import TopoPlan.Proofs.Dependency.SameContent
import TopoPlan.Proofs.Network.FreshNames
import TopoPlan.Proofs.Network.Names
import TopoPlan.Proofs.Network.DistinctNames
import TopoPlan.Proofs.Network.ObjectTemplates
import TopoPlan.Proofs.Network.DeclaredMembers
import TopoPlan.Proofs.Rule.KeyOrder
import TopoPlan.Proofs.Rule.TakenOver
import TopoPlan.Proofs.Network.ManagementAddresses
import TopoPlan.Proofs.Network.RepeatedSearch
import TopoPlan.Proofs.Network.ClassLists
import TopoPlan.Proofs.Network.ClassPrecedence
import TopoPlan.Proofs.Rule.CandidateLists
import TopoPlan.Proofs.Network.ViewFailures
import TopoPlan.Proofs.Rule.AttachedRecords
import TopoPlan.Proofs.PlanNames
import TopoPlan.Proofs.Data.WrittenRecords
import TopoPlan.Proofs.WrittenLabels
import TopoPlan.Proofs.Rule.DerivedFields
import TopoPlan.Proofs.Rule.NumberedRows
import TopoPlan.Proofs.Address.WordArithmetic
import TopoPlan.Proofs.Address.MaskedSubnets
import TopoPlan.Proofs.Network.ChildLists
import TopoPlan.Proofs.Network.RebuiltViews
