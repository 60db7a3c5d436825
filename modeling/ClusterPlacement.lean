import ClusterPlacement.CommandLine.Disk
import ClusterPlacement.Config.Form
import ClusterPlacement.Controller.Run
import ClusterPlacement.Main
import ClusterPlacement.Proofs.Availability.Selection
import ClusterPlacement.Proofs.Binding.Listings
import ClusterPlacement.Proofs.Binding.Versions
import ClusterPlacement.Proofs.CommandLine.Keys
import ClusterPlacement.Proofs.Config.Reload
import ClusterPlacement.Proofs.Controller.Limits
import ClusterPlacement.Proofs.Controller.Queue
import ClusterPlacement.Proofs.Failover.Contents
import ClusterPlacement.Proofs.Failover.Enumeration
import ClusterPlacement.Proofs.Json.Forms
import ClusterPlacement.Proofs.Manifest.Repetition
import ClusterPlacement.Proofs.Plan.Mappings
import ClusterPlacement.Proofs.Plan.Patches
import ClusterPlacement.Proofs.Plan.Positions
import ClusterPlacement.Proofs.Plan.Spares
import ClusterPlacement.Proofs.Reconcile.Memoryless
import ClusterPlacement.Proofs.Share.Heavier
import ClusterPlacement.Proofs.Share.Quota
import ClusterPlacement.Proofs.Share.Spreading
import ClusterPlacement.Proofs.Store.Cascade
import ClusterPlacement.Proofs.Store.Isolation
import ClusterPlacement.Proofs.Store.Records
