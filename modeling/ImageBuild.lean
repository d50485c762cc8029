import ImageBuild.Cluster.Remote
import ImageBuild.Config.Json
import ImageBuild.FileTree.Laws
import ImageBuild.Json.MergePatch
import ImageBuild.Main
import ImageBuild.Proofs.Engine.Status
import ImageBuild.Proofs.Engine.Versions
import ImageBuild.Store.Memory
import ImageBuild.Proofs.Cluster.Calls
import ImageBuild.Proofs.Cluster.Record
import ImageBuild.Proofs.Worker.Reading
import ImageBuild.Proofs.Engine.Unlogged
import ImageBuild.Proofs.Engine.Workers
import ImageBuild.Proofs.Engine.Attempts
import ImageBuild.Proofs.Engine.Cancelled
import ImageBuild.Proofs.Cluster.Alike
import ImageBuild.Proofs.Engine.Timeless
import ImageBuild.Proofs.Engine.Transient
import ImageBuild.Proofs.FileTree.Paths
import ImageBuild.Proofs.Store.Written
import ImageBuild.Proofs.Store.Refinement
import ImageBuild.Proofs.Build.Json
import ImageBuild.Proofs.Context.Replaced
import ImageBuild.Proofs.Engine.Apart
import ImageBuild.Proofs.Engine.Refused
import ImageBuild.Proofs.Engine.Touches
import ImageBuild.Proofs.Store.Orderless
import ImageBuild.Proofs.Engine.Commuting
import ImageBuild.Proofs.Engine.Restarted
import ImageBuild.Proofs.Worker.Furnished
import ImageBuild.Proofs.Worker.Closed
import ImageBuild.Proofs.Worker.Assembly
import ImageBuild.Proofs.Engine.Waiting
import ImageBuild.Proofs.Cluster.Contract
import ImageBuild.Proofs.Engine.Discreet
import ImageBuild.Proofs.Store.Atomic
import ImageBuild.Proofs.Worker.Script
import ImageBuild.Proofs.Engine.Deadline
import ImageBuild.Proofs.Engine.Cleanup
import ImageBuild.Proofs.Worker.UserFlags
import ImageBuild.Proofs.Worker.Directory
import ImageBuild.Proofs.Context.Mountable
import ImageBuild.Proofs.Engine.Leftover
import ImageBuild.Proofs.Name.Grammar
import ImageBuild.Proofs.Command.Keys
import ImageBuild.Proofs.Registry.Hosts
import ImageBuild.Proofs.Backoff.Curve
import ImageBuild.Proofs.Config.Valid
import ImageBuild.Proofs.Engine.FirstFailure
import ImageBuild.Proofs.Command.Waiting
import ImageBuild.Proofs.Engine.Chronicle
