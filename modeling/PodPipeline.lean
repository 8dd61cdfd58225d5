import PodPipeline.Api.Session
import PodPipeline.Cluster.Basic
import PodPipeline.Config.Load
import PodPipeline.Graph.Step
import PodPipeline.Log.Level
import PodPipeline.Pod.Fingerprint
import PodPipeline.Run.VirtualClock
import PodPipeline.Proofs.Config.FirstFault
import PodPipeline.Proofs.Config.Sufficiency
import PodPipeline.Proofs.Graph.Blame
import PodPipeline.Proofs.Graph.Multiplicity
import PodPipeline.Proofs.Graph.Rearrangement
import PodPipeline.Proofs.Pod.Drift
import PodPipeline.Proofs.Pod.Refusal
import PodPipeline.Proofs.Pod.Secret
import PodPipeline.Proofs.Pod.StatusPatch
import PodPipeline.Proofs.Run.Deadline
import PodPipeline.Proofs.Run.Series
import PodPipeline.Proofs.Scene.Agreement
import PodPipeline.Proofs.Scene.Drift
import PodPipeline.Proofs.Scene.Duet
import PodPipeline.Proofs.Scene.Incarnation
import PodPipeline.Proofs.Scene.Isolation
import PodPipeline.Proofs.Scene.Ownership
import PodPipeline.Proofs.Scene.Release
import PodPipeline.Proofs.Scene.Repetition
import PodPipeline.Proofs.Scene.Solo
import PodPipeline.Proofs.Scene.Watching
import PodPipeline.Proofs.Store.Delivery
import PodPipeline.Proofs.Store.Faithful
import PodPipeline.Proofs.Watch.Waiting
import PodPipeline.Proofs.Pod.Verdict
import PodPipeline.Proofs.Run.Precedence
import PodPipeline.Proofs.Api.Lookout
import PodPipeline.Proofs.Watch.Progression
