import GangScheduling.Config.Codec
import GangScheduling.Dispatcher.Script
import GangScheduling.Event.Codec
import GangScheduling.Json.Access
import GangScheduling.Proofs.Application.Ask
import GangScheduling.Proofs.Application.Release
import GangScheduling.Proofs.Config.Loading
import GangScheduling.Proofs.Config.Variables
import GangScheduling.Proofs.Dispatcher.Backlog
import GangScheduling.Proofs.Dispatcher.Drain
import GangScheduling.Proofs.Dispatcher.Ledger
import GangScheduling.Proofs.Gang.Plan
import GangScheduling.Proofs.Gang.Quorum
import GangScheduling.Proofs.Gang.Refill
import GangScheduling.Proofs.Json.Decode
import GangScheduling.Proofs.Placeholder.Conservation
import GangScheduling.Proofs.Recorder
import GangScheduling.Proofs.Resource.Members
import GangScheduling.Proofs.ResourceManager.CarryOut
import GangScheduling.Proofs.ResourceManager.Isolation
import GangScheduling.Proofs.ResourceManager.Pods
import GangScheduling.Proofs.ResourceManager.Solo
import GangScheduling.Proofs.System.Atomic
import GangScheduling.Proofs.System.CleanUp
import GangScheduling.Proofs.System.Completion
import GangScheduling.Proofs.System.Degradation
import GangScheduling.Proofs.System.Origin
import GangScheduling.Proofs.System.Passes
import GangScheduling.Proofs.System.Refusal
import GangScheduling.Proofs.System.Reserving
import GangScheduling.Proofs.System.Response
import GangScheduling.Proofs.System.Running
import GangScheduling.Proofs.System.Starts
import GangScheduling.Proofs.TaskGroup.Annotation
import GangScheduling.Proofs.TransitionTable.Validation
import GangScheduling.ResourceManager.Debug
import GangScheduling.Scheduler.Audience
import GangScheduling.Scheduler.Codec
import GangScheduling.Session
import GangScheduling.TaskGroup.Codec
import GangScheduling.Workers
import GangScheduling.Proofs.System.Background
