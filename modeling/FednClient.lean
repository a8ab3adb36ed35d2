import FednClient.Spec.Proto
import FednClient.Spec.Transfer
import FednClient.Spec.Json
import FednClient.Spec.JsonText
import FednClient.Spec.Task
import FednClient.Spec.Worker
import FednClient.Spec.Heard
import FednClient.Spec.Name
import FednClient.Spec.Assign
import FednClient.Spec.Discovery
import FednClient.Spec.Connect
import FednClient.Sanity.Task
import FednClient.Sanity.Process
import FednClient.Sanity.Worker
import FednClient.Proofs.Transfer
import FednClient.Proofs.JsonText
import FednClient.Proofs.Failure
import FednClient.Proofs.Success
import FednClient.Proofs.Resources
import FednClient.Proofs.Heartbeat
import FednClient.Proofs.Inbox
import FednClient.Proofs.Tasks
import FednClient.Proofs.Refine
import FednClient.Proofs.Roles
import FednClient.Proofs.Name
import FednClient.Proofs.Assign
import FednClient.Proofs.Discovery
import FednClient.Proofs.Connect
