import GangScheduling.Gang
import GangScheduling.Notice

set_option autoImplicit false

namespace GangScheduling

structure PlaceholderPod where
  name : String
  space : String
  application : String
  group : String
  queue : String
  resources : NameMap Quantity
  nodeSelector : NameMap String
  tolerations : List Toleration
  owners : List OwnerReference
  timeoutSeconds : Int64
deriving DecidableEq

/-- Texts of the random identifiers that are drawn, by how many were drawn before. -/
abbrev Identifiers :=
  Nat → String

namespace Identifiers

def hex (width n : Nat) : List Char :=
  let digits := Nat.toDigits 16 n
  List.replicate (width - digits.length) '0' ++ digits

-- Where nothing is said about them, identifiers count up. The count is within what a name takes.
def plain : Identifiers :=
  fun n => String.ofList (hex 10 n ++ "0040008000000000000000".toList)

def hyphenated : Identifiers :=
  fun n => "00000000-0000-4000-8000-" ++ String.ofList (hex 12 n)

end Identifiers

def placeholderName (group application drawn : String) : String :=
  s!"tg-{group}-{application}-{String.ofList (drawn.toList.take 10)}"

def Reservation.pod (reservation : Reservation) (group : TaskGroup) (drawn : String) :
    PlaceholderPod :=
  { name := placeholderName group.name reservation.application drawn
    space := reservation.space
    application := reservation.application
    group := group.name
    queue := reservation.queue
    resources := group.minResource
    nodeSelector := group.nodeSelector
    tolerations := group.tolerations
    owners := reservation.owners
    timeoutSeconds := reservation.timeoutSeconds }

structure PodClient where
  uids : Identifiers := .hyphenated
  created : List PlaceholderPod := []
  deleted : List Pod := []
  -- How many pods may be created in all.
  limit : Option Nat := none
  -- Why deletions fail.
  deletionFault : Option String := none

namespace PodClient

def mayCreate (client : PodClient) : Bool :=
  match client.limit with
  | none => true
  | some limit => client.created.length < limit

def create (client : PodClient) (pod : PlaceholderPod) : Except Error (PodClient × Pod) :=
  if client.mayCreate then
    .ok ({ client with created := client.created ++ [pod] },
      { space := pod.space, name := pod.name, uid := client.uids client.created.length })
  else .error (.placeholder s!"failed to create pod {pod.name}")

def delete (client : PodClient) (pod : Pod) : PodClient × Option Error :=
  -- A deletion is kept even if it fails.
  ({ client with deleted := client.deleted ++ [pod] }, client.deletionFault.map .placeholder)

end PodClient

structure PlaceholderManager where
  client : PodClient := {}
  -- Pods that were created and not yet cleaned up, by application.
  pods : NameMap (List Pod) := .empty
  -- A name is drawn before the pod is created, and is used up even if the client refuses the pod.
  draws : Identifiers := .plain
  drawn : Nat := 0

namespace PlaceholderManager

def tracked (manager : PlaceholderManager) (application : String) : List Pod :=
  (manager.pods.get? application).getD []

def drawName (manager : PlaceholderManager) (group application : String) :
    PlaceholderManager × String :=
  ({ manager with drawn := manager.drawn + 1 },
    placeholderName group application (manager.draws manager.drawn))

def createMember (manager : PlaceholderManager) (reservation : Reservation) (group : TaskGroup) :
    PlaceholderManager × Except Error Unit :=
  let named := { manager with drawn := manager.drawn + 1 }
  match manager.client.create (reservation.pod group (manager.draws manager.drawn)) with
  | .ok (client, pod) =>
    ({ named with
        client
        pods := named.pods.insert reservation.application
          (named.tracked reservation.application ++ [pod]) }, .ok ())
  | .error fault =>
    (named, .error (.placeholder
      s!"app {reservation.application} task group {group.name}: {fault.message}"))

def createMembers (reservation : Reservation) (group : TaskGroup) :
    Nat → PlaceholderManager → PlaceholderManager × Except Error Unit
  | 0, manager => (manager, .ok ())
  | missing + 1, manager =>
    match manager.createMember reservation group with
    | (next, .ok ()) => createMembers reservation group missing next
    | (next, .error fault) => (next, .error fault)

-- The first failure ends it, and the pods that were created before stay tracked.
def createPlan (reservation : Reservation) :
    List (TaskGroup × Nat) → PlaceholderManager → PlaceholderManager × Except Error Unit
  | [], manager => (manager, .ok ())
  | (group, missing) :: rest, manager =>
    match createMembers reservation group missing manager with
    | (next, .ok ()) => createPlan reservation rest next
    | (next, .error fault) => (next, .error fault)

def create (manager : PlaceholderManager) (reservation : Reservation) :
    PlaceholderManager × Except Error Unit :=
  createPlan reservation reservation.plan manager

def forget (manager : PlaceholderManager) (application : String) :
    PlaceholderManager × List Pod :=
  ({ manager with pods := manager.pods.erase application }, manager.tracked application)

def deletePod (manager : PlaceholderManager) (application : String) (pod : Pod) :
    PlaceholderManager × List Notice :=
  match manager.client.delete pod with
  | (client, none) => ({ manager with client }, [])
  | (client, some fault) =>
    ({ manager with client }, [.placeholderNotDeleted application pod.alias fault])

def deletePods (application : String) :
    List Pod → PlaceholderManager → PlaceholderManager × List Notice
  | [], manager => (manager, [])
  | pod :: rest, manager =>
    -- A deletion that fails does not stop the others.
    let (next, notices) := manager.deletePod application pod
    let (last, more) := deletePods application rest next
    (last, notices ++ more)

def cleanUp (manager : PlaceholderManager) (application : String) :
    PlaceholderManager × List Notice :=
  let (next, pods) := manager.forget application
  deletePods application pods next

end PlaceholderManager

end GangScheduling
