import OcneProvider.Controller.Calls

/-! What the controller does with the etcd members of a workload cluster. -/

namespace OcneProvider.Etcd.Workload
open Api.Meta Api.Objects Api.Formats Controller.Calls
open Effects.Program Effects.Fallible

structure Member where
  clusterID : Nat
  id : Nat
  name : String
  alarms : List AlarmType
  deriving DecidableEq

def labelNodeRoleOldControlPlane : String := "node-role.kubernetes.io/master"

def labelNodeRoleControlPlane : String := "node-role.kubernetes.io/control-plane"

def addNewNodes (known found : List Node) : List Node :=
  found.foldl (fun nodes node =>
    if node.name ∈ nodes.map Node.name then nodes else nodes ++ [node]) known

def getControlPlaneNodes : Api (List Node) := do
  let old ← listNodes labelNodeRoleOldControlPlane
  let new ← listNodes labelNodeRoleControlPlane
  return addNewNodes (addNewNodes [] old) new

/-- The members the etcd member on the client's node knows, with their alarms. -/
def members (client : EtcdClient) : Api (List Member) := do
  let (clusterID, response) ← adaptError
    (Err.wrap "failed to get list of members for etcd cluster") (memberList client.node)
  let alarms ← adaptError (Err.wrap "failed to get alarms for etcd cluster") (alarmList client.node)
  return response.map fun member => ⟨clusterID, member.id, member.name,
    (alarms.filter (·.memberID == member.id)).map MemberAlarm.type⟩

def connectFirst (errors : List Err) : List String → Api EtcdClient
  | [] => throw ((aggregate errors).wrap "could not establish a connection to any etcd node")
  | name :: rest => do
    match ← attempt (newEtcdClient name) with
    | .ok client => return client
    | .error error => connectFirst (errors ++ [error]) rest

def forFirstAvailableNode (nodeNames : List String) : Api EtcdClient :=
  if nodeNames = [] then
    throw (errorf "invalid argument: forLeader can't be called with an empty list of nodes")
  else connectFirst [] nodeNames

def errEtcdNodeConnection : Err :=
  ⟨["failed to connect to etcd node"], [.etcdNodeConnection]⟩

def hexadecimal (number : Nat) : String :=
  String.ofList (Nat.toDigits 16 number)

def getLeaderClient (nodeName : String) (allNodes : List String) : Api EtcdClient := do
  let connectionError := fun error => aggregate [error, errEtcdNodeConnection]
  let client ← adaptError connectionError (forFirstAvailableNode [nodeName])
  let known ← adaptError connectionError (members client)
  match known.find? (·.id == client.leaderID) with
  | some leader =>
    if leader.name ∈ allNodes then forFirstAvailableNode [leader.name]
    else throw (errorf ("etcd leader is reported as " ++ hexadecimal leader.id ++ " with name " ++
      quoted leader.name ++ ", but we couldn't find a corresponding Node in the cluster"))
  | none => throw (errorf ("etcd leader is reported as " ++ hexadecimal client.leaderID ++
      ", but we couldn't find any matching member"))

def firstLeaderClient (allNodes : List String) (errors : List Err) : List String → Api EtcdClient
  | [] => throw ((aggregate errors).wrap "could not establish a connection to the etcd leader")
  | nodeName :: rest => do
    match ← attempt (getLeaderClient nodeName allNodes) with
    | .ok client => return client
    | .error error =>
      if error.is .etcdNodeConnection then firstLeaderClient allNodes (errors ++ [error]) rest
      else throw error

def forLeader (nodeNames : List String) : Api EtcdClient :=
  if nodeNames = [] then
    throw (errorf "invalid argument: forLeader can't be called with an empty list of nodes")
  else firstLeaderClient nodeNames [] nodeNames

def memberForName (known : List Member) (name : String) : Option Member :=
  known.find? (·.name == name)

def errControlPlaneMinNodes : Err :=
  ⟨["cluster has fewer than 2 control plane nodes; removing an etcd member is not supported"],
    [.controlPlaneMinNodes]⟩

def removeMember (client : EtcdClient) (id : Nat) : Api Unit :=
  adaptError (Err.wrap ("failed to remove member: " ++ toString id)) (memberRemove client.node id)

def moveLeader (client : EtcdClient) (id : Nat) : Api Unit :=
  adaptError (Err.wrap ("failed to move etcd leader: " ++ toString id)) (moveLeaderTo client.node id)

def removeMemberForNode (name : String) : Api Unit := do
  let controlPlaneNodes ← getControlPlaneNodes
  if controlPlaneNodes.length < 2 then throw errControlPlaneMinNodes
  let remainingNodes := (controlPlaneNodes.map Node.name).filter (· ≠ name)
  let client ← adaptError (Err.wrap "failed to create etcd client") (forFirstAvailableNode remainingNodes)
  let known ← adaptError (Err.wrap "failed to list etcd members using etcd client") (members client)
  match memberForName known name with
  | none => return ()
  | some member => adaptError (Err.wrap "failed to remove member from etcd") (removeMember client member.id)

/-- Versions, without their pre-release, that keep no cluster status. -/
def withoutClusterStatus (version : Version) : Bool :=
  1 < version.major || (version.major == 1 && 22 ≤ version.minor)

def removeNodeFromOCNEConfigMap (name : String) (version : Version) : Api Unit :=
  if withoutClusterStatus version then return () else runTask (.updateClusterStatus name)

def errorsOf {α : Type} : Except Err α → List Err
  | .ok _ => []
  | .error error => [error]

def removeOrphan (name : String) (version : Version) : Prog signature (List Err) := do
  let removal ← (removeMemberForNode name).run
  let cleanup ← (removeNodeFromOCNEConfigMap name version).run
  return errorsOf removal ++ errorsOf cleanup

/-- Removes the members that have a name but no node, and goes on when that fails. -/
def removeOrphans (nodeNames : List String) (version : Version) :
    List Member → Prog signature (List String × List Err)
  | [] => return ([], [])
  | member :: rest =>
    if member.name = "" ∨ member.name ∈ nodeNames then removeOrphans nodeNames version rest
    else do
      let errors ← removeOrphan member.name version
      let (removed, laterErrors) ← removeOrphans nodeNames version rest
      return (member.name :: removed, errors ++ laterErrors)

def reconcileEtcdMember (nodeNames : List String) (version : Version) (nodeName : String) :
    Prog signature (List String × List Err) := do
  match ← (forFirstAvailableNode [nodeName]).run with
  | .error _ => return ([], [])
  | .ok client =>
    match ← (members client).run with
    | .error _ => return ([], [])
    | .ok known => removeOrphans nodeNames version known

def reconcileMembersOf (nodeNames : List String) (version : Version) :
    List String → Prog signature (List String × List Err)
  | [] => return ([], [])
  | nodeName :: rest => do
    let (removed, errors) ← reconcileEtcdMember nodeNames version nodeName
    let (laterRemoved, laterErrors) ← reconcileMembersOf nodeNames version rest
    return (removed ++ laterRemoved, errors ++ laterErrors)

def reconcileEtcdMembers (nodeNames : List String) (version : Version) :
    Prog signature (List String × Option Err) := do
  let (removed, errors) ← reconcileMembersOf nodeNames version nodeNames
  return (removed, newAggregate errors)

def removeEtcdMemberForMachine (machine : Machine) : Api Unit :=
  match machine.nodeRef with
  | none => return ()
  | some node => removeMemberForNode node

def removeMachineFromOCNEConfigMap (machine : Machine) (version : Version) : Api Unit :=
  match machine.nodeRef with
  | none => return ()
  | some node => removeNodeFromOCNEConfigMap node version

def moveLeadership (client : EtcdClient) (known : List Member) (node candidateNode : String) : Api Unit :=
  match memberForName known node with
  | none => return ()
  | some current =>
    if current.id ≠ client.leaderID then return ()
    else match memberForName known candidateNode with
    | none => throw (errorf ("failed to get etcd member from node " ++ quoted candidateNode))
    | some nextLeader => adaptError (Err.wrap "failed to move leader") (moveLeader client nextLeader.id)

def forwardEtcdLeadership (machine : Machine) (leaderCandidate : Option Machine) : Api Unit :=
  match machine.nodeRef with
  | none => return ()
  | some node => do
    let some candidate := leaderCandidate | throw (errorf "leader candidate cannot be nil")
    let some candidateNode := candidate.nodeRef | throw (errorf "leader has no node reference")
    let nodes ← adaptError (Err.wrap "failed to list control plane nodes") getControlPlaneNodes
    let client ← adaptError (Err.wrap "failed to create etcd client") (forLeader (nodes.map Node.name))
    let known ← adaptError (Err.wrap "failed to list etcd members using etcd client") (members client)
    moveLeadership client known node candidateNode

def etcdMembers : Api (List String) := do
  let nodes ← adaptError (Err.wrap "failed to list control plane nodes") getControlPlaneNodes
  let client ← adaptError (Err.wrap "failed to create etcd client") (forLeader (nodes.map Node.name))
  let known ← adaptError (Err.wrap "failed to list etcd members using etcd client") (members client)
  return known.map Member.name

end OcneProvider.Etcd.Workload
