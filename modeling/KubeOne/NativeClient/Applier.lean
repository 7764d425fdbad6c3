import KubeOne.NativeClient.Cluster
import KubeOne.Process.Pool
import KubeOne.Process.Stage

/-! The applier. A call records the kinds it is about to apply in its inventory, applies the
objects in three phases, prunes what is left of earlier calls, and narrows the inventory again. -/

namespace KubeOne.NativeClient

open Process

/-- The defaults of `kubectl apply --prune`. -/
def defaultPruneTypes : List GroupVersionKind :=
  [⟨"", "v1", "ConfigMap"⟩, ⟨"", "v1", "Namespace"⟩, ⟨"", "v1", "PersistentVolumeClaim"⟩,
    ⟨"", "v1", "PersistentVolume"⟩, ⟨"", "v1", "Pod"⟩, ⟨"", "v1", "ReplicationController"⟩,
    ⟨"", "v1", "Secret"⟩, ⟨"", "v1", "Service"⟩, ⟨"batch", "v1", "Job"⟩,
    ⟨"batch", "v1", "CronJob"⟩, ⟨"networking.k8s.io", "v1", "Ingress"⟩,
    ⟨"apps", "v1", "DaemonSet"⟩, ⟨"apps", "v1", "Deployment"⟩, ⟨"apps", "v1", "ReplicaSet"⟩,
    ⟨"apps", "v1", "StatefulSet"⟩]

def protectedNamespaces : List String :=
  ["default", "kube-system", "kube-public", "kube-node-lease"]

structure Applier where
  fieldManager : String
  concurrency : ℕ
  concurrency_pos : 0 < concurrency

def Applier.new : Applier := ⟨"kubeone", 8, by decide⟩

structure ApplyOptions where
  pruneSelector : Option Selector
  pruneTypes : List GroupVersionKind
  inventory : Option ObjectKey
  dryRun : Bool

structure Result where
  applied : List ObjectRef := []
  migrated : List ObjectRef := []
  pruned : List ObjectRef := []

inductive Failure where
  | readingInventory (key : ObjectKey)
  | writingInventory (key : ObjectKey)
  | determiningScope (ref : ObjectRef)
  | applying (ref : ObjectRef)
  | migrating (ref : ObjectRef)
  | reapplying (ref : ObjectRef)
  | waitingForCRDs (names : List String)
  | listing (gk : GroupKind)
  | pruning (ref : ObjectRef)
  deriving DecidableEq

inductive Retry (α : Type*) where
  | again
  | failed
  | done (a : α)

/-- Six attempts while the kind is not known. A context that is cancelled before the first
attempt leaves no error behind, and the caller goes on with `unasked`. -/
def retryOnNoMatch {α : Type*} (tries : ℕ) (unasked : α) : Attempt α → Retry α
  | .cancelled => if tries = 0 then .done unasked else .failed
  | .noMatch => if tries + 1 < 6 then .again else .failed
  | .failed => .failed
  | .ok a => .done a

inductive Job where
  | scope (obj : Unstructured) (tries : ℕ)
  | apply (obj : Unstructured) (tries : ℕ)
  | migrate (obj : Unstructured) (tries : ℕ)
  | reapply (obj : Unstructured)

abbrev JobResult := Except Failure (ObjectRef × Bool)

namespace Job

/-- An object with a namespace is not asked about. -/
def init (obj : Unstructured) : Job := if obj.ns = "" then .scope obj 0 else .apply obj 0

def isObjectNamespaced (server : Server) (a : Answer) (obj : Unstructured) (s : Session) :
    Attempt Bool :=
  if s.cancelled then .cancelled
  else if server.serves obj.gvk then
    match a.reply with
    | .ok => .ok (server.namespaced obj.gvk.groupKind)
    | .noMatch => .noMatch
    | _ => .failed
  else .noMatch

def defaultNamespace (obj : Unstructured) (namespaced : Bool) : Unstructured :=
  if namespaced then { obj with ns := "default" } else obj

/-- An applied object is migrated from client-side apply, but for a dry run. -/
def applied (dryRun : Bool) (obj : Unstructured) : Job ⊕ JobResult :=
  if dryRun then .inr (.ok (refOf obj, false)) else .inl (.migrate obj 0)

def request (server : Server) (dryRun : Bool) (a : Answer) (job : Job) (s₀ : Session) :
    Session × (Job ⊕ JobResult) :=
  let s := s₀.meet a
  match job with
  | .scope obj tries =>
    match retryOnNoMatch tries false (isObjectNamespaced server a obj s) with
    | .again => (s, .inl (.scope obj (tries + 1)))
    | .failed => (s, .inr (.error (.determiningScope (refOf obj))))
    | .done namespaced => (s, .inl (.apply (defaultNamespace obj namespaced) 0))
  | .apply obj tries =>
    let sent := server.apply dryRun a obj s
    match retryOnNoMatch tries () sent.2 with
    | .again => (sent.1, .inl (.apply obj (tries + 1)))
    | .failed => (sent.1, .inr (.error (.applying (refOf obj))))
    | .done _ => (sent.1, applied dryRun obj)
  | .migrate obj tries =>
    match a.migration, s.cancelled with
    | .unneeded, _ => (s, .inr (.ok (refOf obj, false)))
    | .patched, false => (s, .inl (.reapply obj))
    | .conflict, false =>
      if tries + 1 < 5 then (s, .inl (.migrate obj (tries + 1)))
      else (s, .inr (.error (.migrating (refOf obj))))
    | _, _ => (s, .inr (.error (.migrating (refOf obj))))
  | .reapply obj =>
    let sent := server.apply dryRun a obj s
    match sent.2 with
    | .ok _ => (sent.1, .inr (.ok (refOf obj, true)))
    | _ => (sent.1, .inr (.error (.reapplying (refOf obj))))

end Job

namespace JobResult

def applied? : JobResult → Option ObjectRef
  | .ok (ref, _) => some ref
  | .error _ => none

def migrated? : JobResult → Option ObjectRef
  | .ok (ref, true) => some ref
  | _ => none

def error? : JobResult → Option Failure
  | .ok _ => none
  | .error e => some e

end JobResult

/-- The outcomes are recorded in the order of the objects. -/
def Result.record (result : Result) (outcomes : List JobResult) : Result :=
  { result with
    applied := result.applied ++ outcomes.filterMap JobResult.applied?
    migrated := result.migrated ++ outcomes.filterMap JobResult.migrated? }

/-- How a delete request ends, and whether the object has finalizers. -/
structure Deletion where
  reply : Reply := .ok
  finalizing : Bool := false

structure Environment where
  read : Answer := {}
  record : Answer := {}
  crds : List (Pool.Event Answer) := []
  established : Answer := {}
  namespaces : List (Pool.Event Answer) := []
  rest : List (Pool.Event Answer) := []
  /-- The version that the client prefers for a recorded kind. -/
  restMapping : GroupKind → Option String := fun _ => none
  list : GroupVersionKind → Reply := fun _ => .ok
  delete : ObjectRef → Deletion := fun _ => {}
  narrow : Answer := {}

/-- The state of a call: besides the session, the kinds read from the inventory, the result so
far, and the objects whose deletion has been requested. -/
structure Progress extends Session where
  previousKinds : List GroupKind := []
  result : Result := {}
  deletions : List Live := []

def inventoryGroupKindsKey : String := "groupKinds"

def inventoryManagedByLabel : String := "app.kubernetes.io/managed-by"

def inventoryRef (key : ObjectKey) : ObjectRef := ⟨⟨"", "ConfigMap"⟩, key.ns, key.name⟩

theorem inventoryRef_wellFormed (key : ObjectKey) :
    (inventoryRef key).groupKind.wellFormed = true := by
  show (GroupKind.mk "" "ConfigMap").wellFormed = true
  decide

/-- The kinds that the inventory records; none when there is no inventory yet. -/
def Cluster.recorded (c : Cluster) (key : ObjectKey) : List GroupKind :=
  match c.find? (inventoryRef key) with
  | some o => parseKinds ((o.data.lookup inventoryGroupKindsKey).getD "")
  | none => []

namespace Applier

variable (applier : Applier) (server : Server) (env : Environment) (objs : List Unstructured)
  (opts : ApplyOptions)

def writeInventory (key : ObjectKey) (kinds : List GroupKind) (a : Answer) :
    Stage Progress Failure := fun p =>
  let sent := (p.toSession.meet a).send a false fun c =>
    c.put (inventoryRef key) ((inventoryManagedByLabel, applier.fieldManager) :: a.labels)
      ((inventoryGroupKindsKey, renderKinds kinds) :: a.data) (inventoryRef_wellFormed key)
  ({ p with toSession := sent.1 },
    if sent.2 = .ok () then .success else .failed [.writingInventory key])

def readInventory (key : ObjectKey) (a : Answer) : Stage Progress Failure := fun p =>
  let sent := (p.toSession.meet a).send a true id
  if sent.2 = .ok () then
    ({ p with toSession := sent.1, previousKinds := sent.1.cluster.recorded key }, .success)
  else ({ p with toSession := sent.1 }, .failed [.readingInventory key])

def prepareInventory : Stage Progress Failure :=
  match opts.inventory with
  | none => .skip
  | some key =>
    (readInventory key env.read).andThen fun p =>
      if opts.dryRun then (p, .success)
      else applier.writeInventory key (p.previousKinds ++ groupKinds objs) env.record p

/-- The objects of one phase. A process that ends before the last object is done is stopped. -/
def applyPhase (objs : List Unstructured) (concurrency : ℕ) (events : List (Pool.Event Answer)) :
    Stage Progress Failure := fun p =>
  let pool := Pool.run (Job.request server opts.dryRun) concurrency
    ⟨p.toSession, objs.map Job.init, []⟩ events
  match pool.results with
  | none => ({ p with toSession := pool.shared }, .stopped)
  | some outcomes =>
    ({ p with toSession := pool.shared, result := p.result.record outcomes },
      if outcomes.filterMap JobResult.error? = [] then .success
      else .failed (outcomes.filterMap JobResult.error?))

def waitForCRDs (names : List String) : Stage Progress Failure := fun p =>
  if names = [] ∨ opts.dryRun then (p, .success)
  else
    let s := p.toSession.meet env.established
    ({ p with toSession := s },
      if s.cancelled = false ∧ env.established.reply = .ok then .success
      else .failed [.waitingForCRDs names])

def phases : Stage Progress Failure :=
  (applier.prepareInventory env objs opts).andThen <|
  (applyPhase server opts (splitPhases objs).1 1 env.crds).andThen <|
  (waitForCRDs env opts ((splitPhases objs).1.map (·.name))).andThen <|
  (applyPhase server opts (splitPhases objs).2.1 1 env.namespaces).andThen <|
  applyPhase server opts (splitPhases objs).2.2 applier.concurrency env.rest

/-- The kinds that are taken care of, and the types to look for stale objects in. -/
structure Types where
  seen : List GroupKind
  gvks : List GroupVersionKind

def Types.add (t : Types) (gvk : GroupVersionKind) : Types :=
  if gvk.groupKind ∈ t.seen then t
  else ⟨t.seen ++ [gvk.groupKind], t.gvks ++ [gvk]⟩

/-- A recorded kind in the version of the mapping. Kinds without a mapping are left out. -/
def restMapping (gk : GroupKind) : Option GroupVersionKind :=
  (env.restMapping gk).bind fun version =>
    if server.serves ⟨gk.group, version, gk.kind⟩ then some ⟨gk.group, version, gk.kind⟩ else none

/-- The types of the options first, then the defaults, the types of the objects and those of the
inventory, but CustomResourceDefinitions only from the options. -/
def pruneGVKs (previousKinds : List GroupKind) : List GroupVersionKind :=
  let requested := opts.pruneTypes.foldl Types.add ⟨[], []⟩
  let implied := (defaultPruneTypes ++ objectGVKs objs).foldl Types.add
    { requested with seen := requested.seen ++ [crdGroupKind] }
  let previous := (previousKinds.dedup.filter (· ∉ implied.seen)).insertionSort
    (fun a b => a.text ≤ b.text)
  ((previous.filterMap (restMapping server env)).foldl Types.add implied).gvks

def isProtected (ref : ObjectRef) : Bool :=
  ref.groupKind = namespaceGroupKind && ref.name ∈ protectedNamespaces

/-- The delete request, in which an object that is gone already is no error. -/
def deleteObject (item : Live) : Stage Progress Failure := fun p =>
  let deletion := env.delete item.ref
  let sent := p.toSession.send { reply := deletion.reply } opts.dryRun
    (·.delete item.ref deletion.finalizing)
  let p := { p with
    toSession := sent.1
    deletions := if opts.dryRun || p.cancelled then p.deletions else p.deletions ++ [item] }
  if sent.2 = .ok () then
    ({ p with result := { p.result with pruned := p.result.pruned ++ [item.ref] } }, .success)
  else (p, .failed [.pruning item.ref])

def pruneItem (applied : List ObjectRef) (item : Live) : Stage Progress Failure :=
  if item.ref ∈ applied ∨ item.deleting then .skip
  else if isProtected item.ref then .skip
  else deleteObject env opts item

def pruneItems (applied : List ObjectRef) : List Live → Stage Progress Failure
  | [] => .skip
  | item :: items => (pruneItem env opts applied item).andThen (pruneItems applied items)

/-- The stale objects of one type. A type that is not served is passed over. -/
def pruneType (selector : Selector) (applied : List ObjectRef) (gvk : GroupVersionKind) :
    Stage Progress Failure := fun p =>
  let listed := itemGVK (listGVK gvk)
  if p.cancelled then (p, .failed [.listing gvk.groupKind])
  else if server.serves listed then
    match env.list gvk with
    | .ok => pruneItems env opts applied (p.cluster.list listed.groupKind selector) p
    | .noMatch => (p, .success)
    | _ => (p, .failed [.listing gvk.groupKind])
  else (p, .success)

def prune (selector : Selector) (applied : List ObjectRef) :
    List GroupVersionKind → Stage Progress Failure
  | [] => .skip
  | gvk :: gvks =>
    (pruneType server env opts selector applied gvk).andThen (prune selector applied gvks)

def kept (result : Result) : List ObjectRef :=
  result.applied ++ (opts.inventory.map inventoryRef).toList

def pruneStale : Stage Progress Failure := fun p =>
  match opts.pruneSelector with
  | none => (p, .success)
  | some selector =>
    prune server env opts selector (kept opts p.result)
      (pruneGVKs server env objs opts p.previousKinds) p

def finalizeInventory : Stage Progress Failure :=
  match opts.inventory, opts.dryRun, opts.pruneSelector with
  | some key, false, some _ => applier.writeInventory key (groupKinds objs) env.narrow
  | _, _, _ => .skip

def apply (c : Cluster) : Progress × Status Failure :=
  ((applier.phases server env objs opts).andThen <|
    (pruneStale server env objs opts).andThen <|
    applier.finalizeInventory env objs opts) { cluster := c, cancelled := false }

end Applier

end KubeOne.NativeClient
