import KubeOne.NativeClient.Phases

/-! The objects that a call has written, whether or not it lives to report them: the references
of the apply requests that the server has carried out. -/

namespace KubeOne.NativeClient

open Process

/-- The object of an apply request that is carried out. -/
def Job.writes (server : Server) (dryRun : Bool) (a : Answer) (job : Job) (s : Session) :
    List ObjectRef :=
  let carriedOut (obj : Unstructured) : Bool :=
    server.serves obj.gvk && !dryRun && !(s.meet a).cancelled &&
      (a.reply = .ok || a.reply = .lost)
  match job with
  | .apply obj _ => if carriedOut obj then [server.storedRef obj] else []
  | .reapply obj => if carriedOut obj then [server.storedRef obj] else []
  | _ => []

namespace Applier

variable (applier : Applier) (server : Server) (env : Environment) (objs : List Unstructured)
  (opts : ApplyOptions)

def phaseWrites (objs : List Unstructured) (concurrency : ℕ)
    (events : List (Pool.Event Answer)) (p : Progress) : List ObjectRef :=
  Pool.trace (Job.request server opts.dryRun) concurrency (Job.writes server opts.dryRun)
    ⟨p.toSession, objs.map Job.init, []⟩ events

/-- What is written once the stage has succeeded. -/
def behind (stage : Stage Progress Failure) (writes : Progress → List ObjectRef) (p : Progress) :
    List ObjectRef :=
  match stage p with
  | (p', .success) => writes p'
  | _ => []

/-- The references that the phases of one call have written, from the cluster `c`. -/
def writes (c : Cluster) : List ObjectRef :=
  let crds := (splitPhases objs).1
  let namespaces := (splitPhases objs).2.1
  let rest := (splitPhases objs).2.2
  behind (applier.prepareInventory env objs opts)
    (fun p => phaseWrites server opts crds 1 env.crds p ++
      behind ((applyPhase server opts crds 1 env.crds).andThen
          (waitForCRDs env opts (crds.map (·.name))))
        (fun p => phaseWrites server opts namespaces 1 env.namespaces p ++
          behind (applyPhase server opts namespaces 1 env.namespaces)
            (phaseWrites server opts rest applier.concurrency env.rest) p) p)
    { cluster := c, cancelled := false }

end Applier

end KubeOne.NativeClient
