import KubeOne.Process.Client
import Mathlib.Data.List.Basic

/-! Releasing the volumes of a cluster that is reset. The volumes are filtered by how they were
provisioned and what becomes of them; the claims are not, so every claim that is not on its way
out is deleted. -/

namespace KubeOne.ClientUtil

open Process Client

inductive ReclaimPolicy
  | retain
  | recycle
  | delete
  | other (name : String)
  deriving DecidableEq

structure PersistentVolume where
  name : String
  annotations : List (String × String) := []
  reclaimPolicy : ReclaimPolicy
  /-- The namespace and the name of the claim that the volume is bound to. -/
  claimRef : Option (String × String) := none
  deriving DecidableEq

structure PersistentVolumeClaim where
  namespaceName : String
  name : String
  volumeName : String := ""
  terminating : Bool := false
  deriving DecidableEq

structure Pod where
  namespaceName : String
  name : String
  volumes : List (Option String) := []
  deriving DecidableEq

structure Cluster where
  claims : List PersistentVolumeClaim := []
  volumes : List PersistentVolume := []
  pods : List Pod := []
  deriving DecidableEq

def annDynamicallyProvisioned : String := "pv.kubernetes.io/provisioned-by"

def PersistentVolume.unretained (pv : PersistentVolume) : Bool :=
  (pv.annotations.lookup annDynamicallyProvisioned).getD "" != "" && pv.reclaimPolicy == .delete

def podUsesPV (p : Pod) : Bool := p.volumes.any (·.isSome)

inductive Request
  | preventCreation (resources : List String) (exceptSystem : Bool)
  | listClaims
  | listVolumes
  | newForConfig
  | listPods
  | deletePods (pods : List Pod)
  | deleteClaim (claim : PersistentVolumeClaim)
  deriving DecidableEq

abbrev Result : Request → Type
  | .preventCreation _ _ => Unit
  | .listClaims => List PersistentVolumeClaim
  | .listVolumes => List PersistentVolume
  | .newForConfig => Unit
  | .listPods => List Pod
  | .deletePods _ => Unit
  -- whether the claim was found
  | .deleteClaim _ => Bool

abbrev Answer (r : Request) : Type := Except String (Result r)

/-- Errors say what was being done. -/
abbrev Calls := Client Request Answer (String × String)

def request (op : String) (r : Request) : Calls (Result r) :=
  .send r fun
    | .ok result => .done result
    | .error message => .fail (op, message)

def disablePVCreation : Calls Unit :=
  request "disabling future PV & PVC creation."
    (.preventCreation ["persistentvolumes", "persistentvolumeclaims"] false)

def disablePodCreation : Calls Unit :=
  request "disabling future Pod creation." (.preventCreation ["pods"] true)

def getDynamicallyProvisionedUnretainedPvs :
    Calls (List PersistentVolumeClaim × List PersistentVolume) := do
  let pvcList ← request "failed to list PVCs from user cluster." .listClaims
  let allPVList : List PersistentVolume ←
    request "failed to list PVs from user cluster." .listVolumes
  return (pvcList, allPVList.filter (·.unretained))

def cleanupPVCUsingPods : Calls Unit := do
  let podList : List Pod ← request "listing Pods from user cluster." .listPods
  if podList.filter podUsesPV = [] then return ()
  else request "deleting the pods using PVs." (.deletePods (podList.filter podUsesPV))

/-- A claim that is gone already is no error. -/
def deleteIfExists (claim : PersistentVolumeClaim) : Calls Unit := do
  let _ ← request "deleting PVC from user cluster." (.deleteClaim claim)
  return ()

def deleteClaims : List PersistentVolumeClaim → Calls Unit
  | [] => return ()
  | pvc :: pvcs => do
    if pvc.terminating then deleteClaims pvcs
    else
      deleteIfExists pvc
      deleteClaims pvcs

def deleteListed (pvcList : List PersistentVolumeClaim) (pvList : List PersistentVolume) :
    Calls Unit := do
  if pvcList = [] ∧ pvList = [] then return ()
  else
    let _ ← request "initializing new kubernetes clientset" .newForConfig
    cleanupPVCUsingPods
    deleteClaims pvcList

def cleanupUnretainedVolumes : Calls Unit := do
  disablePVCreation
  disablePodCreation
  let lists ← getDynamicallyProvisionedUnretainedPvs
  deleteListed lists.1 lists.2

/-- The lists are those of the cluster, and pods and claims that are deleted go. Every request can
fail, also after it has had an effect. -/
def answers : Service Cluster Request Answer
  | .preventCreation _ _, s, _, t => t = s
  | .listClaims, s, a, t => t = s ∧ ∀ claims, a = .ok claims → claims = s.claims
  | .listVolumes, s, a, t => t = s ∧ ∀ volumes, a = .ok volumes → volumes = s.volumes
  | .newForConfig, s, _, t => t = s
  | .listPods, s, a, t => t = s ∧ ∀ pods, a = .ok pods → pods = s.pods
  | .deletePods _, s, _, t => ∃ pods, t = { s with pods := pods }
  | .deleteClaim claim, s, _, t => t = s ∨ t = { s with claims := s.claims.erase claim }

def answer : (r : Request) → Cluster → Answer r × Cluster
  | .preventCreation _ _, s => (.ok (), s)
  | .listClaims, s => (.ok s.claims, s)
  | .listVolumes, s => (.ok s.volumes, s)
  | .newForConfig, s => (.ok (), s)
  | .listPods, s => (.ok s.pods, s)
  | .deletePods pods, s => (.ok (), { s with pods := s.pods.filter (· ∉ pods) })
  | .deleteClaim claim, s =>
    (.ok (decide (claim ∈ s.claims)), { s with claims := s.claims.erase claim })

theorem answers_answer (r : Request) (s : Cluster) : answers r s (answer r s).1 (answer r s).2 := by
  cases r with
  | preventCreation _ _ => rfl
  | listClaims => exact ⟨rfl, fun _ h => (Except.ok.inj h).symm⟩
  | listVolumes => exact ⟨rfl, fun _ h => (Except.ok.inj h).symm⟩
  | newForConfig => rfl
  | listPods => exact ⟨rfl, fun _ h => (Except.ok.inj h).symm⟩
  | deletePods pods => exact ⟨_, rfl⟩
  | deleteClaim claim => exact .inr rfl

def PersistentVolumeClaim.BoundTo (claim : PersistentVolumeClaim) (pv : PersistentVolume) : Prop :=
  claim.volumeName = pv.name ∧ pv.claimRef = some (claim.namespaceName, claim.name)

/-- The claim is bound to a volume that is deleted with it anyway. -/
def Cluster.Unretained (s : Cluster) (claim : PersistentVolumeClaim) : Prop :=
  ∃ pv ∈ s.volumes, claim.BoundTo pv ∧ pv.unretained = true

variable {s t : Cluster}

def OnlyDeletes (claims : List PersistentVolumeClaim) : Request → Prop
  | .deleteClaim claim => claim ∈ claims ∧ claim.terminating = false
  | _ => True

theorem meets_request {allowed : Request → Cluster → Prop} (op : String) {r : Request}
    {Q : Result r → Cluster → Prop} (hr : allowed r s)
    (h : ∀ result t, answers r s (.ok result) t → Q result t) :
    (request op r).Meets answers allowed Q s := by
  refine ⟨hr, fun a t ha => ?_⟩
  cases a with
  | error message => trivial
  | ok result => exact h result t ha

theorem sends_request {P : Request → Prop} (op : String) {r : Request} (h : P r) :
    (request op r).Sends P fun _ => True := by
  refine ⟨h, fun a => ?_⟩
  cases a <;> trivial

theorem sends_deleteIfExists {P : Request → Prop} {claim : PersistentVolumeClaim}
    (h : P (.deleteClaim claim)) : (deleteIfExists claim).Sends P fun _ => True :=
  (sends_request _ h).bind fun _ _ => trivial

theorem sends_deleteClaims {claims pvcs : List PersistentVolumeClaim}
    (h : ∀ pvc ∈ pvcs, pvc ∈ claims) :
    (deleteClaims pvcs).Sends (OnlyDeletes claims) fun _ => True := by
  induction pvcs with
  | nil => trivial
  | cons pvc pvcs ih =>
    rw [List.forall_mem_cons] at h
    rw [deleteClaims]
    split
    · exact ih h.2
    · next hterminating =>
      have hdelete : OnlyDeletes claims (.deleteClaim pvc) := ⟨h.1, by simpa using hterminating⟩
      exact (sends_deleteIfExists hdelete).bind fun _ _ => ih h.2

theorem sends_cleanupPVCUsingPods (claims : List PersistentVolumeClaim) :
    cleanupPVCUsingPods.Sends (OnlyDeletes claims) fun _ => True := by
  refine (sends_request _ trivial).bind fun podList _ => ?_
  split
  · trivial
  · exact sends_request _ trivial

theorem sends_deleteListed (claims : List PersistentVolumeClaim) (pvs : List PersistentVolume) :
    (deleteListed claims pvs).Sends (OnlyDeletes claims) fun _ => True := by
  unfold deleteListed
  split
  · trivial
  · refine (sends_request _ trivial).bind fun _ _ => ?_
    exact (sends_cleanupPVCUsingPods claims).bind fun _ _ => sends_deleteClaims fun _ h => h

theorem meets_cleanupUnretainedVolumes (s : Cluster) :
    cleanupUnretainedVolumes.Meets answers (fun r _ => OnlyDeletes s.claims r)
      (fun _ _ => True) s := by
  have hprevent {resources : List String} {exceptSystem : Bool} (op : String) :
      (request op (.preventCreation resources exceptSystem)).Meets answers
        (fun r _ => OnlyDeletes s.claims r) (fun _ t => t = s) s :=
    meets_request op trivial fun _ _ h => h
  refine ((hprevent _).weaken fun _ t ht => ?_).bind
  subst ht
  refine ((hprevent _).weaken fun _ t ht => ?_).bind
  subst ht
  refine Client.Meets.bind (Client.Meets.bind (meets_request _ trivial fun claims t hclaims => ?_))
  obtain ⟨rfl, hclaims⟩ := hclaims
  obtain rfl := hclaims claims rfl
  refine Client.Meets.bind ?_
  refine meets_request (r := .listVolumes) _ trivial fun volumes t hvolumes => ?_
  obtain ⟨rfl, -⟩ := hvolumes
  exact (sends_deleteListed _ _).meets answers _

theorem exec_request (op : String) (r : Request) {result : Result r}
    (h : (answer r s).1 = .ok result) :
    (request op r).exec answer s = ([(r, s)], (answer r s).2, .ok result) := by
  rw [request, exec, h]
  rfl

theorem exec_deleteIfExists (claim : PersistentVolumeClaim) (s : Cluster) :
    (deleteIfExists claim).exec answer s =
      ([(.deleteClaim claim, s)], { s with claims := s.claims.erase claim }, .ok ()) :=
  exec_bind (exec_request _ (.deleteClaim claim) rfl)

theorem deleteClaim_mem_exec {claim : PersistentVolumeClaim}
    (hterminating : claim.terminating = false) {pvcs : List PersistentVolumeClaim}
    (hclaim : claim ∈ pvcs) (s : Cluster) :
    ∃ t, (.deleteClaim claim, t) ∈ ((deleteClaims pvcs).exec answer s).1 := by
  induction pvcs generalizing s with
  | nil => simp at hclaim
  | cons pvc pvcs ih =>
    rw [deleteClaims]
    split
    · next h =>
      refine ih ((List.mem_cons.mp hclaim).resolve_left ?_) s
      rintro rfl
      simp [h] at hterminating
    · rcases List.mem_cons.mp hclaim with rfl | hclaim
      · rw [exec_bind (exec_deleteIfExists claim s)]
        exact ⟨s, List.mem_append_left _ (List.mem_singleton_self _)⟩
      · obtain ⟨t, ht⟩ := ih hclaim { s with claims := s.claims.erase pvc }
        exact ⟨t, mem_exec_bind (exec_deleteIfExists pvc s) ht⟩

theorem exec_cleanupPVCUsingPods (s : Cluster) :
    ∃ calls t, cleanupPVCUsingPods.exec answer s = (calls, t, .ok ()) := by
  rw [cleanupPVCUsingPods, exec_bind (exec_request _ .listPods rfl)]
  split
  · exact ⟨_, _, rfl⟩
  · rw [exec_request _ (.deletePods _) rfl]
    exact ⟨_, _, rfl⟩

theorem deleteClaim_mem_cleanup {claim : PersistentVolumeClaim} (hclaim : claim ∈ s.claims)
    (hterminating : claim.terminating = false) :
    ∃ t, (.deleteClaim claim, t) ∈ (cleanupUnretainedVolumes.exec answer s).1 := by
  have hlists : getDynamicallyProvisionedUnretainedPvs.exec answer s =
      ([(.listClaims, s), (.listVolumes, s)], s,
        .ok (s.claims, s.volumes.filter (·.unretained))) := rfl
  obtain ⟨calls, t, hpods⟩ := exec_cleanupPVCUsingPods s
  obtain ⟨u, hu⟩ := deleteClaim_mem_exec hterminating hclaim t
  have hne : ¬ (s.claims = [] ∧ s.volumes.filter (·.unretained) = []) := by
    rintro ⟨hempty, -⟩
    simp [hempty] at hclaim
  refine ⟨u, mem_exec_bind (exec_request _ (.preventCreation _ _) rfl) ?_⟩
  refine mem_exec_bind (exec_request _ (.preventCreation _ _) rfl) ?_
  refine mem_exec_bind hlists ?_
  rw [deleteListed, if_neg hne]
  refine mem_exec_bind (exec_request _ .newForConfig rfl) ?_
  exact mem_exec_bind hpods hu

/-- The clean-up spares what is retained exactly if there is nothing to spare: it deletes all
claims that are not on their way out. -/
theorem cleanup_spares_retained_iff (s : Cluster) :
    (∀ calls t out, Client.Run answers cleanupUnretainedVolumes s calls t out →
      ∀ claim u, (.deleteClaim claim, u) ∈ calls → s.Unretained claim) ↔
      ∀ claim ∈ s.claims, claim.terminating = false → s.Unretained claim := by
  constructor
  · intro h claim hclaim hterminating
    obtain ⟨u, hu⟩ := deleteClaim_mem_cleanup hclaim hterminating
    exact h _ _ _ (run_exec answers_answer _ s) claim u hu
  · intro h calls t out hrun claim u hu
    have hcalls := ((meets_cleanupUnretainedVolumes s).run (I := fun _ => True)
      (fun _ _ _ _ _ _ _ => trivial) trivial hrun).2.1
    obtain ⟨hclaim, hterminating⟩ := (hcalls _ hu).2
    exact h claim hclaim hterminating

namespace Retained

def claim : PersistentVolumeClaim where
  namespaceName := "shop"
  name := "data-db-0"
  volumeName := "pv-1"

def cluster : Cluster where
  claims := [claim]
  volumes :=
    [{ name := "pv-1", annotations := [(annDynamicallyProvisioned, "csi.example.com")]
       reclaimPolicy := .retain, claimRef := some ("shop", "data-db-0") }]

/-- The claim of a retained volume is deleted. -/
theorem retained_claim_deleted :
    (∃ calls t out, Client.Run answers cleanupUnretainedVolumes cluster calls t out ∧
      (.deleteClaim claim, cluster) ∈ calls) ∧ ¬ cluster.Unretained claim := by
  constructor
  · exact ⟨_, _, _, run_exec answers_answer cleanupUnretainedVolumes cluster, by decide⟩
  · rintro ⟨pv, hpv, -, hunretained⟩
    obtain rfl := List.mem_singleton.mp hpv
    exact absurd hunretained (by decide)

end Retained

end KubeOne.ClientUtil
