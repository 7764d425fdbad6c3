import KubeOne.Addons.Applier
import KubeOne.NativeClient.History
import KubeOne.NativeClient.Misplaced

/-! What is left of an addon once it is deleted. The delete removes the objects of the manifest it
is given and then the inventory, so an object of an earlier manifest stays if no apply has pruned
it. -/

namespace KubeOne.Addons

open Process NativeClient

structure Run where
  rendered : Rendered
  client : Option Client

inductive Event where
  | apply (run : Run)
  | change (c : Cluster)

structure History where
  cluster : Cluster
  applied : List ObjectRef

section Definitions

variable (digest : String → String) (addonName : String)

def Run.apply (run : Run) : Stage Cluster Failure :=
  loadAndApplyAddon digest run.client run.rendered addonName

def Run.delete (run : Run) : Stage Cluster Failure :=
  loadAndDeleteAddon digest run.client run.rendered addonName

namespace History

def start (c : Cluster) : History := ⟨c, []⟩

def step (s : History) : Event → History
  | .apply run => ⟨(run.apply digest addonName s.cluster).1,
      s.applied ++ appliedRefs digest run.client run.rendered addonName s.cluster⟩
  | .change c => { s with cluster := c }

def run (s : History) (events : List Event) : History := events.foldl (step digest addonName) s

end History

/-- An object that was applied and should be gone. -/
structure Leftover (applied : List ObjectRef) (c : Cluster) (o : Live) : Prop where
  live : o ∈ c.objects
  labelled : addonSelector addonName o.labels = true
  applied : o.ref ∈ applied
  active : o.deleting = false
  kind : o.ref.groupKind ≠ crdGroupKind
  unprotected : Applier.isProtected o.ref = false

end Definitions

section Delete

variable {digest : String → String} {addonName : String} {applied : List ObjectRef}
  {c c' : Cluster} {last : Run} {o : Live}

theorem Leftover.before (h : last.delete digest addonName c = (c', .success))
    (ho : Leftover addonName applied c' o) : Leftover addonName applied c o ∧
      ¬ Deletes digest last.client last.rendered addonName o.ref := by
  obtain ⟨hreaped, hgone⟩ := loadAndDeleteAddon_eq h
  have hactive := ho.active
  constructor
  · rcases hreaped.survivors o ho.live with hold | hdel
    · exact { ho with live := hold }
    · rw [hdel] at hactive
      cases hactive
  · intro hdeletes
    rw [hgone rfl o.ref hdeletes o ho.live rfl ho.labelled] at hactive
    cases hactive

theorem Leftover.after (h : last.delete digest addonName c = (c', .success))
    (ho : Leftover addonName applied c o)
    (hnot : ¬ Deletes digest last.client last.rendered addonName o.ref) :
    Leftover addonName applied c' o := by
  obtain ⟨hreaped, -⟩ := loadAndDeleteAddon_eq h
  have hfind : c'.find? o.ref = some o := by
    rw [hreaped.agree o.ref hnot]
    exact Cluster.find?_of_mem ho.live
  exact { ho with live := (Cluster.find?_eq_some_iff.mp hfind).1 }

end Delete

/-- After any applies, a delete that succeeds leaves nothing behind exactly if every object that
is still there from them is in the manifest of the delete. -/
theorem delete_leaves_nothing_iff (digest : String → String) (addonName : String) (c : Cluster)
    (events : List Event) (last : Run)
    (hsuccess : (last.delete digest addonName
      ((History.start c).run digest addonName events).cluster).2 = .success) :
    let s := (History.start c).run digest addonName events
    let c' := (last.delete digest addonName s.cluster).1
    (∀ o, ¬ Leftover addonName s.applied c' o) ↔
      ∀ o, Leftover addonName s.applied s.cluster o →
        Deletes digest last.client last.rendered addonName o.ref := by
  intro s c'
  have hdelete : last.delete digest addonName s.cluster = (c', .success) := Prod.ext rfl hsuccess
  constructor
  · intro hnone o ho
    by_contra hnot
    exact hnone o (ho.after hdelete hnot)
  · intro hall o ho
    obtain ⟨hbefore, hnot⟩ := ho.before hdelete
    exact hnot (hall o hbefore)

section Calls

variable {digest : String → String} {addonName : String} {manifests : List Unstructured}

def Client.call (client : Client) (manifests : List Unstructured) (addonName : String) : Call where
  applier := .new
  server := client.server
  env := client.apply
  objs := ensureAddonsLabelsOnResources manifests addonName
  pruneTypes := []
  dryRun := false

theorem call_of_apply {client : Client} {c c' : Cluster} (hne : manifests ≠ [])
    (h : Run.apply digest addonName ⟨.ok manifests, some client⟩ c = (c', .success)) :
    ∃ p, (client.call manifests addonName).run (addonSelector addonName)
      (addonInventoryKey digest addonName) c = (p, .success) ∧ p.cluster = c' := by
  simp only [Run.apply, loadAndApplyAddon, getManifestsFromDirectory, Except.map,
    ensureAddonsLabelsOnResources_eq_nil, hne, if_false, Prod.mk.injEq] at h
  refine ⟨_, Prod.ext rfl ?_, h.1⟩
  split at h
  · assumption
  · cases h.2
  · cases h.2

/-- After calls that leave nothing stale and an apply that succeeds, a delete that covers what this
has applied leaves nothing of the kinds that were ever applied. -/
theorem delete_after_success (c : Cluster) (events : List NativeClient.Event) (client : Client)
    (last : Run) {c' c'' : Cluster} (hne : manifests ≠ []) :
    let selector := addonSelector addonName
    let key := addonInventoryKey digest addonName
    let s := (NativeClient.History.start c).run selector key events
    let call := client.call manifests addonName
    (NativeClient.History.start c).AdmitsAll selector key events →
    s.Admits selector key (.call call) →
    Run.apply digest addonName ⟨.ok manifests, some client⟩ s.cluster = (c', .success) →
    last.delete digest addonName c' = (c'', .success) →
    (∀ ref, ref ∈ (call.run selector key s.cluster).1.result.applied ∨ ref = inventoryRef key →
      Deletes digest last.client last.rendered addonName ref) →
    ∀ o ∈ c''.objects, selector o.labels = true →
      o.ref.groupKind ∈ s.kinds ++ groupKinds call.objs →
      o.deleting = true ∨ o.ref.groupKind = crdGroupKind ∨ Applier.isProtected o.ref = true ∨
        ¬ client.server.Serves o.ref.groupKind := by
  intro selector key s call hpast hlast happly hdelete hcovers o ho hselected hkind
  obtain ⟨p, hrun, rfl⟩ := call_of_apply hne happly
  obtain ⟨hreaped, hgone⟩ := loadAndDeleteAddon_eq hdelete
  have hdeletes := fun ref href => hgone rfl ref (hcovers ref href)
  have hsettled := ((History.safe_start selector key c).run hpast).settles hlast rfl
    (congrArg Prod.snd hrun)
  rw [hrun] at hdeletes hsettled
  rcases hreaped.survivors o ho with hold | hdeleting
  · rcases hsettled o hold hselected hkind with h | h | h | h | h | h
    · exact .inl (hdeletes o.ref (.inl h) o ho rfl hselected)
    · exact .inl (hdeletes o.ref (.inr h) o ho rfl hselected)
    · exact .inl h
    · exact .inr (.inl h.1)
    · exact .inr (.inr (.inl h))
    · exact .inr (.inr (.inr h))
  · exact .inl hdeleting

end Calls

namespace Removal

open NativeClient.Addon

def digest : String → String := fun _ => ""

def client (n : ℕ) : Client := { server := apiServer, apply := { rest := inTurn n } }

def failing : Client :=
  { server := apiServer, apply := { rest := [.start, .request 0 { reply := .failed }] } }

def install : Event := .apply ⟨.ok [settings, account], some (client 2)⟩

def upgrade : Event := .apply ⟨.ok [settings], some failing⟩

def installed : History := (History.start empty).run digest "metrics-server" [install]

def upgraded : History := (History.start empty).run digest "metrics-server" [install, upgrade]

/-- The delete with the later manifest succeeds and drops the inventory, and the ServiceAccount
stays. -/
theorem interrupted_upgrade_leaves_account :
    let last := Run.delete digest "metrics-server" ⟨.ok [settings], some (client 1)⟩
      upgraded.cluster
    last.2 = .success ∧
      last.1.find? (inventoryRef (addonInventoryKey digest "metrics-server")) = none ∧
      Leftover "metrics-server" upgraded.applied last.1
        (left serviceAccount "kube-system" "metrics-server") := by
  refine ⟨?_, ?_, ?_, ?_, ?_, ?_, ?_, ?_⟩ <;> decide +kernel

def uninstall : Run := ⟨.ok [settings, account], some (client 2)⟩

theorem uninstall_finds (i : ℕ) {obj : Unstructured} (h : obj ∈ [settings, account]) :
    Finds apiServer ((client 2).delete.removals i) obj := by
  have hserves : ∀ obj ∈ [settings, account], apiServer.serves obj.gvk = true := by decide
  exact ⟨hserves obj h, by simp [client], by simp [client]⟩

theorem uninstall_leaves_nothing :
    let last := uninstall.delete digest "metrics-server" installed.cluster
    last.2 = .success ∧ ∀ o, ¬ Leftover "metrics-server" installed.applied last.1 o := by
  have hsuccess : (uninstall.delete digest "metrics-server" installed.cluster).2 = .success := by
    decide +kernel
  refine ⟨hsuccess, (delete_leaves_nothing_iff digest "metrics-server" empty [install] uninstall
    hsuccess).mpr fun o ho => ?_⟩
  have happlied : ∀ ref ∈ installed.applied, ref = apiServer.target account ∨
      ref = apiServer.target settings := by decide +kernel
  have hsorted : sortForDelete
      (ensureAddonsLabelsOnResources [settings, account] "metrics-server") =
        [account, settings] := by decide +kernel
  refine ⟨client 2, [settings, account], rfl, rfl, by simp, .inl ?_⟩
  rcases happlied o.ref ho.applied with href | href
  · exact ⟨0, account, rfl, uninstall_finds 0 (by simp), href⟩
  · exact ⟨1, settings, rfl, uninstall_finds 1 (by simp), href⟩

end Removal

end KubeOne.Addons
