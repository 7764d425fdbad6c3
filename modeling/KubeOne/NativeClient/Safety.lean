import KubeOne.NativeClient.Prune

/-! Which objects a call deletes. It deletes stale objects only, and only after every object of
the manifest has been applied. -/

namespace KubeOne.NativeClient

open Process Applier

variable {applier : Applier} {server : Server} {env : Environment} {objs : List Unstructured}
  {opts : ApplyOptions} {c : Cluster} {p p' : Progress} {r : Status Failure}

theorem phases_eq (h : applier.phases server env objs opts p = (p', r)) :
    p'.deletions = p.deletions ∧ (r = .success → ∃ refs,
      p'.result.applied = p.result.applied ++ refs ∧
        AppliedAll server (phaseOrder objs) p'.cancelled refs) := by
  rcases phases_split h with ⟨hprepare, hr⟩ | ⟨q, hprepare, hadvanced, hdone⟩
  · exact ⟨(prepareInventory_eq hprepare).2.2.1, fun h => absurd h hr⟩
  · obtain ⟨-, hresult, hdeletions, -⟩ := prepareInventory_eq hprepare
    refine ⟨hadvanced.deletions.trans hdeletions, fun hr => ?_⟩
    obtain ⟨refs, hrefs, hall⟩ := hdone hr
    exact ⟨refs, by rw [hrefs, hresult], hall⟩

theorem finalizeInventory_eq (h : applier.finalizeInventory env objs opts p = (p', r)) :
    p'.deletions = p.deletions ∧ p'.result = p.result ∧ (p'.cluster = p.cluster ∨
      opts.dryRun = false ∧ ∃ key, opts.inventory = some key ∧
        Records key (groupKinds objs) p.cluster p'.cluster) := by
  have hskip : (Stage.skip p : Progress × Status Failure) = (p', r) →
      p'.deletions = p.deletions ∧ p'.result = p.result ∧ p'.cluster = p.cluster := by
    rintro ⟨⟩
    exact ⟨rfl, rfl, rfl⟩
  obtain ⟨selector, types, inventory, dryRun⟩ := opts
  rcases inventory with _ | key
  · exact ⟨(hskip h).1, (hskip h).2.1, .inl (hskip h).2.2⟩
  · cases dryRun with
    | true => exact ⟨(hskip h).1, (hskip h).2.1, .inl (hskip h).2.2⟩
    | false =>
      rcases selector with _ | selector
      · exact ⟨(hskip h).1, (hskip h).2.1, .inl (hskip h).2.2⟩
      · obtain ⟨hsame, hcluster, -⟩ := writeInventory_eq h
        exact ⟨hsame.deletions, hsame.result, hcluster.imp_right fun h => ⟨rfl, key, rfl, h⟩⟩

theorem pruneStale_eq (h : pruneStale server env objs opts p = (p', r)) :
    (p' = p ∧ opts.pruneSelector = none) ∨ ∃ selector new, opts.pruneSelector = some selector ∧
      Swept (Stale server selector (kept opts p.result)
        (pruneGVKs server env objs opts p.previousKinds) p.cluster) opts.dryRun new p p' := by
  unfold pruneStale at h
  cases hsel : opts.pruneSelector with
  | none =>
    rw [hsel] at h
    cases h
    exact .inl ⟨rfl, rfl⟩
  | some selector =>
    rw [hsel] at h
    obtain ⟨⟨new, hswept⟩, -⟩ := prune_eq (fun _ h => h) (fun _ ho => .inl ho) h
    exact .inr ⟨selector, new, rfl, hswept⟩

theorem apply_dryRun (hdry : opts.dryRun = true) :
    c.AgreeOff (fun _ => False) (applier.apply server env objs opts c).1.cluster := by
  rcases hcall : applier.apply server env objs opts c with ⟨p', r⟩
  have hphases : ∀ {q r₁}, applier.phases server env objs opts
      { cluster := c, cancelled := false } = (q, r₁) → q.cluster = c := by
    intro q r₁ h
    rcases phases_split h with ⟨hprepare, -⟩ | ⟨q₁, hprepare, hadvanced, -⟩
    · exact (prepareInventory_eq hprepare).2.2.2.1 hdry
    · exact (hadvanced.dryRun hdry).trans ((prepareInventory_eq hprepare).2.2.2.1 hdry)
  have hprune : ∀ {q q' r₂}, pruneStale server env objs opts q = (q', r₂) →
      q.cluster.AgreeOff (fun _ => False) q'.cluster := by
    intro q q' r₂ h
    rcases pruneStale_eq h with ⟨rfl, -⟩ | ⟨selector, new, -, hswept⟩
    · exact .refl _ _
    · have hnew := hswept.dryRun hdry
      subst hnew
      exact hswept.cluster.mono fun ref ⟨o, ho, _⟩ => by cases ho
  rcases Stage.andThen_eq hcall with ⟨h, -⟩ | ⟨p, h, hrest⟩
  · rw [hphases h]
    exact .refl _ _
  · rw [← hphases h]
    rcases Stage.andThen_eq hrest with ⟨h, -⟩ | ⟨q, h, hfinal⟩
    · exact hprune h
    · obtain ⟨-, -, hsame | ⟨hfalse, -⟩⟩ := finalizeInventory_eq hfinal
      · rw [hsame]
        exact hprune h
      · rw [hdry] at hfalse
        cases hfalse

/-- Dry runs one after the other leave every live object as it is, wherever they fail. -/
theorem dry_runs_change_nothing
    (calls : List (Applier × Environment × List Unstructured × ApplyOptions)) (ref : ObjectRef) :
    (calls.foldl (fun c x =>
      (x.1.apply server x.2.1 x.2.2.1 { x.2.2.2 with dryRun := true } c).1.cluster) c).find? ref =
        c.find? ref := by
  induction calls generalizing c with
  | nil => rfl
  | cons x calls ih => exact ih.trans (apply_dryRun rfl ref id)

/-- What a call has done when it has deleted an object. -/
structure Deletes (applier : Applier) (server : Server) (env : Environment)
    (objs : List Unstructured) (opts : ApplyOptions) (c : Cluster) (o : Live)
    (p : Progress) (selector : Selector) : Prop where
  phases : applier.phases server env objs opts { cluster := c, cancelled := false } = (p, .success)
  active : p.cancelled = false
  dryRun : opts.dryRun = false
  selects : opts.pruneSelector = some selector
  applied : (applier.apply server env objs opts c).1.result.applied = p.result.applied
  stale : Stale server selector (kept opts p.result)
    (pruneGVKs server env objs opts p.previousKinds) p.cluster o

theorem deletes_of_mem {o : Live} (ho : o ∈ (applier.apply server env objs opts c).1.deletions) :
    ∃ p selector, Deletes applier server env objs opts c o p selector := by
  rcases hcall : applier.apply server env objs opts c with ⟨p', r⟩
  rw [hcall] at ho
  rcases Stage.andThen_eq hcall with ⟨hphases, -⟩ | ⟨p, hphases, hrest⟩
  · rw [(phases_eq hphases).1] at ho
    cases ho
  · have hnone : p.deletions = [] := (phases_eq hphases).1
    obtain ⟨q, r₂, hprune, hdeletions, hresult⟩ : ∃ q r₂,
        pruneStale server env objs opts p = (q, r₂) ∧ p'.deletions = q.deletions ∧
          p'.result = q.result := by
      rcases Stage.andThen_eq hrest with ⟨hprune, -⟩ | ⟨q, hprune, hfinal⟩
      · exact ⟨p', r, hprune, rfl, rfl⟩
      · obtain ⟨hdeletions, hresult, -⟩ := finalizeInventory_eq hfinal
        exact ⟨q, .success, hprune, hdeletions, hresult⟩
    replace ho : o ∈ q.deletions := hdeletions ▸ ho
    rcases pruneStale_eq hprune with ⟨rfl, -⟩ | ⟨selector, new, hsel, hswept⟩
    · rw [hnone] at ho
      cases ho
    · rw [hswept.deletions, hnone, List.nil_append] at ho
      have hne : new ≠ [] := List.ne_nil_of_mem ho
      refine ⟨p, selector, hphases, hswept.active hne, ?_, hsel, ?_, hswept.doomed o ho⟩
      · by_contra hdry
        exact hne (hswept.dryRun (by simpa using hdry))
      · rw [hcall, ← hswept.applied, ← hresult]

theorem applied_of_phases
    (h : applier.phases server env objs opts { cluster := c, cancelled := false } = (p, .success))
    (hactive : p.cancelled = false) :
    p.result.applied = (phaseOrder objs).map (fun obj => refOf (server.desired obj)) ∧
      ∀ obj ∈ objs, server.serves obj.gvk = true := by
  obtain ⟨refs, hrefs, hall⟩ := (phases_eq h).2 rfl
  rcases hall.refs with hc | ⟨hmap, hserves⟩
  · rw [hactive] at hc
    cases hc
  · exact ⟨by simpa [hmap] using hrefs, fun obj hobj => hserves obj (mem_phaseOrder.mpr hobj)⟩

theorem Deletes.refs {o : Live} {selector : Selector}
    (h : Deletes applier server env objs opts c o p selector) :
    p.result.applied = (phaseOrder objs).map (fun obj => refOf (server.desired obj)) ∧
      ∀ obj ∈ objs, server.serves obj.gvk = true :=
  applied_of_phases h.phases h.active

def crdListGroupKind : GroupKind := ⟨"apiextensions.k8s.io", "CustomResourceDefinitionList"⟩

theorem groupKind_of_item_crd {gvk : GroupVersionKind}
    (h : (itemGVK (listGVK gvk)).groupKind = crdGroupKind) :
    gvk.groupKind = crdGroupKind ∨ gvk.groupKind = crdListGroupKind := by
  cases hlist : isList gvk.kind with
  | false =>
    rw [itemGVK_listGVK hlist] at h
    exact .inl h
  | true =>
    right
    simp only [listGVK, hlist, if_true, itemGVK, GroupVersionKind.groupKind, crdGroupKind,
      GroupKind.mk.injEq] at h
    obtain ⟨hgroup, hkind⟩ := h
    obtain ⟨stem, hstem⟩ := List.isSuffixOf_iff_suffix.mp hlist
    have hlen : gvk.kind.toList.length - 4 = stem.length := by
      rw [← hstem, List.length_append]
      exact Nat.add_sub_cancel _ _
    rw [hlen, ← hstem, List.take_left] at hkind
    have hfull : gvk.kind = "CustomResourceDefinitionList" := by
      rw [← String.ofList_toList (s := gvk.kind), ← hstem, String.ofList_append, hkind]
      rfl
    rw [GroupVersionKind.groupKind, hgroup, hfull, crdListGroupKind]

/-- A call deletes only live objects that match the selector, that it has not applied, that are
no protected namespaces, and that are CustomResourceDefinitions only if the options list that
kind or its list kind. It deletes nothing unless every object is applied. -/
theorem apply_deletes_only_stale
    (hcrd : ∀ version, server.serves ⟨"apiextensions.k8s.io", version,
      "CustomResourceDefinitionList"⟩ = false)
    {o : Live} (ho : o ∈ (applier.apply server env objs opts c).1.deletions) :
    (∃ p selector,
      applier.phases server env objs opts { cluster := c, cancelled := false } = (p, .success) ∧
      opts.pruneSelector = some selector ∧ o ∈ p.cluster.objects ∧ selector o.labels = true) ∧
    o.ref ∉ (applier.apply server env objs opts c).1.result.applied ∧
    isProtected o.ref = false ∧
    (o.ref.groupKind = crdGroupKind → ∃ gvk ∈ opts.pruneTypes,
      gvk.groupKind = crdGroupKind ∨ gvk.groupKind = crdListGroupKind) ∧
    (applier.apply server env objs opts c).1.result.applied =
      (phaseOrder objs).map fun obj => refOf (server.desired obj) := by
  obtain ⟨p, selector, hdel⟩ := deletes_of_mem ho
  have hstale := hdel.stale
  refine ⟨⟨p, selector, hdel.phases, hdel.selects, hstale.live, hstale.selected⟩, ?_, ?_, ?_, ?_⟩
  · intro hin
    rw [hdel.applied] at hin
    exact hstale.stray (.inl (List.mem_append_left _ hin))
  · by_contra hprotected
    exact hstale.stray (.inr (.inr (by simpa using hprotected)))
  · intro hkind
    obtain ⟨gvk, hgvk, -, hitem⟩ := hstale.listed
    have hcases := groupKind_of_item_crd (hitem.trans hkind)
    rcases mem_pruneGVKs hgvk with hopts | ⟨hne, hfrom⟩
    · exact ⟨gvk, hopts, hcases⟩
    · have hlist : gvk.groupKind = crdListGroupKind := hcases.resolve_left hne
      have hunserved : server.serves gvk = false := by
        obtain ⟨group, version, kind⟩ := gvk
        simp only [GroupVersionKind.groupKind, crdListGroupKind, GroupKind.mk.injEq] at hlist
        rw [hlist.1, hlist.2]
        exact hcrd version
      rcases hfrom with hdefault | hobj | ⟨gk, -, hmapped⟩
      · exfalso
        have hnone : ∀ gvk ∈ defaultPruneTypes, gvk.groupKind ≠ crdListGroupKind := by decide
        exact hnone gvk hdefault hlist
      · obtain ⟨obj, hmem, rfl⟩ := List.mem_map.mp hobj
        rw [hdel.refs.2 obj hmem] at hunserved
        cases hunserved
      · rw [(restMapping_eq_some hmapped).2] at hunserved
        cases hunserved
  · rw [hdel.applied, hdel.refs.1]

namespace Addon

def configMap : GroupVersionKind := ⟨"", "v1", "ConfigMap"⟩

def serviceAccount : GroupVersionKind := ⟨"", "v1", "ServiceAccount"⟩

def clusterRole : GroupVersionKind := ⟨"rbac.authorization.k8s.io", "v1", "ClusterRole"⟩

def customResourceDefinition : GroupVersionKind :=
  ⟨"apiextensions.k8s.io", "v1", "CustomResourceDefinition"⟩

def apiServer : Server where
  serves gvk := gvk ∈ [configMap, serviceAccount, clusterRole, customResourceDefinition]
  namespaced gk := gk ∈ [configMap.groupKind, serviceAccount.groupKind]
  wellFormed := by
    have hall : ∀ gvk ∈ [configMap, serviceAccount, clusterRole, customResourceDefinition],
        gvk.groupKind.wellFormed = true := by decide
    exact fun gvk h => hall gvk (of_decide_eq_true h)

def addonLabels : Labels := [("kubeone.io/addon", "metrics-server")]

def selector : Selector := fun labels => labels.lookup "kubeone.io/addon" = some "metrics-server"

def object (gvk : GroupVersionKind) (ns name : String) : Unstructured :=
  ⟨gvk, ns, name, addonLabels, []⟩

def options : ApplyOptions := ⟨some selector, [], none, false⟩

/-- Each object is applied and needs no migration, one after the other. -/
def inTurn (n : ℕ) : List (Pool.Event Answer) :=
  (List.range n).flatMap fun i => [.start, .request i {}, .request i {}]

def empty : Cluster := ⟨[], List.nodup_nil, by simp⟩

def left (gvk : GroupVersionKind) (ns name : String) : Live :=
  ⟨⟨gvk.groupKind, ns, name⟩, addonLabels, [], false⟩

def holding (o : Live) (h : o.ref.groupKind.wellFormed = true) : Cluster where
  objects := [o]
  nodup := List.nodup_singleton _
  wellFormed := by simpa using h

/-- A stale ConfigMap is deleted once the ConfigMap of the manifest is applied. -/
theorem stale_config_is_deleted :
    let old := left configMap "kube-system" "old"
    let objs := [object configMap "kube-system" "new"]
    let call := Applier.new.apply apiServer { rest := inTurn 1 } objs options
      (holding old (by decide))
    old ∈ call.1.deletions ∧ old.ref ∉ call.1.result.applied ∧
      call.1.result.applied = (phaseOrder objs).map fun obj => refOf (apiServer.desired obj) := by
  have hdeleted : left configMap "kube-system" "old" ∈
      (Applier.new.apply apiServer { rest := inTurn 1 }
        [object configMap "kube-system" "new"] options
        (holding (left configMap "kube-system" "old") (by decide))).1.deletions := by decide +kernel
  have hcrd : ∀ version, apiServer.serves ⟨"apiextensions.k8s.io", version,
      "CustomResourceDefinitionList"⟩ = false := by
    intro version
    simp [apiServer, configMap, serviceAccount, clusterRole, customResourceDefinition]
  obtain ⟨-, hout, -, -, hall⟩ := apply_deletes_only_stale hcrd hdeleted
  exact ⟨hdeleted, hout, hall⟩

/-- The list kind among the types of the options prunes CustomResourceDefinitions as well. -/
theorem crd_is_pruned_by_list_kind :
    let old := left customResourceDefinition "" "alerts.example.com"
    let opts := { options with
      pruneTypes := [⟨"apiextensions.k8s.io", "v1", "CustomResourceDefinitionList"⟩] }
    let call := Applier.new.apply apiServer {} [] opts (holding old (by decide))
    call.2 = .success ∧ call.1.deletions = [old] ∧ old.ref.groupKind = crdGroupKind ∧
      ∀ gvk ∈ opts.pruneTypes, gvk.groupKind ≠ crdGroupKind := by
  decide +kernel

end Addon

end KubeOne.NativeClient
