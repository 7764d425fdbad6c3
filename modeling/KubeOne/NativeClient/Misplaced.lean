import KubeOne.NativeClient.Safety
import KubeOne.NativeClient.Writers

/-! When a call prunes an object that it has just applied: an object with a namespace of a kind
without namespaces is stored under a reference that is not in the set of applied ones. -/

namespace KubeOne.NativeClient

open Process Applier List Stage Job Session Server

variable {applier : Applier} {server : Server} {opts : ApplyOptions} {obj w : Unstructured}
  {s : Session} {p : Progress}

/-- The session after a server-side apply next to the labels of other managers. -/
def Server.write (server : Server) (labels : Labels) (s : Session) (obj : Unstructured) : Session :=
  (server.apply false { labels := labels } (server.desired obj) s).1

def outcome (server : Server) (obj : Unstructured) : JobResult :=
  .ok (refOf (server.desired obj), false)

variable {phase : List Unstructured} {n : ℕ}

section Write

variable (labels : Labels)

section

variable (hserves : server.serves obj.gvk = true)

include hserves

theorem Server.apply_write (hs : s.cancelled = false) :
    server.apply false { labels := labels } (server.desired obj) s =
      (server.write labels s obj, .ok ()) := by
  simp [write, apply, hserves, send, hs]

theorem write_cancelled (hs : s.cancelled = false) :
    (server.write labels s obj).cancelled = false := by
  rw [(apply_eq (apply_write labels hserves hs)).1, hs]

theorem write_labelled (hs : s.cancelled = false) :
    (server.write labels s obj).cluster.Labelled (server.target obj)
      (· = obj.labels ++ labels) := by
  refine (apply_labelled (apply_write labels hserves hs) ?_).1 rfl
  simp

theorem solo_write (hs : s.cancelled = false) : Pool.solo (Job.request server false)
        [{ labels := labels }, { labels := labels }, { labels := labels }] (Job.init obj) s =
      (server.write labels s obj, .inr (outcome server obj)) := by
  have hmeet : ∀ s : Session, s.meet { labels := labels } = s := fun s => by simp [meet]
  have hwrite := apply_write labels hserves hs
  by_cases hns : obj.ns = ""
  · have hdesired : defaultNamespace obj (server.namespaced obj.gvk.groupKind) =
        server.desired obj := by rw [desired, if_pos hns]
    simp [init, hns, Pool.solo, request, hmeet, isObjectNamespaced, hs, hserves,
      retryOnNoMatch, hdesired, hwrite, applied, outcome]
  · have hdesired : server.desired obj = obj := by rw [desired, if_neg hns]
    rw [hdesired] at hwrite
    simp [init, hns, Pool.solo, request, hmeet, hwrite, retryOnNoMatch, applied, outcome, hdesired]

end

theorem inTurn_write {objs : List Unstructured}
    (hserves : ∀ obj ∈ objs, server.serves obj.gvk = true) (hs : s.cancelled = false) :
    Pool.InTurn (Job.request server false) (objs.map Job.init) s
        (objs.foldl (server.write labels) s) (objs.map (outcome server)) ∧
      (objs.foldl (server.write labels) s).cancelled = false := by
  induction objs generalizing s with
  | nil => exact ⟨.nil s, hs⟩
  | cons obj objs ih =>
    obtain ⟨hturn, hactive⟩ := ih (fun x hx => hserves x (mem_cons_of_mem _ hx))
      (write_cancelled labels (hserves obj mem_cons_self) hs)
    exact ⟨.cons (solo_write labels (hserves obj mem_cons_self) hs) hturn, hactive⟩

theorem filterMap_outcome (server : Server) (objs : List Unstructured) :
    (objs.map (outcome server)).filterMap JobResult.error? = [] := by
  simp [outcome, JobResult.error?, filterMap_map, filterMap_eq_nil_iff]

theorem applyPhase_of_run (hdry : opts.dryRun = false) {s' : Session}
    (hrun : ∃ events, Pool.run (Job.request server false) n
      ⟨p.toSession, phase.map Job.init, []⟩ events =
        ⟨s', [], (phase.map (outcome server)).map .inr⟩) :
    ∃ events p', applyPhase server opts phase n events p = (p', .success) ∧ p'.toSession = s' := by
  obtain ⟨events, hrun⟩ := hrun
  refine ⟨events, { p with
    toSession := s', result := p.result.record (phase.map (outcome server)) }, ?_, rfl⟩
  unfold applyPhase
  rw [hdry, hrun]
  simp only [Pool.results_map_inr, filterMap_outcome, if_true]

section

variable (hn : 0 < n) (hdry : opts.dryRun = false)
  (hserves : ∀ obj ∈ phase, server.serves obj.gvk = true) (hp : p.cancelled = false)

include hn hdry hserves hp

theorem applyPhase_ok :
    ∃ events p', applyPhase server opts phase n events p = (p', .success) ∧
      p'.toSession = phase.foldl (server.write labels) p.toSession := by
  obtain ⟨hturn, -⟩ := inTurn_write labels hserves hp
  have hempty : ([] : List (Job ⊕ JobResult)).countP Sum.isLeft < n := by simpa using hn
  refine applyPhase_of_run hdry ?_
  simpa using hturn.run [] hempty

theorem applyPhase_writes {before after : List Unstructured} (hphase : phase = before ++ w :: after)
    (hw : 1 < n ∨ ∀ obj ∈ after, server.target obj ≠ server.target w) :
    ∃ events p', applyPhase server opts phase n events p = (p', .success) ∧
      p'.cancelled = false ∧
      p'.cluster.Labelled (server.target w) (· = w.labels ++ labels) := by
  subst hphase
  have hserves_w : server.serves w.gvk = true := hserves w (by simp)
  obtain ⟨hbefore, hactive⟩ := inTurn_write labels
    (fun x hx => hserves x (mem_append_left _ hx)) hp
  rcases hw with hmany | hafter
  · obtain ⟨hturn, hactive'⟩ := inTurn_write labels
      (fun x hx => hserves x (mem_append_right _ (mem_cons_of_mem _ hx))) hactive
    have hrun := hbefore.run_waiting hturn (solo_write labels hserves_w hactive') hmany
    rw [← map_cons, ← map_append, ← map_cons, ← map_append] at hrun
    obtain ⟨events, p', happly, hsession⟩ := applyPhase_of_run hdry hrun
    refine ⟨events, p', happly, ?_, ?_⟩
    · rw [hsession]
      exact write_cancelled labels hserves_w hactive'
    · rw [hsession]
      exact write_labelled labels hserves_w hactive'
  · obtain ⟨events, p', happly, hsession⟩ := applyPhase_ok labels hn hdry hserves hp
    rw [foldl_append, foldl_cons] at hsession
    have hwritten := write_cancelled labels hserves_w hactive
    obtain ⟨hturn, hdone⟩ := inTurn_write labels
      (fun x hx => hserves x (mem_append_right _ (mem_cons_of_mem _ hx))) hwritten
    refine ⟨events, p', happly, ?_, ?_⟩
    · rw [hsession]
      exact hdone
    · rw [hsession]
      exact (inTurn_keeps hturn hafter).2 (write_labelled labels hserves_w hactive)

variable (phase) in
theorem applyPhase_exists (w : Unstructured) :
    ∃ events p', applyPhase server opts phase n events p = (p', .success) ∧
      p'.cancelled = false ∧ ((∃ before after, phase = before ++ w :: after ∧
          (1 < n ∨ ∀ obj ∈ after, server.target obj ≠ server.target w)) →
        p'.cluster.Labelled (server.target w) (· = w.labels ++ labels)) := by
  by_cases hw : ∃ before after, phase = before ++ w :: after ∧
      (1 < n ∨ ∀ obj ∈ after, server.target obj ≠ server.target w)
  · obtain ⟨before, after, hphase, hw⟩ := hw
    obtain ⟨events, p', happly, hactive, hlabelled⟩ :=
      applyPhase_writes labels hn hdry hserves hp hphase hw
    exact ⟨events, p', happly, hactive, fun _ => hlabelled⟩
  · obtain ⟨events, p', happly, hsession⟩ := applyPhase_ok labels hn hdry hserves hp
    refine ⟨events, p', happly, ?_, fun h => absurd h hw⟩
    rw [hsession]
    exact (inTurn_write labels hserves hp).2

end

end Write

section Call

variable {objs : List Unstructured} (c : Cluster)

theorem prepareInventory_ok (applier : Applier) (objs : List Unstructured)
    (hdry : opts.dryRun = false) :
    ∃ q, applier.prepareInventory {} objs opts { cluster := c, cancelled := false } =
      (q, .success) ∧ q.cancelled = false := by
  unfold prepareInventory
  rcases opts.inventory with _ | key
  · exact ⟨_, rfl, rfl⟩
  · have hread : readInventory key {} { cluster := c, cancelled := false } =
        ({ cluster := c, cancelled := false, previousKinds := c.recorded key }, .success) := by
      simp [readInventory, send, meet]
    simp only [andThen_of_success hread, hdry, Bool.false_eq_true, if_false]
    simp [writeInventory, send, meet]

theorem waitForCRDs_ok (opts : ApplyOptions) (names : List String) (hp : p.cancelled = false) :
    ∃ q, waitForCRDs {} opts names p = (q, .success) ∧ q.cancelled = false := by
  unfold waitForCRDs
  split_ifs
  · exact ⟨p, rfl, hp⟩
  · simp [meet, hp]

theorem Writer.split (h : Writer applier server objs w) (f : Unstructured → Bool)
    (hf : f w = true) : ∃ before after, objs.filter f = before ++ w :: after ∧
      (1 < applier.concurrency ∧ w.gvk.groupKind ≠ crdGroupKind ∧
          w.gvk.groupKind ≠ namespaceGroupKind ∨
        ∀ obj ∈ after, server.target obj ≠ server.target w) := by
  obtain ⟨hmem, hmany | ⟨before, after, hobjs, hafter⟩⟩ := h
  · obtain ⟨before, after, hsplit⟩ := append_of_mem (mem_filter.mpr ⟨hmem, hf⟩)
    exact ⟨before, after, hsplit, .inl hmany⟩
  · refine ⟨before.filter f, after.filter f, ?_, .inr fun obj hobj => ?_⟩
    · rw [hobjs, filter_append, filter_cons_of_pos hf]
    · exact hafter obj (mem_filter.mp hobj).1

/-- For every object that can leave its labels there is a call whose phases succeed and in which
it does, whatever the labels of other managers and the mapping of kinds are. -/
theorem phases_exist (hdry : opts.dryRun = false)
    (hserves : ∀ obj ∈ objs, server.serves obj.gvk = true) (hw : Writer applier server objs w)
    (labels : Labels) (restMapping : GroupKind → Option String) :
    ∃ (env : Environment) (p : Progress), env.restMapping = restMapping ∧
      (∀ gvk, env.list gvk = .ok) ∧ (∀ ref, (env.delete ref).reply = .ok) ∧
      applier.phases server env objs opts { cluster := c, cancelled := false } = (p, .success) ∧
      p.cancelled = false ∧
      p.cluster.Labelled (server.target w) (· = w.labels ++ labels) := by
  have hserved : ∀ f : Unstructured → Bool, ∀ obj ∈ objs.filter f, server.serves obj.gvk = true :=
    fun f obj hobj => hserves obj (mem_filter.mp hobj).1
  obtain ⟨q, hprepare, hq⟩ := prepareInventory_ok c applier objs hdry
  obtain ⟨crds, p₁, hcrds, hp₁, hlabelled₁⟩ :=
    applyPhase_exists (splitPhases objs).1 labels Nat.one_pos hdry (hserved _) hq w
  obtain ⟨p₂, hwait, hp₂⟩ := waitForCRDs_ok opts ((splitPhases objs).1.map (·.name)) hp₁
  obtain ⟨namespaces, p₃, hnamespaces, hp₃, hlabelled₃⟩ :=
    applyPhase_exists (splitPhases objs).2.1 labels Nat.one_pos hdry (hserved _) hp₂ w
  obtain ⟨rest, p, hrest, hp, hlabelled⟩ :=
    applyPhase_exists (splitPhases objs).2.2 labels applier.concurrency_pos hdry (hserved _) hp₃ w
  refine ⟨{ crds := crds, namespaces := namespaces, rest := rest, restMapping := restMapping }, p,
    rfl, fun _ => rfl, fun _ => rfl, ?_, hp, ?_⟩
  · have hafter := (andThen_of_success hnamespaces).trans hrest
    exact (andThen_of_success hprepare).trans ((andThen_of_success hcrds).trans
      ((andThen_of_success hwait).trans hafter))
  have hkind : (server.target w).groupKind = w.gvk.groupKind := server.target_groupKind w
  by_cases hcrd : w.gvk.groupKind = crdGroupKind
  · obtain ⟨before, after, hsplit, hlast⟩ := hw.split (·.gvk.groupKind = crdGroupKind)
      (decide_eq_true hcrd)
    have hlast := hlast.resolve_left fun hmany => hmany.2.1 hcrd
    refine (hlabelled₁ ⟨before, after, hsplit, .inr hlast⟩).congr ?_
    rw [rest_keeps hrest (.inl (hkind.trans hcrd)), namespaces_keeps hnamespaces (hkind.trans hcrd),
      (waitForCRDs_eq hwait).2]
  by_cases hns : w.gvk.groupKind = namespaceGroupKind
  · obtain ⟨before, after, hsplit, hlast⟩ := hw.split (·.gvk.groupKind = namespaceGroupKind)
      (decide_eq_true hns)
    have hlast := hlast.resolve_left fun hmany => hmany.2.2 hns
    refine (hlabelled₃ ⟨before, after, hsplit, .inr hlast⟩).congr ?_
    rw [rest_keeps hrest (.inr (hkind.trans hns))]
  · obtain ⟨before, after, hsplit, hlast⟩ := hw.split (fun obj =>
      obj.gvk.groupKind ≠ crdGroupKind ∧ obj.gvk.groupKind ≠ namespaceGroupKind)
      (decide_eq_true ⟨hcrd, hns⟩)
    exact hlabelled ⟨before, after, hsplit, hlast.imp_left And.left⟩

end Call

section Prune

variable {env : Environment} {objs : List Unstructured} {c : Cluster}

theorem pruneItems_ok (hdelete : ∀ ref, (env.delete ref).reply = .ok) (applied : List ObjectRef)
    (items : List Live) (hp : p.cancelled = false) :
    ∃ p', pruneItems env opts applied items p = (p', .success) ∧ p'.cancelled = false := by
  induction items generalizing p with
  | nil => exact ⟨p, rfl, hp⟩
  | cons item items ih =>
    have hitem : ∃ q, pruneItem env opts applied item p = (q, .success) ∧ q.cancelled = false := by
      unfold pruneItem
      split_ifs
      · exact ⟨p, rfl, hp⟩
      · exact ⟨p, rfl, hp⟩
      · unfold deleteObject send
        simp only [hp, hdelete, Bool.false_eq_true, if_false, if_true]
        refine ⟨_, rfl, ?_⟩
        cases opts.dryRun
        · rfl
        · exact hp
    obtain ⟨q, hq, hcancelled⟩ := hitem
    obtain ⟨p', hp', hc'⟩ := ih hcancelled
    exact ⟨p', (andThen_of_success hq).trans hp', hc'⟩

theorem prune_ok (server : Server) (opts : ApplyOptions) (hlist : ∀ gvk, env.list gvk = .ok)
    (hdelete : ∀ ref, (env.delete ref).reply = .ok) (selector : Selector)
    (applied : List ObjectRef) (gvks : List GroupVersionKind) (hp : p.cancelled = false) :
    ∃ p', prune server env opts selector applied gvks p = (p', .success) := by
  induction gvks generalizing p with
  | nil => exact ⟨p, rfl⟩
  | cons gvk gvks ih =>
    have htype : ∃ q, pruneType server env opts selector applied gvk p = (q, .success) ∧
        q.cancelled = false := by
      unfold pruneType
      simp only [hp, hlist, Bool.false_eq_true, if_false]
      split_ifs
      · exact pruneItems_ok hdelete applied _ hp
      · exact ⟨p, rfl, hp⟩
    obtain ⟨q, hq, hcancelled⟩ := htype
    obtain ⟨p', hp'⟩ := ih hcancelled
    exact ⟨p', (andThen_of_success hq).trans hp'⟩

theorem mem_deletions_of_stale (env : Environment) {selector : Selector} {o : Live}
    (hphases : applier.phases server env objs opts { cluster := c, cancelled := false } =
      (p, .success))
    (hactive : p.cancelled = false) (hdry : opts.dryRun = false)
    (hsel : opts.pruneSelector = some selector)
    (hlist : ∀ gvk, env.list gvk = .ok) (hdelete : ∀ ref, (env.delete ref).reply = .ok)
    (ho : Stale server selector (kept opts p.result)
      (pruneGVKs server env objs opts p.previousKinds) p.cluster o) :
    ∃ d ∈ (applier.apply server env objs opts c).1.deletions, d.ref = o.ref := by
  obtain ⟨q, hq⟩ := prune_ok server opts hlist hdelete selector
    (kept opts p.result) (pruneGVKs server env objs opts p.previousKinds) hactive
  obtain ⟨⟨new, hswept⟩, hdone⟩ := prune_eq (fun _ h => h) (fun _ h => .inl h) hq
  have hgone : o ∉ q.cluster.objects := by
    intro hin
    obtain ⟨gvk, hgvk, hserves, hkind⟩ := ho.listed
    refine ho.stray (hdone rfl hdry gvk hgvk ⟨hserves, ?_⟩ o hin ho.selected hkind)
    rw [hlist]
    exact nofun
  have hnew : ∃ d ∈ new, d.ref = o.ref := by
    by_contra hnot
    have hfind := hswept.cluster o.ref hnot
    rw [Cluster.find?_of_mem ho.live] at hfind
    exact hgone (Cluster.find?_eq_some_iff.mp hfind).1
  obtain ⟨d, hd, href⟩ := hnew
  refine ⟨d, ?_, href⟩
  have hstale : pruneStale server env objs opts p = (q, .success) := by
    unfold pruneStale
    rw [hsel]
    exact hq
  have hcall : applier.apply server env objs opts c =
      applier.finalizeInventory env objs opts q := by
    rw [Applier.apply, andThen_of_success hphases, andThen_of_success hstale]
  rcases hfinal : applier.finalizeInventory env objs opts q with ⟨q', r₃⟩
  rw [hcall, hfinal]
  rw [(finalizeInventory_eq hfinal).1, hswept.deletions]
  exact mem_append_right _ hd

end Prune

def recordedKinds (opts : ApplyOptions) (c : Cluster) : List GroupKind :=
  opts.inventory.elim [] c.recorded

theorem phases_inventory {env : Environment} {objs : List Unstructured} {c : Cluster}
    (hdry : opts.dryRun = false)
    (h : applier.phases server env objs opts { cluster := c, cancelled := false } = (p, .success)) :
    p.previousKinds = recordedKinds opts c ∧
      ∀ ref, p.cluster.isDeleting ref = c.isDeleting ref := by
  rcases phases_split h with ⟨-, hr⟩ | ⟨q, hprepare, hadvanced, -⟩
  · exact absurd rfl hr
  obtain ⟨-, -, -, -, hsome, hnone⟩ := prepareInventory_eq hprepare
  rw [hadvanced.previousKinds, recordedKinds]
  cases hinv : opts.inventory with
  | none =>
    rw [hnone hinv] at hadvanced ⊢
    exact ⟨rfl, hadvanced.cluster.deleting⟩
  | some key =>
    obtain ⟨hprevious, hrecords⟩ := (hsome key hinv hdry).2 rfl
    exact ⟨hprevious, fun ref =>
      (hadvanced.cluster.deleting ref).trans (hrecords.1.deleting ref)⟩

theorem mem_kept {result : Result} {ref : ObjectRef} : ref ∈ kept opts result ↔
    ref ∈ result.applied ∨ ∃ key, opts.inventory = some key ∧ ref = inventoryRef key := by
  simp [kept, eq_comm]

theorem pruneGVKs_congr {env env' : Environment} (h : env'.restMapping = env.restMapping)
    (objs : List Unstructured) (previousKinds : List GroupKind) :
    pruneGVKs server env' objs opts previousKinds =
      pruneGVKs server env objs opts previousKinds := by
  have hmapping : restMapping server env' = restMapping server env := by
    funext gk
    rw [restMapping, restMapping, h]
  rw [pruneGVKs, pruneGVKs, hmapping]

/-- The call can prune the object that is stored for `w`, although it has applied `w`. All objects
are of served types, the labels of `w` are the ones that are left and can match the selector, and
no reference that the prune spares is the stored one. -/
structure Exposed (applier : Applier) (server : Server) (objs : List Unstructured)
    (opts : ApplyOptions) (c : Cluster) (w : Unstructured) : Prop where
  dryRun : opts.dryRun = false
  serves : ∀ obj ∈ objs, server.serves obj.gvk = true
  writer : Writer applier server objs w
  selected : ∃ selector labels, opts.pruneSelector = some selector ∧
    selector (w.labels ++ labels) = true
  unmatched : ∀ obj ∈ objs, refOf (server.desired obj) ≠ server.target w
  inventory : ∀ key, opts.inventory = some key → inventoryRef key ≠ server.target w
  unprotected : isProtected (server.target w) = false
  alive : c.isDeleting (server.target w) = false
  listed : ∃ env, ∃ gvk ∈ pruneGVKs server env objs opts (recordedKinds opts c),
    server.serves (itemGVK (listGVK gvk)) = true ∧
      (itemGVK (listGVK gvk)).groupKind = w.gvk.groupKind

/-- A call spares every object that it has applied, whatever its requests are answered, exactly
when none of them is exposed. -/
theorem prune_spares_applied_iff (applier : Applier) (server : Server) (objs : List Unstructured)
    (opts : ApplyOptions) (c : Cluster) :
    (∀ env, ∀ o ∈ (applier.apply server env objs opts c).1.deletions, ¬ server.Targets objs o.ref) ↔
      ∀ w, ¬ Exposed applier server objs opts c w := by
  constructor
  · intro h w hexposed
    obtain ⟨selector, labels, hsel, hmatch⟩ := hexposed.selected
    obtain ⟨env₀, gvk, hgvk, hserves, hkind⟩ := hexposed.listed
    obtain ⟨env, p, hmapping, hlist, hdelete, hphases, hactive, o, hfind, hlabels⟩ :=
      phases_exist c hexposed.dryRun hexposed.serves hexposed.writer labels env₀.restMapping
    obtain ⟨hprevious, hdeleting⟩ := phases_inventory hexposed.dryRun hphases
    obtain ⟨hlive, href⟩ := Cluster.find?_eq_some_iff.mp hfind
    have hstale : Stale server selector (kept opts p.result)
        (pruneGVKs server env objs opts p.previousKinds) p.cluster o := by
      refine ⟨hlive, ?_, ?_, gvk, ?_, hserves, ?_⟩
      · rw [hlabels]
        exact hmatch
      · rintro (hkept | hdel | hprotected)
        · rw [href, mem_kept, (applied_of_phases hphases hactive).1] at hkept
          rcases hkept with hin | ⟨key, hkey, heq⟩
          · obtain ⟨obj, hobj, heq⟩ := mem_map.mp hin
            exact hexposed.unmatched obj (mem_phaseOrder.mp hobj) heq
          · exact hexposed.inventory key hkey heq.symm
        · have halive := hdeleting (server.target w)
          rw [hexposed.alive, Cluster.isDeleting, hfind, Option.any_some, hdel] at halive
          cases halive
        · rw [href, hexposed.unprotected] at hprotected
          cases hprotected
      · rw [hprevious, pruneGVKs_congr hmapping]
        exact hgvk
      · rw [hkind, href, target_groupKind]
    obtain ⟨d, hd, hdref⟩ := mem_deletions_of_stale env hphases hactive hexposed.dryRun hsel hlist
      hdelete hstale
    exact h env d hd ⟨w, hexposed.writer.1, hdref.trans href⟩
  · rintro h env o ho ⟨obj, hobj, href⟩
    obtain ⟨p, selector, hdel⟩ := deletes_of_mem ho
    obtain ⟨hprevious, hdeleting⟩ := phases_inventory hdel.dryRun hdel.phases
    obtain ⟨w, hwriter, htarget, o', hfind, others, hlabels⟩ :=
      phases_labelled hdel.dryRun hdel.phases hdel.active hobj
    have hsame : o' = o := by
      rw [← href, Cluster.find?_of_mem hdel.stale.live] at hfind
      exact (Option.some.inj hfind).symm
    subst hsame
    rw [← htarget] at href hfind
    have hspared := hdel.stale.stray
    refine h w ⟨hdel.dryRun, hdel.refs.2, hwriter, ⟨selector, others, hdel.selects, ?_⟩, ?_, ?_, ?_,
      ?_, env, ?_⟩
    · rw [← hlabels]
      exact hdel.stale.selected
    · intro x hx heq
      refine hspared (.inl (mem_kept.mpr (.inl ?_)))
      rw [href, hdel.refs.1, ← heq]
      exact mem_map.mpr ⟨x, mem_phaseOrder.mpr hx, rfl⟩
    · intro key hkey heq
      exact hspared (.inl (mem_kept.mpr (.inr ⟨key, hkey, href.trans heq.symm⟩)))
    · by_contra hprotected
      rw [← href] at hprotected
      exact hspared (.inr (.inr (Bool.eq_true_of_not_eq_false hprotected)))
    · by_contra hdeleted
      rw [← hdeleting, Cluster.isDeleting, hfind, Option.any_some] at hdeleted
      exact hspared (.inr (.inl (Bool.eq_true_of_not_eq_false hdeleted)))
    · obtain ⟨gvk, hgvk, hserves, hkind⟩ := hdel.stale.listed
      rw [hprevious] at hgvk
      exact ⟨gvk, hgvk, hserves, by rw [hkind, href, target_groupKind]⟩

namespace Addon

/-- A ClusterRole whose manifest has a namespace is deleted by the call that has created it. -/
theorem misplaced_role_is_pruned :
    let role := object clusterRole "kube-system" "system:metrics-server"
    let call := Applier.new.apply apiServer { rest := inTurn 1 } [role] options empty
    call.2 = .success ∧ call.1.result.applied = [refOf role] ∧
      call.1.result.pruned = [apiServer.target role] ∧
      call.1.deletions.map Live.ref = [apiServer.target role] ∧ call.1.cluster.objects = [] := by
  decide

end Addon

end KubeOne.NativeClient
