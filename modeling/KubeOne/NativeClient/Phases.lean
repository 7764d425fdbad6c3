import KubeOne.NativeClient.Applier

/-! What the phases in front of a prune do to the cluster, for every interleaving of the work on
their objects: only the inventory and the objects of the manifest change, and after a success
every object is applied, unless the context has been cancelled on the way. -/

namespace KubeOne.NativeClient

open Process List Session Applier JobResult

namespace Server

def desired (server : Server) (obj : Unstructured) : Unstructured :=
  if obj.ns = "" then Job.defaultNamespace obj (server.namespaced obj.gvk.groupKind) else obj

/-- The object as the manifest has it, and in the namespace it gets. -/
def forms (server : Server) (obj : Unstructured) : List Unstructured := [obj, server.desired obj]

def target (server : Server) (obj : Unstructured) : ObjectRef :=
  server.storedRef (server.desired obj)

def Targets (server : Server) (objs : List Unstructured) (ref : ObjectRef) : Prop :=
  ∃ obj ∈ objs, ref = server.target obj

variable {server : Server} {obj : Unstructured} {dryRun : Bool} {a : Answer} {s s' : Session}
  {r : Attempt Unit}

@[simp] theorem defaultNamespace_gvk (obj : Unstructured) (namespaced : Bool) :
    (Job.defaultNamespace obj namespaced).gvk = obj.gvk := by
  unfold Job.defaultNamespace
  split_ifs <;> rfl

@[simp] theorem desired_gvk (server : Server) (obj : Unstructured) :
    (server.desired obj).gvk = obj.gvk := by
  unfold desired
  split_ifs <;> simp

@[simp] theorem target_groupKind (server : Server) (obj : Unstructured) :
    (server.target obj).groupKind = obj.gvk.groupKind := by
  simp [target]

theorem apply_eq (h : server.apply dryRun a obj s = (s', r)) : s'.cancelled = s.cancelled ∧
    s.cluster.Rewrites (· = server.storedRef obj) s'.cluster ∧
    (s.cancelled = true ∨ dryRun = true → s'.cluster = s.cluster) ∧
    (r = .cancelled ↔ s.cancelled = true) ∧ (r = .ok () → server.serves obj.gvk = true) := by
  unfold apply at h
  split_ifs at h with hserves hc
  · obtain ⟨hcancelled, hcluster, hsame, hr, -⟩ := send_eq h
    refine ⟨hcancelled, ?_, fun h => by rw [hsame h], hr, fun _ => hserves⟩
    rcases hcluster with heq | heq <;> rw [heq]
    · exact .refl _ _
    · exact Cluster.rewrites_put _ _ _ _
  · cases h
    exact ⟨rfl, .refl _ _, fun _ => rfl, by simp [hc], nofun⟩
  · cases h
    exact ⟨rfl, .refl _ _, fun _ => rfl, by simp [hc], nofun⟩

end Server

/-! ### Requests of one object -/

namespace Job

variable {server : Server} {obj : Unstructured} {dryRun : Bool} {s s' : Session}
  {x : Job ⊕ JobResult}

/-- A job works on its object with the right namespace, and goes on behind the apply only for a
kind that is served. Once the context is cancelled, its namespace is not sure. -/
def Tracks (server : Server) (obj : Unstructured) (s : Session) : Job ⊕ JobResult → Prop
  | .inl (.scope o _) => o = obj ∧ obj.ns = ""
  | .inl (.apply o _) => o ∈ server.forms obj ∧ (s.cancelled = true ∨ o = server.desired obj)
  | .inl (.migrate o _) => o ∈ server.forms obj ∧
      (s.cancelled = true ∨ o = server.desired obj ∧ server.serves obj.gvk = true)
  | .inl (.reapply o) => o ∈ server.forms obj ∧
      (s.cancelled = true ∨ o = server.desired obj ∧ server.serves obj.gvk = true)
  | .inr (.ok (ref, _)) => ref ∈ (server.forms obj).map refOf ∧
      (s.cancelled = true ∨ ref = refOf (server.desired obj) ∧ server.serves obj.gvk = true)
  | .inr (.error _) => True

theorem Tracks.mono (hx : Tracks server obj s x) (hs : s.cancelled = true → s'.cancelled = true) :
    Tracks server obj s' x := by
  rcases x with (_ | _ | _ | _) | (_ | ⟨_, _⟩)
  · exact hx
  · exact ⟨hx.1, hx.2.imp_left hs⟩
  · exact ⟨hx.1, hx.2.imp_left hs⟩
  · exact ⟨hx.1, hx.2.imp_left hs⟩
  · exact hx
  · exact ⟨hx.1, hx.2.imp_left hs⟩

theorem tracks_init (server : Server) (obj : Unstructured) (s : Session) :
    Tracks server obj s (.inl (init obj)) := by
  unfold init
  split_ifs with hns
  · exact ⟨rfl, hns⟩
  · exact ⟨.head _, .inr (by simp [Server.desired, hns])⟩

theorem tracks_applied {o : Unstructured} (hform : o ∈ server.forms obj)
    (ho : s.cancelled = true ∨ o = server.desired obj ∧ server.serves obj.gvk = true) :
    Tracks server obj s (applied dryRun o) := by
  unfold applied
  split_ifs
  · exact ⟨mem_map_of_mem hform, ho.imp_right (And.imp_left (congrArg refOf))⟩
  · exact ⟨hform, ho⟩

structure Steps (server : Server) (obj : Unstructured) (dryRun : Bool) (s : Session)
    (next : Session × (Job ⊕ JobResult)) : Prop where
  cancelled : s.cancelled = true → next.1.cancelled = true
  cluster : s.cluster.Rewrites (· = server.target obj) next.1.cluster
  dryRun : dryRun = true → next.1.cluster = s.cluster
  tracks : Tracks server obj next.1 next.2

theorem steps_meet (a : Answer) (hx : Tracks server obj (s.meet a) x) :
    Steps server obj dryRun s (s.meet a, x) :=
  ⟨cancelled_meet a, .refl _ _, fun _ => rfl, hx⟩

theorem steps_apply (a : Answer) {o : Unstructured} {sent : Session × Attempt Unit}
    (hsent : server.apply dryRun a o (s.meet a) = sent)
    (ho : (s.meet a).cancelled = true ∨ o = server.desired obj)
    (hx : Tracks server obj sent.1 x) : Steps server obj dryRun s (sent.1, x) := by
  obtain ⟨hcancelled, hcluster, hsame, -, -⟩ := Server.apply_eq (r := sent.2) hsent
  refine ⟨fun h => hcancelled ▸ cancelled_meet a h, ?_, fun hdry => hsame (.inr hdry), hx⟩
  rcases ho with hc | rfl
  · rw [hsame (.inl hc)]
    exact .refl _ _
  · exact hcluster

theorem retryOnNoMatch_done {α : Type*} {tries : ℕ} {unasked x : α} {r : Attempt α}
    (h : retryOnNoMatch tries unasked r = .done x) : r = .cancelled ∧ x = unasked ∨ r = .ok x := by
  cases r <;> grind [retryOnNoMatch]

theorem isObjectNamespaced_eq {a : Answer} :
    (isObjectNamespaced server a obj s = .cancelled → s.cancelled = true) ∧
      ∀ namespaced, isObjectNamespaced server a obj s = .ok namespaced →
        namespaced = server.namespaced obj.gvk.groupKind := by
  grind [isObjectNamespaced]

theorem request_steps (dryRun : Bool) (a : Answer) {job : Job}
    (hjob : Tracks server obj s (.inl job)) :
    Steps server obj dryRun s (request server dryRun a job s) := by
  have hjob' : Tracks server obj (s.meet a) (.inl job) := hjob.mono (cancelled_meet a)
  cases job with
  | scope o tries =>
    obtain ⟨rfl, hns⟩ := hjob
    simp only [request]
    cases hretry : retryOnNoMatch tries false (isObjectNamespaced server a o (s.meet a)) with
    | again => exact steps_meet a ⟨rfl, hns⟩
    | failed => exact steps_meet a trivial
    | done namespaced =>
      rcases retryOnNoMatch_done hretry with ⟨hr, rfl⟩ | hr
      · exact steps_meet a ⟨.head _, .inl (isObjectNamespaced_eq.1 hr)⟩
      · have hdesired : defaultNamespace o namespaced = server.desired o := by
          rw [isObjectNamespaced_eq.2 _ hr, Server.desired, if_pos hns]
        exact steps_meet a ⟨by simp [Server.forms, hdesired], .inr hdesired⟩
  | apply o tries =>
    simp only [request]
    rcases hsent : server.apply dryRun a o (s.meet a) with ⟨s', r⟩
    obtain ⟨hcancelled, -, -, hr, hok⟩ := Server.apply_eq hsent
    have ho : s'.cancelled = true ∨ o = server.desired obj := by
      rw [hcancelled]
      exact hjob'.2
    cases hretry : retryOnNoMatch tries () r with
    | again => exact steps_apply a hsent hjob'.2 ⟨hjob'.1, ho⟩
    | failed => exact steps_apply a hsent hjob'.2 trivial
    | done _ =>
      refine steps_apply a hsent hjob'.2 (tracks_applied hjob'.1 ?_)
      rcases retryOnNoMatch_done hretry with ⟨rfl, -⟩ | rfl
      · exact .inl (hcancelled ▸ hr.mp rfl)
      · exact ho.imp_right fun ho => ⟨ho, by simpa [ho] using hok rfl⟩
  | migrate o tries =>
    have hdone : Tracks server obj (s.meet a) (.inr (.ok (refOf o, false))) :=
      ⟨mem_map_of_mem hjob'.1, hjob'.2.imp_right (And.imp_left (congrArg refOf))⟩
    simp only [request]
    split
    · exact steps_meet a hdone
    · exact steps_meet a hjob'
    · split_ifs
      · exact steps_meet a hjob'
      · exact steps_meet a trivial
    · exact steps_meet a trivial
  | reapply o =>
    simp only [request]
    rcases hsent : server.apply dryRun a o (s.meet a) with ⟨s', r⟩
    obtain ⟨hcancelled, -, -, -, -⟩ := Server.apply_eq hsent
    have ho : (s.meet a).cancelled = true ∨ o = server.desired obj := hjob'.2.imp_right And.left
    cases r with
    | ok u =>
      refine steps_apply a hsent ho ⟨mem_map_of_mem hjob'.1, ?_⟩
      rw [hcancelled]
      exact hjob'.2.imp_right (And.imp_left (congrArg refOf))
    | cancelled => exact steps_apply a hsent ho trivial
    | noMatch => exact steps_apply a hsent ho trivial
    | failed => exact steps_apply a hsent ho trivial

end Job

/-! ### A phase -/

variable {server : Server} {env : Environment} {opts : ApplyOptions} {p p' q : Progress}

structure InPhase (server : Server) (objs : List Unstructured) (dryRun : Bool)
    (s₀ s : Session) : Prop where
  cancelled : s₀.cancelled = true → s.cancelled = true
  cluster : s₀.cluster.Rewrites (server.Targets objs) s.cluster
  dryRun : dryRun = true → s.cluster = s₀.cluster

theorem contract_phase (server : Server) (objs : List Unstructured) (dryRun : Bool)
    (s₀ : Session) : Pool.Contract (Job.request server dryRun) (InPhase server objs dryRun s₀)
      fun obj s x => obj ∈ objs ∧ Job.Tracks server obj s x where
  invariant a obj job s hs := by
    rintro ⟨hmem, hjob⟩
    have hsteps := Job.request_steps dryRun a hjob
    refine ⟨fun h => hsteps.cancelled (hs.cancelled h), hs.cluster.trans ?_, fun hdry => ?_⟩
    · exact hsteps.cluster.mono fun ref href => ⟨obj, hmem, href⟩
    · rw [hsteps.dryRun hdry, hs.dryRun hdry]
  own a obj job s _ := by
    rintro ⟨hmem, hjob⟩
    exact ⟨hmem, (Job.request_steps dryRun a hjob).tracks⟩
  others a obj job s other x _ := by
    rintro ⟨-, hjob⟩ ⟨hmem, hx⟩
    exact ⟨hmem, hx.mono (Job.request_steps dryRun a hjob).cancelled⟩

/-- The references of objects that are all applied, in their order. Once the context is cancelled,
the namespaces are not sure. -/
structure AppliedAll (server : Server) (objs : List Unstructured) (cancelled : Bool)
    (refs : List ObjectRef) : Prop where
  forms : Forall₂ (fun obj ref => ref ∈ (server.forms obj).map refOf) objs refs
  refs : cancelled = true ∨ refs = objs.map (fun obj => refOf (server.desired obj)) ∧
    ∀ obj ∈ objs, server.serves obj.gvk = true

variable {objs : List Unstructured}

theorem AppliedAll.mono {cancelled cancelled' : Bool}
    {refs : List ObjectRef} (h : AppliedAll server objs cancelled refs)
    (hc : cancelled = true → cancelled' = true) : AppliedAll server objs cancelled' refs :=
  ⟨h.forms, h.refs.imp_left hc⟩

theorem AppliedAll.kinds {cancelled : Bool} {refs : List ObjectRef}
    (h : AppliedAll server objs cancelled refs) :
    ∀ ref ∈ refs, ref.groupKind ∈ groupKinds objs := by
  have hkinds : Forall₂ Eq (groupKinds objs) (refs.map (·.groupKind)) := by
    rw [groupKinds, forall₂_map_left_iff, forall₂_map_right_iff]
    refine h.forms.imp fun obj ref hform => ?_
    obtain ⟨o, ho, rfl⟩ := mem_map.mp hform
    simp only [Server.forms, mem_cons, not_mem_nil, or_false] at ho
    rcases ho with rfl | rfl <;> simp
  rw [forall₂_eq_eq_eq] at hkinds
  exact fun ref href => hkinds ▸ mem_map_of_mem href

theorem AppliedAll.append {objs objs' : List Unstructured} {cancelled : Bool}
    {refs refs' : List ObjectRef} (h : AppliedAll server objs cancelled refs)
    (h' : AppliedAll server objs' cancelled refs') :
    AppliedAll server (objs ++ objs') cancelled (refs ++ refs') := by
  refine ⟨rel_append h.forms h'.forms, ?_⟩
  rcases h.refs with hc | ⟨hrefs, hserves⟩
  · exact .inl hc
  · refine h'.refs.imp_right ?_
    rintro ⟨hrefs', hserves'⟩
    refine ⟨by rw [hrefs, hrefs', map_append], fun obj hobj => ?_⟩
    rcases mem_append.mp hobj with hobj | hobj
    · exact hserves obj hobj
    · exact hserves' obj hobj

theorem appliedAll_of_tracks {s : Session} {outcomes : List JobResult}
    (h : List.Forall₂ (fun obj b => Job.Tracks server obj s (.inr b)) objs outcomes)
    (herrors : outcomes.filterMap error? = []) :
    AppliedAll server objs s.cancelled (outcomes.filterMap applied?) := by
  induction h with
  | nil => exact ⟨.nil, .inr ⟨rfl, by simp⟩⟩
  | @cons obj b objs outcomes hb _ ih =>
    cases b with
    | error e => simp [error?] at herrors
    | ok done =>
      obtain ⟨ref, migrated⟩ := done
      have hone : AppliedAll server [obj] s.cancelled [ref] := by
        refine ⟨.cons hb.1 .nil, hb.2.imp_right ?_⟩
        rintro ⟨rfl, hserves⟩
        exact ⟨rfl, by simpa using hserves⟩
      have hrest := ih (by simpa [error?] using herrors)
      simpa [applied?] using hone.append hrest

/-- What the stages behind the preparation of the inventory keep. -/
structure Advanced (server : Server) (objs : List Unstructured) (dryRun : Bool)
    (p p' : Progress) : Prop where
  cancelled : p.cancelled = true → p'.cancelled = true
  cluster : p.cluster.Rewrites (server.Targets objs) p'.cluster
  dryRun : dryRun = true → p'.cluster = p.cluster
  previousKinds : p'.previousKinds = p.previousKinds
  deletions : p'.deletions = p.deletions

theorem Advanced.trans {dryRun : Bool} (h : Advanced server objs dryRun q p)
    (h' : Advanced server objs dryRun p p') : Advanced server objs dryRun q p' :=
  ⟨h'.cancelled ∘ h.cancelled, h.cluster.trans h'.cluster,
    fun hdry => (h'.dryRun hdry).trans (h.dryRun hdry),
    h'.previousKinds.trans h.previousKinds, h'.deletions.trans h.deletions⟩

/-- The objects `done` are applied since `q`. -/
def Applied (server : Server) (objs : List Unstructured) (dryRun : Bool) (q : Progress)
    (done : List Unstructured) (p : Progress) : Prop :=
  Advanced server objs dryRun q p ∧ ∃ refs, p.result.applied = q.result.applied ++ refs ∧
    AppliedAll server done p.cancelled refs

theorem applied_start (server : Server) (objs : List Unstructured) (dryRun : Bool)
    (q : Progress) : Applied server objs dryRun q [] q :=
  ⟨⟨id, .refl _ _, fun _ => rfl, rfl, rfl⟩, [], by simp, .nil, .inr ⟨rfl, by simp⟩⟩

theorem applyPhase_meets {objs phase done : List Unstructured} (hphase : ∀ obj ∈ phase, obj ∈ objs)
    (n : ℕ) (events : List (Pool.Event Answer)) :
    Stage.Meets (Applied server objs opts.dryRun q done)
      (applyPhase server opts phase n events)
      (Applied server objs opts.dryRun q (done ++ phase)) (Advanced server objs opts.dryRun q) := by
  rintro p p' r ⟨hadvanced, refs, hrefs, hall⟩ hx
  set pool := Pool.run (Job.request server opts.dryRun) n ⟨p.toSession, phase.map Job.init, []⟩
    events with hpool
  have hholds : Pool.Holds (InPhase server phase opts.dryRun p.toSession)
      (fun obj s x => obj ∈ phase ∧ Job.Tracks server obj s x) phase pool := by
    refine Pool.Holds.run (contract_phase server phase opts.dryRun p.toSession) ⟨?_, ?_⟩ events
    · exact ⟨id, .refl _ _, fun _ => rfl⟩
    · rw [nil_append, map_map, forall₂_map_right_iff, forall₂_same]
      exact fun obj hobj => ⟨hobj, Job.tracks_init server obj p.toSession⟩
  obtain ⟨hcancelled, hcluster, hdry⟩ := hholds.1
  have hnext : ∀ result, Advanced server objs opts.dryRun q
      { p with toSession := pool.shared, result := result } := by
    refine fun result => hadvanced.trans ⟨hcancelled, hcluster.mono ?_, hdry, rfl, rfl⟩
    rintro ref ⟨obj, hobj, href⟩
    exact ⟨obj, hphase obj hobj, href⟩
  unfold applyPhase at hx
  simp only [← hpool] at hx
  cases hresults : pool.results with
  | none =>
    rw [hresults] at hx
    cases hx
    exact ⟨nofun, fun _ => hnext p.result⟩
  | some outcomes =>
    rw [hresults] at hx
    cases hx
    refine ⟨fun hr => ⟨hnext _, refs ++ outcomes.filterMap applied?, ?_, ?_⟩,
      fun _ => hnext _⟩
    · simp [Result.record, hrefs]
    · have herrors : outcomes.filterMap error? = [] := by
        by_contra hne
        simp [hne] at hr
      refine (hall.mono hcancelled).append (appliedAll_of_tracks ?_ herrors)
      exact (hholds.results hresults).imp fun _ _ h => h.2

theorem applyPhase_advanced {phase : List Unstructured} {n : ℕ}
    {events : List (Pool.Event Answer)} {r : Status Failure}
    (h : applyPhase server opts phase n events p = (p', r)) :
    Advanced server phase opts.dryRun p p' := by
  obtain ⟨hdone, hfailed⟩ := applyPhase_meets (fun _ hobj => hobj) n events p p' r
    (applied_start server phase opts.dryRun p) h
  by_cases hr : r = .success
  · exact (hdone hr).1
  · exact hfailed hr

/-- The progress changes in its session only. -/
structure SameButSession (p p' : Progress) : Prop where
  cancelled : p.cancelled = true → p'.cancelled = true
  previousKinds : p'.previousKinds = p.previousKinds
  result : p'.result = p.result
  deletions : p'.deletions = p.deletions

theorem waitForCRDs_eq {names : List String} {r : Status Failure}
    (h : waitForCRDs env opts names p = (p', r)) :
    SameButSession p p' ∧ p'.cluster = p.cluster := by
  unfold waitForCRDs at h
  split_ifs at h <;> cases h
  · exact ⟨⟨id, rfl, rfl, rfl⟩, rfl⟩
  · exact ⟨⟨cancelled_meet _, rfl, rfl, rfl⟩, rfl⟩

theorem waitForCRDs_meets {objs done : List Unstructured} (names : List String) :
    Stage.Meets (Applied server objs opts.dryRun q done) (waitForCRDs env opts names)
      (Applied server objs opts.dryRun q done) (Advanced server objs opts.dryRun q) := by
  rintro p p' r ⟨hadvanced, refs, hrefs, hall⟩ hx
  obtain ⟨hsame, hcluster⟩ := waitForCRDs_eq hx
  have hnext : Advanced server objs opts.dryRun q p' := by
    refine hadvanced.trans ⟨hsame.cancelled, ?_, fun _ => hcluster, hsame.previousKinds,
      hsame.deletions⟩
    rw [hcluster]
    exact .refl _ _
  exact ⟨fun _ => ⟨hnext, refs, hsame.result ▸ hrefs, hall.mono hsame.cancelled⟩, fun _ => hnext⟩

def phaseOrder (objs : List Unstructured) : List Unstructured :=
  (splitPhases objs).1 ++ (splitPhases objs).2.1 ++ (splitPhases objs).2.2

theorem mem_phaseOrder {obj : Unstructured} : obj ∈ phaseOrder objs ↔ obj ∈ objs := by
  rw [phaseOrder, mem_append, mem_append, or_assoc]
  exact mem_splitPhases

theorem phases_meets (applier : Applier) (objs : List Unstructured) :
    Stage.Meets (q = ·)
      ((applyPhase server opts (splitPhases objs).1 1 env.crds).andThen <|
        (waitForCRDs env opts ((splitPhases objs).1.map (·.name))).andThen <|
        (applyPhase server opts (splitPhases objs).2.1 1 env.namespaces).andThen <|
        applyPhase server opts (splitPhases objs).2.2 applier.concurrency env.rest)
      (Applied server objs opts.dryRun q (phaseOrder objs))
      (Advanced server objs opts.dryRun q) := by
  have hstart : Stage.Meets (Applied server objs opts.dryRun q [])
      (applyPhase server opts (splitPhases objs).1 1 env.crds)
      (Applied server objs opts.dryRun q (splitPhases objs).1)
      (Advanced server objs opts.dryRun q) :=
    applyPhase_meets (fun obj hobj => mem_splitPhases.mp (.inl hobj)) 1 env.crds
  refine (hstart.weaken ?_ (fun _ h => h) fun _ h => h).andThen
    ((waitForCRDs_meets _).andThen ((applyPhase_meets ?_ 1 _).andThen (applyPhase_meets ?_ _ _)))
  · rintro p rfl
    exact applied_start server objs opts.dryRun q
  · exact fun obj hobj => mem_splitPhases.mp (.inr (.inl hobj))
  · exact fun obj hobj => mem_splitPhases.mp (.inr (.inr hobj))

/-! ### The inventory -/

section Inventory

variable {applier : Applier} {key : ObjectKey} {kinds : List GroupKind} {a : Answer}
  {objs : List Unstructured} {r : Status Failure}

/-- From `c` to `c'` nothing but the inventory changes, and it records the kinds. -/
def Records (key : ObjectKey) (kinds : List GroupKind) (c c' : Cluster) : Prop :=
  c.Rewrites (· = inventoryRef key) c' ∧ ∀ gk ∈ kinds, gk.wellFormed = true → gk ∈ c'.recorded key

theorem recorded_of_agreeOff {P : ObjectRef → Prop} {c c' : Cluster} (h : c.AgreeOff P c')
    (hP : ¬ P (inventoryRef key)) : c'.recorded key = c.recorded key := by
  unfold Cluster.recorded
  rw [h _ hP]

/-- The cluster once the inventory is written. -/
def Applier.recording (applier : Applier) (key : ObjectKey) (kinds : List GroupKind) (a : Answer)
    (c : Cluster) : Cluster :=
  c.put (inventoryRef key) ((inventoryManagedByLabel, applier.fieldManager) :: a.labels)
    ((inventoryGroupKindsKey, renderKinds kinds) :: a.data) (inventoryRef_wellFormed key)

theorem recorded_recording (c : Cluster) :
    (applier.recording key kinds a c).recorded key = parseKinds (renderKinds kinds) := by
  obtain ⟨o, hfind, -, hdata, -⟩ := c.find?_put_self
    ((inventoryManagedByLabel, applier.fieldManager) :: a.labels)
    ((inventoryGroupKindsKey, renderKinds kinds) :: a.data) (inventoryRef_wellFormed key)
  simp only [recording, Cluster.recorded, hfind, hdata, lookup_cons_self, Option.getD_some]

theorem writeInventory_recording (h : applier.writeInventory key kinds a p = (p', r)) :
    SameButSession p p' ∧
      (p'.cluster = p.cluster ∨ p'.cluster = applier.recording key kinds a p.cluster) ∧
      (r = .success → p'.cluster = applier.recording key kinds a p.cluster) := by
  unfold writeInventory at h
  rcases hsend : (p.toSession.meet a).send a false (applier.recording key kinds a) with ⟨s, x⟩
  unfold recording at hsend
  rw [hsend] at h
  cases h
  obtain ⟨hcancelled, hcluster, -, -, hok⟩ := send_eq hsend
  refine ⟨⟨fun hc => hcancelled ▸ cancelled_meet a hc, rfl, rfl, rfl⟩, hcluster, fun hr => ?_⟩
  have hx : x = .ok () := by
    by_contra hne
    simp [hne] at hr
  exact hok hx rfl

theorem writeInventory_eq (h : applier.writeInventory key kinds a p = (p', r)) :
    SameButSession p p' ∧ (p'.cluster = p.cluster ∨ Records key kinds p.cluster p'.cluster) ∧
      (r = .success → Records key kinds p.cluster p'.cluster) := by
  have hrecords : Records key kinds p.cluster (applier.recording key kinds a p.cluster) := by
    refine ⟨Cluster.rewrites_put _ _ _ _, fun gk hgk hwf => ?_⟩
    rw [recorded_recording]
    exact mem_parseKinds hwf hgk
  obtain ⟨hsame, hcluster, hdone⟩ := writeInventory_recording h
  refine ⟨hsame, hcluster.imp_right fun hc => ?_, fun hr => ?_⟩
  · rw [hc]
    exact hrecords
  · rw [hdone hr]
    exact hrecords

theorem readInventory_eq (h : readInventory key a p = (p', r)) :
    (p.cancelled = true → p'.cancelled = true) ∧ p'.cluster = p.cluster ∧
      p'.result = p.result ∧ p'.deletions = p.deletions ∧
      (r = .success → p'.previousKinds = p.cluster.recorded key) := by
  unfold readInventory at h
  simp only at h
  rcases hsend : (p.toSession.meet a).send a true id with ⟨s, x⟩
  rw [hsend] at h
  obtain ⟨hcancelled, -, hsame, -⟩ := send_eq hsend
  have hs : s = p.toSession.meet a := hsame (.inr rfl)
  have hc : p.cancelled = true → s.cancelled = true := fun hc => hcancelled ▸ cancelled_meet a hc
  split_ifs at h <;> cases h
  · exact ⟨hc, by rw [hs]; rfl, rfl, rfl, fun _ => by rw [hs]; rfl⟩
  · exact ⟨hc, by rw [hs]; rfl, rfl, rfl, nofun⟩

/-- The kinds that are written to the inventory are the ones that are read from it. -/
theorem inventory_round_trips {q : Progress} {b : Answer}
    (hkinds : ∀ gk ∈ kinds, gk.wellFormed = true)
    (hwrite : applier.writeInventory key kinds a p = (q, .success))
    (hread : Applier.readInventory key b q = (p', .success)) (gk : GroupKind) :
    gk ∈ p'.previousKinds ↔ gk ∈ kinds := by
  obtain ⟨-, -, -, -, hprevious⟩ := readInventory_eq hread
  rw [hprevious rfl, (writeInventory_recording hwrite).2.2 rfl, recorded_recording,
    mem_parseKinds_iff hkinds]

theorem inventory_of_two_kinds :
    let key : ObjectKey := ⟨"kube-system", "addon-inventory"⟩
    let kinds : List GroupKind := [⟨"apps", "Deployment"⟩, ⟨"", "Pod"⟩]
    let written := Applier.new.writeInventory key kinds {}
      { cluster := ⟨[], by decide, by decide⟩, cancelled := false }
    written.2 = .success ∧
      (⟨"", "Pod"⟩ ∈ (Applier.readInventory key {} written.1).1.previousKinds ↔
        (⟨"", "Pod"⟩ : GroupKind) ∈ kinds) := by
  intro key kinds written
  have hwrite : new.writeInventory key kinds {} _ = (written.1, .success) := rfl
  have hread : readInventory key {} written.1 = (_, .success) := rfl
  exact ⟨rfl, inventory_round_trips (by decide) hwrite hread _⟩

theorem prepareInventory_eq (h : applier.prepareInventory env objs opts p = (p', r)) :
    (p.cancelled = true → p'.cancelled = true) ∧ p'.result = p.result ∧
      p'.deletions = p.deletions ∧ (opts.dryRun = true → p'.cluster = p.cluster) ∧
      (∀ key, opts.inventory = some key → opts.dryRun = false →
        (p'.cluster = p.cluster ∨
          Records key (p.cluster.recorded key ++ groupKinds objs) p.cluster p'.cluster) ∧
        (r = .success → p'.previousKinds = p.cluster.recorded key ∧
          Records key (p.cluster.recorded key ++ groupKinds objs) p.cluster p'.cluster)) ∧
      (opts.inventory = none → p' = p) := by
  unfold prepareInventory at h
  cases hinv : opts.inventory with
  | none =>
    rw [hinv] at h
    cases h
    exact ⟨id, rfl, rfl, fun _ => rfl, nofun, fun _ => rfl⟩
  | some key =>
    rw [hinv] at h
    rcases Stage.andThen_eq h with ⟨hread, hr⟩ | ⟨q, hread, hwrite⟩
    · obtain ⟨hcancelled, hcluster, hresult, hdeletions, -⟩ := readInventory_eq hread
      exact ⟨hcancelled, hresult, hdeletions, fun _ => hcluster,
        fun _ _ _ => ⟨.inl hcluster, fun h => absurd h hr⟩, nofun⟩
    · obtain ⟨hcancelled, hcluster, hresult, hdeletions, hprevious⟩ := readInventory_eq hread
      cases hdry : opts.dryRun with
      | true =>
        simp only [hdry, if_true] at hwrite
        cases hwrite
        exact ⟨hcancelled, hresult, hdeletions, fun _ => hcluster, nofun, nofun⟩
      | false =>
        simp only [hdry, Bool.false_eq_true, if_false] at hwrite
        rw [hprevious rfl] at hwrite
        obtain ⟨hsame, hkept, hdone⟩ := writeInventory_eq hwrite
        rw [hcluster] at hkept hdone
        refine ⟨fun hc => hsame.cancelled (hcancelled hc), hsame.result.trans hresult,
          hsame.deletions.trans hdeletions, nofun, ?_, nofun⟩
        rintro _ ⟨⟩ -
        exact ⟨hkept, fun hr => ⟨hsame.previousKinds.trans (hprevious rfl), hdone hr⟩⟩

theorem phases_split (h : applier.phases server env objs opts p = (p', r)) :
    applier.prepareInventory env objs opts p = (p', r) ∧ r ≠ .success ∨
      ∃ q, applier.prepareInventory env objs opts p = (q, .success) ∧
        Advanced server objs opts.dryRun q p' ∧ (r = .success → ∃ refs,
          p'.result.applied = q.result.applied ++ refs ∧
            AppliedAll server (phaseOrder objs) p'.cancelled refs) := by
  rcases Stage.andThen_eq h with hprepare | ⟨q, hprepare, hrest⟩
  · exact .inl hprepare
  · obtain ⟨hdone, hfailed⟩ := phases_meets applier objs q p' r rfl hrest
    refine .inr ⟨q, hprepare, ?_, fun hr => (hdone hr).2⟩
    by_cases hr : r = .success
    · exact (hdone hr).1
    · exact hfailed hr

end Inventory

end KubeOne.NativeClient
