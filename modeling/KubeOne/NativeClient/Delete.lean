import KubeOne.NativeClient.Phases

/-! The delete of an applier. It deletes the objects of a manifest that are live and match a
selector, in the reverse of the order in which they are applied, and passes over kinds that are
not known. At the end it deletes the inventory. -/

namespace KubeOne.NativeClient

open Process Applier Server

def applyPriority (obj : Unstructured) : ℕ :=
  if obj.gvk.groupKind = crdGroupKind then 0
  else if obj.gvk.groupKind = namespaceGroupKind then 1
  else 2

/-- The original order is kept within each group. -/
def sortForApply (objs : List Unstructured) : List Unstructured :=
  objs.insertionSort (fun a b => applyPriority a ≤ applyPriority b)

def sortForDelete (objs : List Unstructured) : List Unstructured := (sortForApply objs).reverse

@[simp] theorem mem_sortForDelete {objs : List Unstructured} {obj : Unstructured} :
    obj ∈ sortForDelete objs ↔ obj ∈ objs := by
  rw [sortForDelete, List.mem_reverse, sortForApply, List.mem_insertionSort]

structure DeleteOptions where
  selector : Option Selector
  inventory : Option ObjectKey

/-- Without a selector everything matches. -/
def DeleteOptions.selects (opts : DeleteOptions) (labels : Labels) : Bool :=
  opts.selector.all (· labels)

inductive DeleteFailure where
  | determiningScope (ref : ObjectRef)
  | getting (ref : ObjectRef)
  | deleting (ref : ObjectRef)
  | deletingInventory (key : ObjectKey)
  deriving DecidableEq

/-- What the requests for one object meet. -/
structure Removal where
  scope : Answer := {}
  get : Answer := {}
  delete : Answer := {}
  finalizing : Bool := false

/-- The objects of the manifest are counted in the order in which they are deleted. -/
structure DeleteEnvironment where
  removals : ℕ → Removal := fun _ => {}
  inventory : Removal := {}

structure Deleting extends Session where
  deleted : List ObjectRef := []

namespace Server

/-- The object with its namespace. The mapper of the client is asked without the context. -/
def withNamespace (server : Server) (a : Answer) (obj : Unstructured) : Attempt Unstructured :=
  if obj.ns = "" then
    if server.serves obj.gvk then
      match a.reply with
      | .ok => .ok (Job.defaultNamespace obj (server.namespaced obj.gvk.groupKind))
      | .noMatch => .noMatch
      | _ => .failed
    else .noMatch
  else .ok obj

def get (server : Server) (a : Answer) (obj : Unstructured) (s : Session) : Attempt (Option Live) :=
  if server.serves obj.gvk then
    match (s.send a true id).2 with
    | .ok _ => .ok (s.cluster.find? (server.storedRef obj))
    | .noMatch => .noMatch
    | .failed => .failed
    | .cancelled => .cancelled
  else .noMatch

end Server

namespace Applier

variable (server : Server) (opts : DeleteOptions)

def deleteLive (a : Removal) (ref : ObjectRef) (live : Live) : Stage Deleting DeleteFailure :=
  fun p =>
    let sent := (p.toSession.meet a.delete).send a.delete false (·.delete live.ref a.finalizing)
    if sent.2 = .ok () then
      ({ toSession := sent.1, deleted := p.deleted ++ [ref] }, .success)
    else ({ p with toSession := sent.1 }, .failed [.deleting ref])

def deleteOne (a : Removal) (obj : Unstructured) : Stage Deleting DeleteFailure := fun p =>
  match server.withNamespace a.scope obj with
  | .noMatch => (p, .success)
  | .ok desired =>
    let p := { p with toSession := p.toSession.meet a.get }
    match server.get a.get desired p.toSession with
    | .noMatch => (p, .success)
    | .ok none => (p, .success)
    | .ok (some live) =>
      if opts.selects live.labels then deleteLive a (refOf desired) live p else (p, .success)
    | _ => (p, .failed [.getting (refOf desired)])
  | _ => (p, .failed [.determiningScope (refOf obj)])

def deleteAll (removals : ℕ → Removal) : List Unstructured → Stage Deleting DeleteFailure
  | [] => .skip
  | obj :: objs =>
    (deleteOne server opts (removals 0) obj).andThen (deleteAll (fun i => removals (i + 1)) objs)

def deleteInventory (a : Removal) (key : ObjectKey) : Stage Deleting DeleteFailure := fun p =>
  let sent := (p.toSession.meet a.delete).send a.delete false
    (·.delete (inventoryRef key) a.finalizing)
  ({ p with toSession := sent.1 },
    if sent.2 = .ok () then .success else .failed [.deletingInventory key])

def delete (env : DeleteEnvironment) (objs : List Unstructured) (c : Cluster) :
    Deleting × Status DeleteFailure :=
  ((deleteAll server opts env.removals (sortForDelete objs)).andThen
    (match opts.inventory with
      | some key => deleteInventory env.inventory key
      | none => .skip)) { cluster := c, cancelled := false }

end Applier

namespace Cluster

/-- Only objects of the references `P` are gone or on their way out. -/
structure Reaped (P : ObjectRef → Prop) (c c' : Cluster) : Prop where
  agree : AgreeOff P c c'
  survivors : ∀ o ∈ c'.objects, o ∈ c.objects ∨ o.deleting = true

variable {P P' : ObjectRef → Prop} {c c₁ c' : Cluster}

theorem Reaped.refl (P : ObjectRef → Prop) (c : Cluster) : Reaped P c c :=
  ⟨.refl P c, fun _ ho => .inl ho⟩

theorem Reaped.mono (h : Reaped P c c') (hP : ∀ ref, P ref → P' ref) : Reaped P' c c' :=
  ⟨h.agree.mono hP, h.survivors⟩

theorem Reaped.trans (h : Reaped P c c₁) (h' : Reaped P c₁ c') : Reaped P c c' := by
  refine ⟨h.agree.trans h'.agree, fun o ho => ?_⟩
  rcases h'.survivors o ho with ho | hdel
  · exact h.survivors o ho
  · exact .inr hdel

theorem Reaped.keeps (h : Reaped P c c') {ref : ObjectRef} {Q : Live → Prop}
    (hgone : ∀ o ∈ c.objects, o.ref = ref → Q o → o.deleting = true) :
    ∀ o ∈ c'.objects, o.ref = ref → Q o → o.deleting = true := by
  intro o ho href hQ
  rcases h.survivors o ho with ho | hdel
  · exact hgone o ho href hQ
  · exact hdel

theorem reaped_delete (c : Cluster) (ref : ObjectRef) (finalizing : Bool) :
    Reaped (· = ref) c (c.delete ref finalizing) := by
  refine ⟨fun other hne => find?_delete_of_ne hne, fun o ho => ?_⟩
  rcases mem_delete ho with ⟨-, ho⟩ | ⟨-, hdel⟩
  · exact .inl ho
  · exact .inr hdel

end Cluster

variable {server : Server} {opts : DeleteOptions} {a : Removal} {obj : Unstructured}
  {objs : List Unstructured} {removals : ℕ → Removal} {env : DeleteEnvironment} {c : Cluster}
  {p p' : Deleting} {r : Status DeleteFailure} {ref : ObjectRef}

structure Finds (server : Server) (a : Removal) (obj : Unstructured) : Prop where
  serves : server.serves obj.gvk = true
  scope : obj.ns = "" → a.scope.reply ≠ .noMatch
  get : a.get.reply ≠ .noMatch

variable {s : Session} {answer : Answer}

theorem send_delete_eq {s' : Session} {finalizing : Bool} {x : Attempt Unit}
    (h : s.send answer false (·.delete ref finalizing) = (s', x)) :
    s.cluster.Reaped (· = ref) s'.cluster ∧
      (x = .ok () → ∀ o ∈ s'.cluster.objects, o.ref = ref → o.deleting = true) := by
  obtain ⟨-, hcluster, -, -, hok⟩ := Session.send_eq h
  constructor
  · rcases hcluster with heq | heq <;> rw [heq]
    · exact .refl _ _
    · exact Cluster.reaped_delete _ _ _
  · intro hx o ho href
    rw [hok hx rfl] at ho
    rcases Cluster.mem_delete ho with ⟨hne, -⟩ | ⟨-, hdel⟩
    · exact absurd href hne
    · exact hdel

theorem withNamespace_eq_ok {desired : Unstructured}
    (h : server.withNamespace a.scope obj = .ok desired) :
    desired = server.desired obj ∧ (obj.ns = "" → a.scope.reply ≠ .noMatch) := by
  unfold withNamespace at h
  unfold Server.desired
  split_ifs at h ⊢ with hns hserves
  · cases hreply : a.scope.reply <;> simp only [hreply] at h <;> cases h
    exact ⟨rfl, by simp⟩
  · cases h
    exact ⟨rfl, fun hempty => absurd hempty hns⟩

theorem withNamespace_eq_noMatch (h : server.withNamespace a.scope obj = .noMatch) :
    ¬ Finds server a obj := by
  intro hfinds
  unfold withNamespace at h
  rw [if_pos hfinds.serves] at h
  split_ifs at h with hns
  cases hreply : a.scope.reply <;> simp only [hreply] at h <;> try cases h
  exact hfinds.scope hns hreply

theorem get_eq_noMatch (h : server.get answer obj s = .noMatch) :
    server.serves obj.gvk = false ∨ answer.reply = .noMatch := by
  unfold Server.get at h
  split_ifs at h with hserves
  · right
    cases hreply : answer.reply <;> cases hc : s.cancelled <;>
      simp [Session.send, hreply, hc] at h ⊢
  · exact .inl (Bool.eq_false_of_not_eq_true hserves)

theorem get_eq_ok {found : Option Live} (h : server.get answer obj s = .ok found) :
    server.serves obj.gvk = true ∧ answer.reply ≠ .noMatch ∧
      found = s.cluster.find? (server.storedRef obj) := by
  unfold Server.get at h
  split_ifs at h with hserves
  refine ⟨hserves, ?_, ?_⟩
  · rintro hreply
    unfold Session.send at h
    split_ifs at h <;> simp [hreply] at h
  · split at h <;> cases h
    rfl

theorem deleteLive_eq {live : Live} (h : deleteLive a ref live p = (p', r)) :
    p.cluster.Reaped (· = live.ref) p'.cluster ∧
      (r = .success → ∀ o ∈ p'.cluster.objects, o.ref = live.ref → o.deleting = true) := by
  unfold deleteLive at h
  rcases hsend : (p.toSession.meet a.delete).send a.delete false
    (·.delete live.ref a.finalizing) with ⟨s, x⟩
  rw [hsend] at h
  obtain ⟨hreaped, hgone⟩ := send_delete_eq hsend
  by_cases hx : x = .ok ()
  · rw [if_pos hx] at h
    cases h
    exact ⟨hreaped, fun _ => hgone hx⟩
  · rw [if_neg hx] at h
    cases h
    exact ⟨hreaped, by simp⟩

theorem deleteOne_eq (h : deleteOne server opts a obj p = (p', r)) :
    p.cluster.Reaped (fun ref => Finds server a obj ∧ ref = server.target obj) p'.cluster ∧
      (r = .success → Finds server a obj → ∀ o ∈ p'.cluster.objects, o.ref = server.target obj →
        opts.selects o.labels = true → o.deleting = true) := by
  unfold deleteOne at h
  split at h
  · rename_i hscoped
    cases h
    exact ⟨.refl _ _, fun _ hfinds => absurd hfinds (withNamespace_eq_noMatch hscoped)⟩
  · rename_i desired hscoped
    obtain ⟨rfl, hscope⟩ := withNamespace_eq_ok hscoped
    simp only at h
    split at h
    · rename_i hget
      cases h
      refine ⟨.refl _ _, fun _ hfinds => ?_⟩
      rcases get_eq_noMatch hget with hserves | hreply
      · rw [desired_gvk, hfinds.serves] at hserves
        cases hserves
      · exact absurd hreply hfinds.get
    · rename_i hget
      obtain ⟨-, -, hfind⟩ := get_eq_ok hget
      cases h
      refine ⟨.refl _ _, fun _ _ o ho href => ?_⟩
      rw [Session.meet_cluster] at hfind
      have hfound : p.cluster.find? (server.target obj) = some o := by
        rw [← href]
        exact Cluster.find?_of_mem ho
      rw [target, ← hfind] at hfound
      cases hfound
    · rename_i live hget
      obtain ⟨hserves, hreply, hfind⟩ := get_eq_ok hget
      rw [desired_gvk] at hserves
      rw [Session.meet_cluster] at hfind
      obtain ⟨hlive, href⟩ := Cluster.find?_eq_some_iff.mp hfind.symm
      have hfinds : Finds server a obj := ⟨hserves, hscope, hreply⟩
      split_ifs at h with hselects
      · obtain ⟨hreaped, hgone⟩ := deleteLive_eq h
        rw [href] at hreaped hgone
        refine ⟨hreaped.mono fun ref href => ⟨hfinds, href⟩, fun hr _ o ho href _ => ?_⟩
        exact hgone hr o ho href
      · cases h
        refine ⟨.refl _ _, fun _ _ o ho horef hsel => ?_⟩
        have heq : o = live := by
          refine List.inj_on_of_nodup_map p.cluster.nodup ho hlive ?_
          rw [horef, href]
          rfl
        rw [heq] at hsel
        exact absurd hsel hselects
    · cases h
      exact ⟨.refl _ _, by simp⟩
  · cases h
    exact ⟨.refl _ _, by simp⟩

/-- An object of the manifest that the client finds has the reference. -/
def Hits (server : Server) (removals : ℕ → Removal) (objs : List Unstructured)
    (ref : ObjectRef) : Prop :=
  ∃ i obj, objs[i]? = some obj ∧ Finds server (removals i) obj ∧ ref = server.target obj

theorem hits_cons : Hits server removals (obj :: objs) ref ↔
    (Finds server (removals 0) obj ∧ ref = server.target obj) ∨
      Hits server (fun i => removals (i + 1)) objs ref := by
  constructor
  · rintro ⟨i, o, ho, hfinds, href⟩
    cases i with
    | zero =>
      cases ho
      exact .inl ⟨hfinds, href⟩
    | succ i => exact .inr ⟨i, o, ho, hfinds, href⟩
  · rintro (⟨hfinds, href⟩ | ⟨i, o, ho, hfinds, href⟩)
    · exact ⟨0, obj, rfl, hfinds, href⟩
    · exact ⟨i + 1, o, ho, hfinds, href⟩

theorem deleteAll_eq (h : deleteAll server opts removals objs p = (p', r)) :
    p.cluster.Reaped (Hits server removals objs) p'.cluster ∧
      (r = .success → ∀ ref, Hits server removals objs ref → ∀ o ∈ p'.cluster.objects,
        o.ref = ref → opts.selects o.labels = true → o.deleting = true) := by
  induction objs generalizing removals p with
  | nil =>
    cases h
    refine ⟨.refl _ _, fun _ ref hhits => ?_⟩
    obtain ⟨i, obj, hobj, -⟩ := hhits
    simp at hobj
  | cons obj objs ih =>
    rcases Stage.andThen_eq h with ⟨hfirst, hr⟩ | ⟨q, hfirst, hrest⟩
    · obtain ⟨hreaped, -⟩ := deleteOne_eq hfirst
      exact ⟨hreaped.mono fun ref hone => hits_cons.mpr (.inl hone), fun h => absurd h hr⟩
    · obtain ⟨hreaped, hgone⟩ := deleteOne_eq hfirst
      obtain ⟨hreaped', hgone'⟩ := ih hrest
      have hlast : q.cluster.Reaped (Hits server removals (obj :: objs)) p'.cluster :=
        hreaped'.mono fun ref hhits => hits_cons.mpr (.inr hhits)
      refine ⟨(hreaped.mono fun ref hone => hits_cons.mpr (.inl hone)).trans hlast,
        fun hr ref hhits => ?_⟩
      rcases hits_cons.mp hhits with ⟨hfinds, rfl⟩ | hhits
      · exact hlast.keeps (hgone rfl hfinds)
      · exact hgone' hr ref hhits

def DeleteOptions.Hits (opts : DeleteOptions) (server : Server) (env : DeleteEnvironment)
    (objs : List Unstructured) (ref : ObjectRef) : Prop :=
  NativeClient.Hits server env.removals (sortForDelete objs) ref ∨
    ∃ key, opts.inventory = some key ∧ ref = inventoryRef key

theorem delete_eq (h : delete server opts env objs c = (p', r)) :
    c.Reaped (opts.Hits server env objs) p'.cluster ∧
      (r = .success → ∀ ref, opts.Hits server env objs ref → ∀ o ∈ p'.cluster.objects,
        o.ref = ref → opts.selects o.labels = true → o.deleting = true) := by
  rcases Stage.andThen_eq h with ⟨hall, hr⟩ | ⟨q, hall, hlast⟩
  · obtain ⟨hreaped, -⟩ := deleteAll_eq hall
    exact ⟨hreaped.mono fun ref hhits => .inl hhits, fun h => absurd h hr⟩
  · obtain ⟨hreaped, hgone⟩ := deleteAll_eq hall
    have hfirst : c.Reaped (opts.Hits server env objs) q.cluster :=
      hreaped.mono fun ref hhits => .inl hhits
    cases hkey : opts.inventory with
    | none =>
      rw [hkey] at hlast
      cases hlast
      refine ⟨hfirst, fun _ ref hhits => ?_⟩
      rcases hhits with hhits | ⟨key, hsome, -⟩
      · exact hgone rfl ref hhits
      · rw [hkey] at hsome
        cases hsome
    | some key =>
      rw [hkey] at hlast
      rcases hsend : (q.toSession.meet env.inventory.delete).send env.inventory.delete false
        (·.delete (inventoryRef key) env.inventory.finalizing) with ⟨s, x⟩
      simp only [deleteInventory, hsend, Prod.mk.injEq] at hlast
      obtain ⟨rfl, hr⟩ := hlast
      obtain ⟨hreaped', hgone'⟩ := send_delete_eq hsend
      have hreaped'' : q.cluster.Reaped (opts.Hits server env objs) s.cluster := by
        refine hreaped'.mono ?_
        rintro ref rfl
        exact .inr ⟨key, hkey, rfl⟩
      refine ⟨hfirst.trans hreaped'', fun hsuccess ref hhits => ?_⟩
      have hx : x = .ok () := by
        by_contra hx
        rw [if_neg hx, hsuccess] at hr
        cases hr
      rcases hhits with hhits | ⟨key', hsome, rfl⟩
      · exact hreaped''.keeps (hgone rfl ref hhits)
      · rw [hkey] at hsome
        cases hsome
        exact fun o ho href _ => hgone' hx o ho href

/-- A call of the applier, or the garbage collector deletes an object that depends on another one,
as the content of a namespace does. A call that the collector breaks into is two calls. -/
inductive DeleteEvent
  | call (server : Server) (opts : DeleteOptions) (env : DeleteEnvironment)
      (objs : List Unstructured)
  | collect (ref owner : ObjectRef) (finalizing : Bool)

/-- Only what depends on an object that is no longer as it was at first is collected. -/
def DeleteEvent.step (dependsOn : ObjectRef → ObjectRef → Bool) (start c : Cluster) :
    DeleteEvent → Cluster
  | .call server opts env objs => (delete server opts env objs c).1.cluster
  | .collect ref owner finalizing =>
    if dependsOn ref owner ∧ c.find? owner ≠ start.find? owner then c.delete ref finalizing else c

/-- A call deletes the object, or one that it depends on. -/
inductive Named (dependsOn : ObjectRef → ObjectRef → Bool) (events : List DeleteEvent) :
    ObjectRef → Prop
  | hit {server : Server} {opts : DeleteOptions} {env : DeleteEnvironment}
      {objs : List Unstructured} {ref : ObjectRef} (mem : .call server opts env objs ∈ events)
      (hits : opts.Hits server env objs ref) : Named dependsOn events ref
  | dependent {ref owner : ObjectRef} (depends : dependsOn ref owner = true)
      (named : Named dependsOn events owner) : Named dependsOn events ref

/-- Deletions, wherever they fail, leave everything as it is that none of them names and that
depends on nothing they name. What is left of the rest is as it was or being deleted. -/
theorem deletions_only_reap (dependsOn : ObjectRef → ObjectRef → Bool) (c : Cluster)
    (events : List DeleteEvent) :
    c.Reaped (Named dependsOn events) (events.foldl (DeleteEvent.step dependsOn c) c) := by
  refine List.foldlRecOn events _ (.refl _ c) fun c' hc' event hevent => ?_
  cases event with
  | call server opts env objs =>
    obtain ⟨hreaped, -⟩ := delete_eq (Prod.eta (delete server opts env objs c')).symm
    exact hc'.trans (hreaped.mono fun _ h => .hit hevent h)
  | collect ref owner finalizing =>
    simp only [DeleteEvent.step]
    split_ifs with hcollect
    · have howner : Named dependsOn events owner := by
        by_contra hnot
        exact hcollect.2 (hc'.agree owner hnot)
      refine hc'.trans ((Cluster.reaped_delete c' ref finalizing).mono ?_)
      rintro _ rfl
      exact .dependent hcollect.1 howner
    · exact hc'

end KubeOne.NativeClient
