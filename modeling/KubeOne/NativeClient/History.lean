import KubeOne.NativeClient.Safety

/-! Prune completeness over a history of calls with one selector and one inventory, which fail
anywhere and between which others act. The inventory records every kind that a later call has to
prune, unless a recorded kind has no mapping: it is passed over, and forgotten when the call
succeeds. -/

namespace KubeOne.NativeClient

open Process Applier List

def Server.Serves (server : Server) (gk : GroupKind) : Prop :=
  ∃ version, server.serves ⟨gk.group, version, gk.kind⟩ = true

/-! ### Histories -/

/-- A call, but for the selector and the inventory that all calls share. -/
structure Call where
  applier : Applier
  server : Server
  env : Environment
  objs : List Unstructured
  pruneTypes : List GroupVersionKind
  dryRun : Bool

inductive Event where
  | call (call : Call)
  | change (c : Cluster)

/-- The cluster, the kinds that the calls so far have set out to apply, and those of them that a
call has forgotten with objects left since the server did not serve them. -/
structure History where
  cluster : Cluster
  kinds : List GroupKind
  gone : Set GroupKind

section Definitions

variable (selector : Selector) (key : ObjectKey)

namespace Call

variable (call : Call)

def opts : ApplyOptions := ⟨some selector, call.pruneTypes, some key, call.dryRun⟩

def run (c : Cluster) : Progress × Status Failure :=
  call.applier.apply call.server call.env call.objs (call.opts selector key) c

/-- Objects are applied once the inventory is prepared. -/
def kinds (c : Cluster) : List GroupKind :=
  if call.dryRun = false ∧ (call.applier.prepareInventory call.env call.objs
      (call.opts selector key) { cluster := c, cancelled := false }).2 = .success then
    groupKinds call.objs
  else []

/-- The types of the options, the defaults, those of the objects, and those of the inventory. -/
def types (c : Cluster) : List GroupVersionKind :=
  call.pruneTypes ++ defaultPruneTypes ++ objectGVKs call.objs ++
    (c.recorded key).filterMap (restMapping call.server call.env)

end Call

namespace History

variable (s : History)

def start (c : Cluster) : History := ⟨c, [], ∅⟩

def step : Event → History
  | .call call =>
    let c := (call.run selector key s.cluster).1.cluster
    let kinds := s.kinds ++ call.kinds selector key s.cluster
    ⟨c, kinds, {gk | gk ∈ kinds ∧ (gk ∈ s.gone ∨ ¬ call.server.Serves gk) ∧
      gk ∉ c.recorded key ∧ ∃ o ∈ c.objects, o.ref.groupKind = gk ∧ selector o.labels = true}⟩
  | .change c => { s with cluster := c }

def run (s : History) (events : List Event) : History := events.foldl (step selector key) s

end History

/-! ### The condition -/

def Unused (c : Cluster) (gk : GroupKind) : Prop :=
  ∀ o ∈ c.objects, o.ref.groupKind = gk → selector o.labels = false

instance (c : Cluster) (gk : GroupKind) : Decidable (Unused selector c gk) :=
  inferInstanceAs (Decidable (∀ o ∈ c.objects, o.ref.groupKind = gk → selector o.labels = false))

/-- The call finds the types of the objects that earlier calls have left. A kind that cannot be
found is not served, or there is nothing to find. Kinds that are no longer served stay so. -/
structure Call.Finds (call : Call) (s : History) : Prop where
  mapped : ∀ gk ∈ s.cluster.recorded key, restMapping call.server call.env gk = none →
    ¬ call.server.Serves gk ∨ Unused selector s.cluster gk
  listed : ∀ gvk ∈ call.types key s.cluster,
    (Lists call.server call.env gvk ∧ isList gvk.kind = false) ∨
      ¬ call.server.Serves gvk.groupKind ∨
      (Unused selector s.cluster gvk.groupKind ∧ gvk.groupKind ∉ groupKinds call.objs)
  gone : ∀ gk ∈ s.gone, ¬ call.server.Serves gk

/-- Others create no objects for the selector of the kinds of the calls, take back no deletion
and keep the inventory. -/
structure History.Quiet (s : History) (c : Cluster) : Prop where
  objects : ∀ o ∈ c.objects, selector o.labels = true → o.ref.groupKind ∈ s.kinds →
    ∃ old ∈ s.cluster.objects, old.ref = o.ref ∧ selector old.labels = true ∧
      (old.deleting = true → o.deleting = true)
  recorded : c.recorded key = s.cluster.recorded key

/-- The condition on the next event. A dry run meets it, and a call with an object that is not
served only has to leave the inventory alone, since it fails in front of the prune. -/
def History.Admits (s : History) : Event → Prop
  | .call call => call.dryRun = false →
    (∀ obj ∈ call.objs, call.server.target obj ≠ inventoryRef key) ∧
      ((∀ obj ∈ call.objs, call.server.serves obj.gvk = true) → call.Finds selector key s)
  | .change c => s.Quiet selector key c

def History.AdmitsAll (s : History) : List Event → Prop
  | [] => True
  | e :: events => s.Admits selector key e ∧ AdmitsAll (s.step selector key e) events

end Definitions

/-! ### The invariant -/

variable {selector : Selector} {key : ObjectKey} {past new : List GroupKind}
  {known : GroupKind → Prop} {c c' : Cluster}

/-- An object that no call has to prune. -/
def Exempt (key : ObjectKey) (o : Live) : Prop :=
  o.deleting = true ∨ o.ref.groupKind = crdGroupKind ∨ isProtected o.ref = true ∨
    o.ref = inventoryRef key

/-- The kinds of the objects that a later call has to prune are recorded or known. -/
def Covered (selector : Selector) (key : ObjectKey) (kinds : List GroupKind)
    (known : GroupKind → Prop) (c : Cluster) : Prop :=
  ∀ o ∈ c.objects, selector o.labels = true → o.ref.groupKind ∈ kinds →
    o.ref.groupKind ∈ c.recorded key ∨ known o.ref.groupKind ∨ Exempt key o

namespace Covered

theorem kinds_left (h : Covered selector key (past ++ new) known c) :
    Covered selector key past known c :=
  fun o ho hsel hkind => h o ho hsel (mem_append_left _ hkind)

section

variable (h : Covered selector key past known c)

include h

theorem weaken {known' : GroupKind → Prop}
    (hknown : ∀ gk, known gk → known' gk) : Covered selector key past known' c :=
  fun o ho hsel hkind => (h o ho hsel hkind).imp_right fun h => h.imp_left (hknown _)

theorem of_agree
    (hagree : c.AgreeOff (fun _ => False) c') : Covered selector key past known c' := by
  intro o ho hsel hkind
  rw [recorded_of_agreeOff hagree not_false]
  exact h o (hagree.mem ho not_false) hsel hkind

theorem records (hrecords : Records key (c.recorded key ++ new) c c') :
    Covered selector key (past ++ new) known c' := by
  intro o ho hsel hkind
  have hwf := c'.wellFormed o ho
  by_cases href : o.ref = inventoryRef key
  · exact .inr (.inr (.inr (.inr (.inr href))))
  rcases mem_append.mp hkind with hkind | hkind
  · rcases h o (hrecords.1.agree.mem ho href) hsel hkind with hin | hrest
    · exact .inl (hrecords.2 _ (mem_append_left _ hin) hwf)
    · exact .inr hrest
  · exact .inl (hrecords.2 _ (mem_append_right _ hkind) hwf)

theorem advanced {server : Server} {objs : List Unstructured}
    (hagree : c.AgreeOff (server.Targets objs) c')
    (hinventory : ∀ obj ∈ objs, server.target obj ≠ inventoryRef key)
    (hkinds : ∀ gk ∈ groupKinds objs, gk.wellFormed = true → gk ∈ c.recorded key) :
    Covered selector key past known c' := by
  have hrecorded : c'.recorded key = c.recorded key := by
    refine recorded_of_agreeOff hagree ?_
    rintro ⟨obj, hobj, href⟩
    exact hinventory obj hobj href.symm
  intro o ho hsel hkind
  rw [hrecorded]
  by_cases htarget : server.Targets objs o.ref
  · obtain ⟨obj, hobj, href⟩ := htarget
    refine .inl (hkinds _ ?_ (c'.wellFormed o ho))
    rw [href, Server.target_groupKind]
    exact mem_map_of_mem hobj
  · exact h o (hagree.mem ho htarget) hsel hkind

end

theorem swept {D : Live → Prop} {dryRun : Bool} {deleted : List Live} {p p' : Progress}
    (h : Covered selector key past known p.cluster) (hswept : Swept D dryRun deleted p p')
    (hinventory : ∀ o, D o → o.ref ≠ inventoryRef key) :
    Covered selector key past known p'.cluster := by
  have hrecorded : p'.cluster.recorded key = p.cluster.recorded key := by
    refine recorded_of_agreeOff hswept.cluster ?_
    rintro ⟨o, ho, href⟩
    exact hinventory o (hswept.doomed o ho) href
  intro o ho hsel hkind
  rw [hrecorded]
  rcases hswept.survivors o ho with ho | hdel
  · exact h o ho hsel hkind
  · exact .inr (.inr (.inl hdel))

end Covered

/-! ### One call -/

namespace Call

variable {call : Call} {s : History} {p p' : Progress} {r : Status Failure}

/-- What a call that succeeds may leave besides what it has applied. -/
def Settled (call : Call) (key : ObjectKey) (applied : List ObjectRef) (o : Live) : Prop :=
  o.ref ∈ applied ∨ o.ref = inventoryRef key ∨ o.deleting = true ∨
    (o.ref.groupKind = crdGroupKind ∧ crdGroupKind ∉ call.pruneTypes.map (·.groupKind)) ∨
    isProtected o.ref = true ∨ ¬ call.server.Serves o.ref.groupKind

/-- The phases of a call with success, from the cluster `c`. -/
structure Phased (call : Call) (key : ObjectKey) (c : Cluster) (p : Progress) : Prop where
  previousKinds : p.previousKinds = c.recorded key
  widened : ∃ c₁, Records key (c.recorded key ++ groupKinds call.objs) c c₁ ∧
    c₁.AgreeOff (call.server.Targets call.objs) p.cluster
  applied : ∀ ref ∈ p.result.applied, ref.groupKind ∈ groupKinds call.objs
  serves : p.cancelled = false → ∀ obj ∈ call.objs, call.server.serves obj.gvk = true

theorem phases_eq (hdry : call.dryRun = false)
    (hphases : call.applier.phases call.server call.env call.objs (call.opts selector key)
      { cluster := c, cancelled := false } = (p, r))
    (hcovered : Covered selector key past known c)
    (hinventory : ∀ obj ∈ call.objs, call.server.target obj ≠ inventoryRef key) :
    Covered selector key (past ++ call.kinds selector key c) known p.cluster ∧
      (r = .success → call.kinds selector key c = groupKinds call.objs ∧ Phased call key c p) := by
  rcases phases_split hphases with ⟨hprepare, hr⟩ | ⟨q, hprepare, hadvanced, hdone⟩
  · obtain ⟨-, -, -, -, hwrite, -⟩ := prepareInventory_eq hprepare
    have hkinds : call.kinds selector key c = [] := by
      simp only [kinds, hprepare, hr, and_false, if_false]
    rw [hkinds, append_nil]
    refine ⟨?_, fun h => absurd h hr⟩
    rcases (hwrite key rfl hdry).1 with hsame | hrecords
    · rw [hsame]
      exact hcovered
    · exact (hcovered.records hrecords).kinds_left
  · obtain ⟨-, hresult, -, -, hwrite, -⟩ := prepareInventory_eq hprepare
    obtain ⟨hprevious, hrecords⟩ := (hwrite key rfl hdry).2 rfl
    have hkinds : call.kinds selector key c = groupKinds call.objs := by
      simp only [kinds, hprepare, hdry, and_self, if_true]
    rw [hkinds]
    refine ⟨(hcovered.records hrecords).advanced hadvanced.cluster.agree hinventory ?_,
      fun hr => ?_⟩
    · exact fun gk hgk hwf => hrecords.2 gk (mem_append_right _ hgk) hwf
    · obtain ⟨refs, hrefs, hall⟩ := hdone hr
      have happlied : p.result.applied = refs := by
        rw [hrefs, hresult]
        rfl
      refine ⟨rfl, hadvanced.previousKinds.trans hprevious, ⟨q.cluster, hrecords,
        hadvanced.cluster.agree⟩, fun ref href => ?_, fun hactive obj hobj => ?_⟩
      · rw [happlied] at href
        obtain ⟨obj, hobj, hkind⟩ := mem_map.mp (hall.kinds ref href)
        exact mem_map.mpr ⟨obj, mem_phaseOrder.mp hobj, hkind⟩
      · rcases hall.refs with hc | ⟨-, hserves⟩
        · rw [hactive] at hc
          cases hc
        · exact hserves obj (mem_phaseOrder.mpr hobj)

theorem Phased.origin (h : Phased call key c p) {o : Live} (ho : o ∈ p.cluster.objects) :
    o.ref.groupKind ∈ groupKinds call.objs ∨ o.ref = inventoryRef key ∨ o ∈ c.objects := by
  obtain ⟨c₁, hrecords, hagree⟩ := h.widened
  by_cases htarget : call.server.Targets call.objs o.ref
  · obtain ⟨obj, hobj, href⟩ := htarget
    left
    rw [href, Server.target_groupKind]
    exact mem_map_of_mem hobj
  · by_cases href : o.ref = inventoryRef key
    · exact .inr (.inl href)
    · exact .inr (.inr (hrecords.1.agree.mem (hagree.mem ho htarget) href))

theorem looked_at (hphased : Phased call key s.cluster p)
    (hcovered : Covered selector key s.kinds (· ∈ s.gone) s.cluster)
    (hfinds : call.Finds selector key s) {o : Live} (hsel : selector o.labels = true)
    (hkind : o.ref.groupKind ∈ s.kinds ++ groupKinds call.objs)
    (horigin : o.ref.groupKind ∈ groupKinds call.objs ∨ o ∈ s.cluster.objects)
    (hnot : ¬ call.Settled key p.result.applied o) :
    o.ref.groupKind ∈ call.pruneTypes.map (·.groupKind) ∨ o.ref.groupKind ≠ crdGroupKind ∧
      (o.ref.groupKind ∈ (defaultPruneTypes ++ objectGVKs call.objs).map (·.groupKind) ∨
        o.ref.groupKind ∈ p.previousKinds ∧
          restMapping call.server call.env o.ref.groupKind ≠ none) := by
  by_cases hcrd : o.ref.groupKind = crdGroupKind
  · left
    by_contra hnotin
    rw [hcrd] at hnotin
    exact hnot (.inr (.inr (.inr (.inl ⟨hcrd, hnotin⟩))))
  right
  refine ⟨hcrd, ?_⟩
  by_cases hobj : o.ref.groupKind ∈ groupKinds call.objs
  · left
    obtain ⟨obj, hmem, hgk⟩ := mem_map.mp hobj
    refine mem_map.mpr ⟨obj.gvk, mem_append_right _ ?_, hgk⟩
    exact mem_map_of_mem hmem
  have hin : o ∈ s.cluster.objects := horigin.resolve_left hobj
  have hpast : o.ref.groupKind ∈ s.kinds := (mem_append.mp hkind).resolve_right hobj
  rcases hcovered o hin hsel hpast with hrecorded | hgone | hexempt
  · right
    rw [hphased.previousKinds]
    refine ⟨hrecorded, fun hnone => ?_⟩
    rcases hfinds.mapped _ hrecorded hnone with hunserved | hunused
    · exact hnot (.inr (.inr (.inr (.inr (.inr hunserved)))))
    · rw [hunused o hin rfl] at hsel
      cases hsel
  · exact absurd (.inr (.inr (.inr (.inr (.inr (hfinds.gone _ hgone)))))) hnot
  · rcases hexempt with hdel | hcrd' | hprotected | href
    · exact absurd (.inr (.inr (.inl hdel))) hnot
    · exact absurd hcrd' hcrd
    · exact absurd (.inr (.inr (.inr (.inr (.inl hprotected))))) hnot
    · exact absurd (.inr (.inl href)) hnot

theorem prune_settles (hdry : call.dryRun = false) (hphased : Phased call key s.cluster p)
    (hcovered : Covered selector key s.kinds (· ∈ s.gone) s.cluster)
    (hfinds : (∀ obj ∈ call.objs, call.server.serves obj.gvk = true) → call.Finds selector key s)
    (hprune : pruneStale call.server call.env call.objs (call.opts selector key) p =
      (p', .success)) :
    ∀ o ∈ p'.cluster.objects, selector o.labels = true →
      o.ref.groupKind ∈ s.kinds ++ groupKinds call.objs → call.Settled key p.result.applied o := by
  obtain ⟨⟨deleted, hswept⟩, hdone⟩ := prune_eq (fun _ h => h) (fun _ h => .inl h) hprune
  have hactive : p.cancelled = false := active_of_prune (pruneGVKs_ne_nil _ _ _ _ _) hprune
  have hfinds := hfinds (hphased.serves hactive)
  intro o ho hsel hkind
  by_contra hnot
  have hold : o ∈ p.cluster.objects := by
    refine (hswept.survivors o ho).resolve_right fun hdel => hnot ?_
    exact .inr (.inr (.inl hdel))
  have horigin : o.ref.groupKind ∈ groupKinds call.objs ∨ o ∈ s.cluster.objects := by
    rcases hphased.origin hold with hobj | href | hin
    · exact .inl hobj
    · exact absurd (.inr (.inl href)) hnot
    · exact .inr hin
  obtain ⟨gvk, hgvk, hgk⟩ : ∃ gvk ∈ pruneGVKs call.server call.env call.objs
      (call.opts selector key) p.previousKinds, gvk.groupKind = o.ref.groupKind :=
    pruneGVKs_covers (looked_at hphased hcovered hfinds hsel hkind horigin hnot)
  have htypes : gvk ∈ call.types key s.cluster := by
    simp only [types, ← hphased.previousKinds, mem_append, mem_filterMap]
    rcases mem_pruneGVKs hgvk with hin | ⟨-, hin | hin | hin⟩
    · exact .inl (.inl (.inl hin))
    · exact .inl (.inl (.inr hin))
    · exact .inl (.inr hin)
    · exact .inr hin
  rcases hfinds.listed gvk htypes with ⟨hlists, hlist⟩ | hgone | ⟨hunused, hnotin⟩
  · have hitem : (itemGVK (listGVK gvk)).groupKind = o.ref.groupKind := by
      rw [itemGVK_listGVK hlist, hgk]
    rcases hdone rfl hdry gvk hgvk hlists o ho hsel hitem with hkept | hdel | hprotected
    · rcases mem_append.mp hkept with happlied | hinventory
      · exact hnot (.inl happlied)
      · exact hnot (.inr (.inl (mem_singleton.mp hinventory)))
    · exact hnot (.inr (.inr (.inl hdel)))
    · exact hnot (.inr (.inr (.inr (.inr (.inl hprotected)))))
  · rw [hgk] at hgone
    exact hnot (.inr (.inr (.inr (.inr (.inr hgone)))))
  · rw [hgk] at hunused hnotin
    rcases horigin with hobj | hin
    · exact hnotin hobj
    · rw [hunused o hin rfl] at hsel
      cases hsel

theorem run_eq (hdry : call.dryRun = false)
    (hcovered : Covered selector key s.kinds (· ∈ s.gone) s.cluster)
    (hadmits : s.Admits selector key (.call call))
    (hrun : call.run selector key s.cluster = (p', r)) :
    Covered selector key (s.kinds ++ call.kinds selector key s.cluster)
        (fun gk => gk ∈ s.gone ∨ ¬ call.server.Serves gk) p'.cluster ∧
      (r = .success → ∀ o ∈ p'.cluster.objects, selector o.labels = true →
        o.ref.groupKind ∈ s.kinds ++ groupKinds call.objs →
          call.Settled key p'.result.applied o) := by
  obtain ⟨hinventory, hfinds⟩ := hadmits hdry
  rcases Stage.andThen_eq hrun with ⟨hphases, hr⟩ | ⟨p, hphases, hrest⟩
  · obtain ⟨hcovered', -⟩ := phases_eq hdry hphases hcovered hinventory
    exact ⟨hcovered'.weaken fun _ h => .inl h, fun h => absurd h hr⟩
  obtain ⟨hcovered', hphased⟩ := phases_eq hdry hphases hcovered hinventory
  obtain ⟨hkinds, hphased⟩ := hphased rfl
  have hswept : ∀ {q r₂}, pruneStale call.server call.env call.objs (call.opts selector key) p =
      (q, r₂) → Covered selector key (s.kinds ++ call.kinds selector key s.cluster)
        (· ∈ s.gone) q.cluster ∧ q.result.applied = p.result.applied := by
    intro q r₂ hprune
    obtain ⟨⟨deleted, hswept⟩, -⟩ := prune_eq (fun _ h => h) (fun _ h => .inl h) hprune
    refine ⟨hcovered'.swept hswept fun o hstale href => hstale.stray (.inl ?_), hswept.applied⟩
    exact mem_append_right _ (mem_singleton.mpr href)
  rcases Stage.andThen_eq hrest with ⟨hprune, hr⟩ | ⟨q, hprune, hfinal⟩
  · exact ⟨(hswept hprune).1.weaken fun _ h => .inl h, fun h => absurd h hr⟩
  obtain ⟨hcovered₂, happlied⟩ := hswept hprune
  obtain ⟨-, hresult, hcluster⟩ := finalizeInventory_eq hfinal
  have hsettled : ∀ o ∈ p'.cluster.objects, selector o.labels = true →
      o.ref.groupKind ∈ s.kinds ++ groupKinds call.objs → call.Settled key p'.result.applied o := by
    intro o ho hsel hkind
    by_cases href : o.ref = inventoryRef key
    · exact .inr (.inl href)
    · rw [hresult, happlied]
      refine prune_settles hdry hphased hcovered hfinds hprune o ?_ hsel hkind
      rcases hcluster with hsame | ⟨-, _, ⟨⟩, hrecords⟩
      · rwa [← hsame]
      · exact hrecords.1.agree.mem ho href
  refine ⟨?_, fun _ => hsettled⟩
  rcases hcluster with hsame | ⟨-, _, ⟨⟩, hrecords⟩
  · rw [hsame]
    exact hcovered₂.weaken fun _ h => .inl h
  · intro o ho hsel hkind
    rw [hkinds] at hkind
    rcases hsettled o ho hsel hkind with hin | href | hdel | ⟨hcrd, -⟩ | hprotected | hunserved
    · rw [hresult, happlied] at hin
      exact .inl (hrecords.2 _ (hphased.applied _ hin) (p'.cluster.wellFormed o ho))
    · exact .inr (.inr (.inr (.inr (.inr href))))
    · exact .inr (.inr (.inl hdel))
    · exact .inr (.inr (.inr (.inl hcrd)))
    · exact .inr (.inr (.inr (.inr (.inl hprotected))))
    · exact .inr (.inl (.inr hunserved))

end Call

/-! ### All calls -/

namespace History

variable {s : History}

def Safe (selector : Selector) (key : ObjectKey) (s : History) : Prop :=
  Covered selector key s.kinds (· ∈ s.gone) s.cluster

theorem Safe.step (h : s.Safe selector key) {e : Event} (hadmits : s.Admits selector key e) :
    (s.step selector key e).Safe selector key := by
  cases e with
  | call call =>
    have hcovered : Covered selector key (s.kinds ++ call.kinds selector key s.cluster)
        (fun gk => gk ∈ s.gone ∨ ¬ call.server.Serves gk)
        (call.run selector key s.cluster).1.cluster := by
      cases hdry : call.dryRun with
      | false => exact (Call.run_eq hdry h hadmits rfl).1
      | true =>
        have hkinds : call.kinds selector key s.cluster = [] := by simp [Call.kinds, hdry]
        rw [hkinds, append_nil]
        exact (h.of_agree (apply_dryRun hdry)).weaken fun _ h => .inl h
    intro o ho hsel hkind
    by_cases hrecorded : o.ref.groupKind ∈ (call.run selector key s.cluster).1.cluster.recorded key
    · exact .inl hrecorded
    · rcases hcovered o ho hsel hkind with hin | hknown | hexempt
      · exact absurd hin hrecorded
      · exact .inr (.inl ⟨hkind, hknown, hrecorded, o, ho, rfl, hsel⟩)
      · exact .inr (.inr hexempt)
  | change c =>
    intro o ho hsel hkind
    obtain ⟨old, hold, href, hselold, hdel⟩ := hadmits.objects o ho hsel hkind
    rw [← href] at hkind ⊢
    rcases h old hold hselold hkind with hrecorded | hgone | hexempt
    · left
      show old.ref.groupKind ∈ c.recorded key
      rwa [hadmits.recorded]
    · exact .inr (.inl hgone)
    · right; right
      rcases hexempt with h | h | h | h
      · exact .inl (hdel h)
      · exact .inr (.inl (href ▸ h))
      · exact .inr (.inr (.inl (href ▸ h)))
      · exact .inr (.inr (.inr (href ▸ h)))

theorem Safe.run (h : s.Safe selector key) {events : List Event}
    (hadmits : s.AdmitsAll selector key events) :
    (s.run selector key events).Safe selector key := by
  induction events generalizing s with
  | nil => exact h
  | cons e events ih => exact ih (h.step hadmits.1) hadmits.2

theorem Safe.settles (h : s.Safe selector key) {call : Call}
    (hadmits : s.Admits selector key (.call call)) (hdry : call.dryRun = false)
    (hsuccess : (call.run selector key s.cluster).2 = .success) :
    ∀ o ∈ (call.run selector key s.cluster).1.cluster.objects, selector o.labels = true →
      o.ref.groupKind ∈ s.kinds ++ groupKinds call.objs →
        call.Settled key (call.run selector key s.cluster).1.result.applied o :=
  (Call.run_eq hdry h hadmits rfl).2 hsuccess

theorem safe_start (selector : Selector) (key : ObjectKey) (c : Cluster) :
    (start c).Safe selector key := by
  intro o _ _ hkind
  cases hkind

end History

/-- After any history that meets the condition, a call that succeeds leaves no object of a kind
that was ever applied, but for what it has applied itself, the inventory, objects on their way
out, CustomResourceDefinitions that its options do not list, protected namespaces, and objects
of kinds that are not served. -/
theorem success_leaves_nothing_stale (selector : Selector) (key : ObjectKey) (c : Cluster)
    (events : List Event) (call : Call)
    (hpast : (History.start c).AdmitsAll selector key events)
    (hlast : ((History.start c).run selector key events).Admits selector key (.call call))
    (hdry : call.dryRun = false)
    (hsuccess :
      (call.run selector key ((History.start c).run selector key events).cluster).2 = .success) :
    let s := (History.start c).run selector key events
    let p := (call.run selector key s.cluster).1
    ∀ o ∈ p.cluster.objects, selector o.labels = true →
      o.ref.groupKind ∈ s.kinds ++ groupKinds call.objs → call.Settled key p.result.applied o :=
  ((History.safe_start selector key c).run hpast).settles hlast hdry hsuccess

namespace Addon

def inventory : ObjectKey := ⟨"kube-system", "kubeone-addon-metrics-server"⟩

def settings : Unstructured := object configMap "kube-system" "settings"

def account : Unstructured := object serviceAccount "kube-system" "metrics-server"

def install : Call where
  applier := .new
  server := apiServer
  env := { rest := inTurn 2 }
  objs := [settings, account]
  pruneTypes := []
  dryRun := false

def upgrade (restMapping : GroupKind → Option String) : Call where
  applier := .new
  server := apiServer
  env := { rest := inTurn 1, restMapping := restMapping }
  objs := [settings]
  pruneTypes := []
  dryRun := false

def installed : History := (History.start empty).run Addon.selector inventory [.call install]

/-- The mapping of a served kind fails once, and the ServiceAccount stays for good. -/
theorem failed_mapping_leaves_account :
    let old := left serviceAccount "kube-system" "metrics-server"
    let last := (upgrade fun _ => none).run Addon.selector inventory installed.cluster
    last.2 = .success ∧ old ∈ last.1.cluster.objects ∧ Addon.selector old.labels = true ∧
      old.ref.groupKind ∈ installed.kinds ∧ apiServer.serves serviceAccount = true ∧
      old.ref ∉ last.1.result.applied ∧ old.ref ≠ inventoryRef inventory ∧
      old.deleting = false ∧ old.ref.groupKind ≠ crdGroupKind ∧ isProtected old.ref = false ∧
      old.ref.groupKind ∉ last.1.cluster.recorded inventory := by
  decide +kernel

theorem admits_install :
    (History.start empty).AdmitsAll Addon.selector inventory [.call install] := by
  refine ⟨fun _ => ⟨by decide, fun _ => ⟨?_, ?_, ?_⟩⟩, trivial⟩
  · have hrecorded : empty.recorded inventory = [] := by decide
    intro gk hgk
    rw [History.start, hrecorded] at hgk
    cases hgk
  · have hlisted : ∀ gvk ∈ install.types inventory empty,
        (Lists install.server install.env gvk ∧ isList gvk.kind = false) ∨
          (Unused Addon.selector empty gvk.groupKind ∧
            gvk.groupKind ∉ groupKinds install.objs) := by decide +kernel
    exact fun gvk hgvk => (hlisted gvk hgvk).imp_right .inr
  · intro gk hgk
    cases hgk

/-- With its mapping the ServiceAccount is pruned. -/
theorem upgrade_settles :
    let last := (upgrade fun _ => some "v1").run Addon.selector inventory installed.cluster
    last.2 = .success ∧ ∀ o ∈ last.1.cluster.objects, Addon.selector o.labels = true →
      o.ref.groupKind ∈ installed.kinds ++ groupKinds [settings] →
        (upgrade fun _ => some "v1").Settled inventory last.1.result.applied o := by
  have hsuccess : ((upgrade fun _ => some "v1").run Addon.selector inventory
      installed.cluster).2 = .success := by decide +kernel
  have hadmits : installed.Admits Addon.selector inventory
      (.call (upgrade fun _ => some "v1")) := by
    refine fun _ => ⟨by decide, fun _ => ⟨?_, ?_, ?_⟩⟩
    · have hmapped : ∀ gk ∈ installed.cluster.recorded inventory,
          restMapping apiServer (upgrade fun _ => some "v1").env gk ≠ none := by decide +kernel
      exact fun gk hgk hnone => absurd hnone (hmapped gk hgk)
    · have hlisted : ∀ gvk ∈ (upgrade fun _ => some "v1").types inventory installed.cluster,
          (Lists apiServer (upgrade fun _ => some "v1").env gvk ∧ isList gvk.kind = false) ∨
            (Unused Addon.selector installed.cluster gvk.groupKind ∧
              gvk.groupKind ∉ groupKinds [settings]) := by decide +kernel
      exact fun gvk hgvk => (hlisted gvk hgvk).imp_right .inr
    · rintro gk ⟨-, hgone | hunserved, -⟩
      · cases hgone
      · exact hunserved
  exact ⟨hsuccess, success_leaves_nothing_stale Addon.selector inventory empty [.call install]
    (upgrade fun _ => some "v1") admits_install hadmits rfl hsuccess⟩

end Addon

end KubeOne.NativeClient
