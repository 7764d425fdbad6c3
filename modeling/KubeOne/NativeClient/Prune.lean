import KubeOne.NativeClient.Phases

/-! The prune of a call: the types it looks at, which objects it requests to delete, and that
after a success no stale object of a listed type is left. -/

namespace KubeOne.NativeClient

open Process Applier List Types

variable {server : Server} {env : Environment} {opts : ApplyOptions} {objs : List Unstructured}

namespace Applier.Types

/-- Every kind that is taken care of has a type, but for the exceptions. -/
def Covers (except : GroupKind → Prop) (t : Types) : Prop :=
  ∀ gk ∈ t.seen, except gk ∨ ∃ gvk ∈ t.gvks, gvk.groupKind = gk

variable {t : Types} {gvk : GroupVersionKind} {gvks : List GroupVersionKind}
  {except : GroupKind → Prop}

theorem Covers.add (h : t.Covers except) (gvk : GroupVersionKind) : (t.add gvk).Covers except := by
  unfold Types.add
  split_ifs
  · exact h
  · intro gk hgk
    rcases mem_append.mp hgk with hgk | hgk
    · refine (h gk hgk).imp_right ?_
      rintro ⟨gvk', hmem, hkind⟩
      exact ⟨gvk', mem_append_left _ hmem, hkind⟩
    · exact .inr ⟨gvk, mem_append_right _ (mem_singleton_self _), (mem_singleton.mp hgk).symm⟩

theorem Covers.foldl (h : t.Covers except) : (gvks.foldl Types.add t).Covers except := by
  induction gvks generalizing t with
  | nil => exact h
  | cons gvk gvks ih => exact ih (h.add gvk)

variable {gk : GroupKind}

theorem mem_add_seen : gk ∈ (t.add gvk).seen ↔ gk ∈ t.seen ∨ gk = gvk.groupKind := by
  unfold add
  split_ifs with hseen
  · refine (or_iff_left_of_imp ?_).symm
    rintro rfl
    exact hseen
  · rw [mem_append, mem_singleton]

theorem mem_foldl_seen : gk ∈ (gvks.foldl add t).seen ↔
    gk ∈ t.seen ∨ ∃ gvk ∈ gvks, gvk.groupKind = gk := by
  induction gvks generalizing t with
  | nil => simp
  | cons gvk gvks ih =>
    rw [foldl_cons, ih, mem_add_seen, or_assoc, exists_mem_cons_iff, eq_comm (a := gk)]

theorem mem_foldl_gvks (h : gvk ∈ (gvks.foldl add t).gvks) :
    gvk ∈ t.gvks ∨ gvk ∈ gvks ∧ gvk.groupKind ∉ t.seen := by
  induction gvks generalizing t with
  | nil => exact .inl h
  | cons first gvks ih =>
    rcases ih h with hadd | ⟨hmem, hseen⟩
    · unfold add at hadd
      split_ifs at hadd with hfirst
      · exact .inl hadd
      · rcases mem_append.mp hadd with hadd | hadd
        · exact .inl hadd
        · rw [mem_singleton.mp hadd]
          exact .inr ⟨mem_cons_self, hfirst⟩
    · refine .inr ⟨mem_cons_of_mem _ hmem, fun hin => hseen ?_⟩
      exact mem_add_seen.mpr (.inl hin)

end Applier.Types

theorem restMapping_eq_some {gvk : GroupVersionKind} (h : restMapping server env gk = some gvk) :
    gvk.groupKind = gk ∧ server.serves gvk = true := by
  obtain ⟨version, -, h⟩ := Option.bind_eq_some_iff.mp h
  split_ifs at h with hserves
  cases h
  exact ⟨rfl, hserves⟩

section PruneGVKs

variable {previousKinds : List GroupKind} {gvk : GroupVersionKind} {gk : GroupKind}

theorem mem_pruneGVKs (h : gvk ∈ pruneGVKs server env objs opts previousKinds) :
    gvk ∈ opts.pruneTypes ∨ gvk.groupKind ≠ crdGroupKind ∧
      (gvk ∈ defaultPruneTypes ∨ gvk ∈ objectGVKs objs ∨
        ∃ gk ∈ previousKinds, restMapping server env gk = some gvk) := by
  have hcrd : ∀ {t : Types}, crdGroupKind ∈ t.seen → gvk.groupKind ∉ t.seen →
      gvk.groupKind ≠ crdGroupKind := by
    intro t hin hout heq
    exact hout (heq ▸ hin)
  rcases mem_foldl_gvks h with h | ⟨hmem, hseen⟩
  · rcases mem_foldl_gvks h with h | ⟨hmem, hseen⟩
    · rcases mem_foldl_gvks h with h | ⟨hmem, -⟩
      · cases h
      · exact .inl hmem
    · refine .inr ⟨hcrd (mem_append_right _ (mem_singleton_self _)) hseen, ?_⟩
      rcases mem_append.mp hmem with hmem | hmem
      · exact .inl hmem
      · exact .inr (.inl hmem)
  · obtain ⟨gk, hgk, hgvk⟩ := mem_filterMap.mp hmem
    rw [mem_insertionSort, mem_filter, mem_dedup] at hgk
    refine .inr ⟨hcrd (mem_foldl_seen.mpr (.inl ?_)) hseen, .inr (.inr ⟨gk, hgk.1, hgvk⟩)⟩
    exact mem_append_right _ (mem_singleton_self _)

theorem pruneGVKs_covers (h : gk ∈ opts.pruneTypes.map (·.groupKind) ∨ gk ≠ crdGroupKind ∧
    (gk ∈ (defaultPruneTypes ++ objectGVKs objs).map (·.groupKind) ∨
      gk ∈ previousKinds ∧ restMapping server env gk ≠ none)) :
    ∃ gvk ∈ pruneGVKs server env objs opts previousKinds, gvk.groupKind = gk := by
  set requested := opts.pruneTypes.foldl add ⟨[], []⟩ with hrequested
  set implied := (defaultPruneTypes ++ objectGVKs objs).foldl add
    { requested with seen := requested.seen ++ [crdGroupKind] } with himplied
  set previous := (previousKinds.dedup.filter (· ∉ implied.seen)).insertionSort
    (fun a b => a.text ≤ b.text) with hprevious
  have hcovers : Covers (fun gk => gk = crdGroupKind ∧
      gk ∉ opts.pruneTypes.map (·.groupKind))
      ((previous.filterMap (restMapping server env)).foldl add implied) := by
    refine Types.Covers.foldl (Types.Covers.foldl ?_)
    have hstart : requested.Covers fun _ => False := Types.Covers.foldl (by simp [Types.Covers])
    intro gk hgk
    rcases mem_append.mp hgk with hgk | hgk
    · exact .inr ((hstart gk hgk).resolve_left id)
    · by_cases hin : gk ∈ opts.pruneTypes.map (·.groupKind)
      · right
        obtain ⟨gvk, hgvk, hkind⟩ := mem_map.mp hin
        exact (hstart gk (mem_foldl_seen.mpr (.inr ⟨gvk, hgvk, hkind⟩))).resolve_left id
      · exact .inl ⟨mem_singleton.mp hgk, hin⟩
  have hseen : gk ∈ ((previous.filterMap (restMapping server env)).foldl add implied).seen := by
    rw [mem_foldl_seen]
    by_cases himp : gk ∈ implied.seen
    · exact .inl himp
    · right
      rcases h with hin | ⟨-, himplied | ⟨hprev, hmap⟩⟩
      · exfalso
        obtain ⟨gvk, hgvk, hkind⟩ := mem_map.mp hin
        refine himp (mem_foldl_seen.mpr (.inl (mem_append_left _ ?_)))
        exact mem_foldl_seen.mpr (.inr ⟨gvk, hgvk, hkind⟩)
      · exfalso
        obtain ⟨gvk, hgvk, hkind⟩ := mem_map.mp himplied
        exact himp (mem_foldl_seen.mpr (.inr ⟨gvk, hgvk, hkind⟩))
      · obtain ⟨gvk, hgvk⟩ := Option.ne_none_iff_exists'.mp hmap
        refine ⟨gvk, mem_filterMap.mpr ⟨gk, ?_, hgvk⟩, (restMapping_eq_some hgvk).1⟩
        rw [hprevious, mem_insertionSort, mem_filter, mem_dedup]
        exact ⟨hprev, by simpa using himp⟩
  rcases hcovers gk hseen with ⟨hcrd, hnot⟩ | hfound
  · rcases h with hin | ⟨hne, -⟩
    · exact absurd hin hnot
    · exact absurd hcrd hne
  · exact hfound

theorem pruneGVKs_ne_nil (server : Server) (env : Environment) (objs : List Unstructured)
    (opts : ApplyOptions) (previousKinds : List GroupKind) :
    pruneGVKs server env objs opts previousKinds ≠ [] := by
  have hdefault : namespaceGroupKind ∈ defaultPruneTypes.map (·.groupKind) := by decide
  obtain ⟨gvk, hgvk, -⟩ : ∃ gvk ∈ pruneGVKs server env objs opts previousKinds,
      gvk.groupKind = namespaceGroupKind := by
    refine pruneGVKs_covers (.inr ⟨by decide, .inl ?_⟩)
    exact mem_append_left _ hdefault
  exact ne_nil_of_mem hgvk

end PruneGVKs

/-- From `p` to `p'` a prune has requested the deletions `new`, all of which satisfy `D`, and has
changed nothing else in the cluster. -/
structure Swept (D : Live → Prop) (dryRun : Bool) (new : List Live) (p p' : Progress) : Prop where
  cancelled : p'.cancelled = p.cancelled
  applied : p'.result.applied = p.result.applied
  deletions : p'.deletions = p.deletions ++ new
  doomed : ∀ o ∈ new, D o
  active : new ≠ [] → p.cancelled = false
  dryRun : dryRun = true → new = []
  cluster : p.cluster.AgreeOff (fun ref => ∃ o ∈ new, o.ref = ref) p'.cluster
  survivors : ∀ o ∈ p'.cluster.objects, o ∈ p.cluster.objects ∨ o.deleting = true

variable {D : Live → Prop} {dryRun : Bool} {p p' q : Progress} {new new' : List Live}
  {r : Status Failure} {applied : List ObjectRef} {selector : Selector}

theorem Swept.refl (D : Live → Prop) (dryRun : Bool) (p : Progress) : Swept D dryRun [] p p :=
  ⟨rfl, rfl, by simp, by simp, by simp, fun _ => rfl, .refl _ _, fun _ ho => .inl ho⟩

theorem Swept.trans (h : Swept D dryRun new p q) (h' : Swept D dryRun new' q p') :
    Swept D dryRun (new ++ new') p p' := by
  refine ⟨h'.cancelled.trans h.cancelled, h'.applied.trans h.applied, ?_, fun o ho => ?_,
    fun hne => ?_, fun hdry => ?_, ?_, fun o ho => ?_⟩
  · rw [h'.deletions, h.deletions, append_assoc]
  · rcases mem_append.mp ho with ho | ho
    · exact h.doomed o ho
    · exact h'.doomed o ho
  · by_cases hnew : new = []
    · rw [← h.cancelled]
      exact h'.active (by simpa [hnew] using hne)
    · exact h.active hnew
  · rw [h.dryRun hdry, h'.dryRun hdry, append_nil]
  · refine Cluster.AgreeOff.trans (h.cluster.mono ?_) (h'.cluster.mono ?_)
    · rintro ref ⟨o, ho, href⟩
      exact ⟨o, mem_append_left _ ho, href⟩
    · rintro ref ⟨o, ho, href⟩
      exact ⟨o, mem_append_right _ ho, href⟩
  · rcases h'.survivors o ho with ho | hdel
    · exact h.survivors o ho
    · exact .inr hdel

/-- How a stage leaves a prune. After a success its objects are those of `A`. -/
def Sweeping (D : Live → Prop) (dryRun : Bool) (p p' : Progress) (r : Status Failure)
    (A : List Live → Prop) : Prop :=
  (∃ new, Swept D dryRun new p p') ∧ (r = .success → dryRun = false → A p'.cluster.objects)

/-- What holds of fewer objects and of those that are deleted stays. -/
theorem Sweeping.andThen {first rest : Stage Progress Failure} {A B : List Live → Prop}
    (hfirst : ∀ {q r}, first p = (q, r) → Sweeping D dryRun p q r A)
    (hA : ∀ {os os' : List Live}, (∀ o ∈ os', o ∈ os ∨ o.deleting = true) → A os → A os')
    (hrest : ∀ {q}, (∀ o ∈ q.cluster.objects, o ∈ p.cluster.objects ∨ o.deleting = true) →
      rest q = (p', r) → Sweeping D dryRun q p' r B) (h : first.andThen rest p = (p', r)) :
    Sweeping D dryRun p p' r fun os => A os ∧ B os := by
  rcases Stage.andThen_eq h with ⟨hstop, hr⟩ | ⟨q, hq, hnext⟩
  · exact ⟨(hfirst hstop).1, fun h => absurd h hr⟩
  · obtain ⟨⟨new, hswept⟩, hdone⟩ := hfirst hq
    obtain ⟨⟨new', hswept'⟩, hall⟩ := hrest hswept.survivors hnext
    refine ⟨⟨_, hswept.trans hswept'⟩, fun hr hdry => ⟨?_, hall hr hdry⟩⟩
    exact hA hswept'.survivors (hdone rfl hdry)

theorem deleteObject_eq {item : Live} (hitem : D item)
    (h : deleteObject env opts item p = (p', r)) : Sweeping D opts.dryRun p p' r fun os =>
      ∀ o ∈ os, o.ref = item.ref → o.deleting = true := by
  unfold deleteObject at h
  simp only at h
  rcases hsend : p.toSession.send { reply := (env.delete item.ref).reply } opts.dryRun
    (·.delete item.ref (env.delete item.ref).finalizing) with ⟨s, x⟩
  rw [hsend] at h
  obtain ⟨hcancelled, hcluster, hsame, -, hok⟩ := Session.send_eq hsend
  have hagree : p.cluster.AgreeOff (· = item.ref) s.cluster := by
    rcases hcluster with heq | heq <;> rw [heq]
    · exact .refl _ _
    · exact fun ref hne => Cluster.find?_delete_of_ne hne
  have hsurvive : ∀ o ∈ s.cluster.objects, o ∈ p.cluster.objects ∨ o.deleting = true := by
    intro o ho
    rcases hcluster with heq | heq <;> rw [heq] at ho
    · exact .inl ho
    · rcases Cluster.mem_delete ho with ⟨-, ho⟩ | ⟨-, hdel⟩
      · exact .inl ho
      · exact .inr hdel
  have hswept : ∀ result : Result, result.applied = p.result.applied →
      ∃ new, Swept D opts.dryRun new p { p with
        toSession := s
        deletions := if opts.dryRun || p.cancelled then p.deletions else p.deletions ++ [item]
        result := result } := by
    intro result hresult
    by_cases hidle : (opts.dryRun || p.cancelled) = true
    · have hs : s = p.toSession := hsame (Bool.or_eq_true_iff.mp hidle).symm
      refine ⟨[], hcancelled, hresult, ?_, by simp, by simp, fun _ => rfl, ?_, hsurvive⟩
      · simp [hidle]
      · rw [hs]
        exact .refl _ _
    · obtain ⟨hdry, hc⟩ : opts.dryRun = false ∧ p.cancelled = false := by simpa using hidle
      refine ⟨[item], hcancelled, hresult, ?_, by simpa using hitem, fun _ => hc, ?_, ?_, hsurvive⟩
      · simp [hidle]
      · rw [hdry]
        exact nofun
      · exact hagree.mono fun ref href => ⟨item, mem_singleton_self _, href.symm⟩
  by_cases hx : x = .ok ()
  · rw [if_pos hx] at h
    cases h
    refine ⟨hswept _ rfl, fun _ hdry o ho href => ?_⟩
    have ho' : o ∈ (p.cluster.delete item.ref (env.delete item.ref).finalizing).objects := by
      rw [← hok hx hdry]
      exact ho
    rcases Cluster.mem_delete ho' with ⟨hne, -⟩ | ⟨-, hdel⟩
    · exact absurd href hne
    · exact hdel
  · rw [if_neg hx] at h
    cases h
    exact ⟨hswept p.result rfl, nofun⟩

def Spared (applied : List ObjectRef) (o : Live) : Prop :=
  o.ref ∈ applied ∨ o.deleting = true ∨ isProtected o.ref = true

theorem pruneItem_eq {item : Live} (hitem : ¬ Spared applied item → D item)
    (h : pruneItem env opts applied item p = (p', r)) : Sweeping D opts.dryRun p p' r fun os =>
      Spared applied item ∨ ∀ o ∈ os, o.ref = item.ref → o.deleting = true := by
  unfold pruneItem at h
  split_ifs at h with hkept hprotected
  · cases h
    refine ⟨⟨[], .refl _ _ _⟩, fun _ _ => .inl ?_⟩
    exact hkept.imp_right .inl
  · cases h
    exact ⟨⟨[], .refl _ _ _⟩, fun _ _ => .inl (.inr (.inr hprotected))⟩
  · have hnot : ¬ Spared applied item := by
      rintro (hin | hdel | hprot)
      · exact hkept (.inl hin)
      · exact hkept (.inr hdel)
      · exact hprotected hprot
    obtain ⟨hswept, hdone⟩ := deleteObject_eq (hitem hnot) h
    exact ⟨hswept, fun hr hdry => .inr (hdone hr hdry)⟩

theorem pruneItems_eq {items : List Live} (hitems : ∀ item ∈ items, ¬ Spared applied item → D item)
    (h : pruneItems env opts applied items p = (p', r)) : Sweeping D opts.dryRun p p' r fun os =>
      ∀ item ∈ items, Spared applied item ∨ ∀ o ∈ os, o.ref = item.ref → o.deleting = true := by
  induction items generalizing p with
  | nil =>
    cases h
    exact ⟨⟨[], .refl _ _ _⟩, by simp⟩
  | cons item items ih =>
    simp only [forall_mem_cons] at hitems ⊢
    refine Sweeping.andThen (pruneItem_eq hitems.1) (fun hos => ?_) (fun _ => ih hitems.2) h
    exact Or.imp_right fun hgone o ho href => (hos o ho).elim (hgone o · href) id

def Lists (server : Server) (env : Environment) (gvk : GroupVersionKind) : Prop :=
  server.serves (itemGVK (listGVK gvk)) = true ∧ env.list gvk ≠ .noMatch

instance (server : Server) (env : Environment) (gvk : GroupVersionKind) :
    Decidable (Lists server env gvk) :=
  inferInstanceAs (Decidable (_ ∧ _))

/-- An object of the cluster `c` that a prune of the types deletes. -/
structure Stale (server : Server) (selector : Selector) (applied : List ObjectRef)
    (gvks : List GroupVersionKind) (c : Cluster) (o : Live) : Prop where
  live : o ∈ c.objects
  selected : selector o.labels = true
  stray : ¬ Spared applied o
  listed : ∃ gvk ∈ gvks, server.serves (itemGVK (listGVK gvk)) = true ∧
    (itemGVK (listGVK gvk)).groupKind = o.ref.groupKind

theorem pruneType_eq {gvk : GroupVersionKind}
    (hD : ∀ o ∈ p.cluster.objects, selector o.labels = true → ¬ Spared applied o →
      Lists server env gvk → (itemGVK (listGVK gvk)).groupKind = o.ref.groupKind → D o)
    (h : pruneType server env opts selector applied gvk p = (p', r)) :
    Sweeping D opts.dryRun p p' r fun os =>
      Lists server env gvk → ∀ o ∈ os, selector o.labels = true →
        (itemGVK (listGVK gvk)).groupKind = o.ref.groupKind → Spared applied o := by
  unfold pruneType at h
  simp only at h
  split_ifs at h with hc hserves
  · cases h
    exact ⟨⟨[], .refl _ _ _⟩, nofun⟩
  · split at h
    · rename_i hok
      have hlists : Lists server env gvk := ⟨hserves, by rw [hok]; decide⟩
      have hitems : ∀ item ∈ p.cluster.list (itemGVK (listGVK gvk)).groupKind selector,
          ¬ Spared applied item → D item := by
        intro item hitem hnot
        obtain ⟨hold, hitem⟩ := mem_filter.mp hitem
        obtain ⟨hkind, hsel⟩ : item.ref.groupKind = (itemGVK (listGVK gvk)).groupKind ∧
            selector item.labels = true := by simpa using hitem
        exact hD item hold hsel hnot hlists hkind.symm
      obtain ⟨⟨new, hswept⟩, hdone⟩ := pruneItems_eq hitems h
      refine ⟨⟨new, hswept⟩, fun hr hdry _ o ho hsel hkind => ?_⟩
      rcases hswept.survivors o ho with hold | hdel
      · have hlisted : o ∈ p.cluster.list (itemGVK (listGVK gvk)).groupKind selector :=
          mem_filter.mpr ⟨hold, by simp [hkind, hsel]⟩
        rcases hdone hr hdry o hlisted with hspared | hgone
        · exact hspared
        · exact .inr (.inl (hgone o ho rfl))
      · exact .inr (.inl hdel)
    · rename_i hno
      cases h
      exact ⟨⟨[], .refl _ _ _⟩, fun _ _ hlists => absurd hno hlists.2⟩
    · cases h
      exact ⟨⟨[], .refl _ _ _⟩, nofun⟩
  · cases h
    exact ⟨⟨[], .refl _ _ _⟩, fun _ _ hlists => absurd hlists.1 hserves⟩

variable {gvks : List GroupVersionKind}

/-- A prune only deletes what it has to of the cluster `c` it has started from, and after a success
leaves nothing of the kind of a type that can be listed but what it spares. -/
theorem prune_sweeps {c : Cluster}
    (hD : ∀ gvk ∈ gvks, Lists server env gvk → ∀ o ∈ c.objects, selector o.labels = true →
      ¬ Spared applied o → (itemGVK (listGVK gvk)).groupKind = o.ref.groupKind → D o)
    (hc : ∀ o ∈ p.cluster.objects, o ∈ c.objects ∨ o.deleting = true)
    (h : prune server env opts selector applied gvks p = (p', r)) :
    Sweeping D opts.dryRun p p' r fun os => ∀ gvk ∈ gvks, Lists server env gvk →
      ∀ o ∈ os, selector o.labels = true →
        (itemGVK (listGVK gvk)).groupKind = o.ref.groupKind → Spared applied o := by
  induction gvks generalizing p with
  | nil =>
    cases h
    exact ⟨⟨[], .refl _ _ _⟩, by simp⟩
  | cons gvk gvks ih =>
    simp only [forall_mem_cons] at hD ⊢
    refine Sweeping.andThen (fun h => pruneType_eq (fun o ho hsel hnot hlists hkind => ?_) h)
      (fun hos hspared hlists o ho => ?_) (fun hq => ih hD.2 fun o ho => ?_) h
    · have hold := (hc o ho).resolve_right fun hdel => hnot (.inr (.inl hdel))
      exact hD.1 hlists o hold hsel hnot hkind
    · exact (hos o ho).elim (hspared hlists o) fun hdel _ _ => .inr (.inl hdel)
    · exact (hq o ho).elim (hc o) .inr

theorem prune_eq {c : Cluster} {gvks types : List GroupVersionKind} (htypes : gvks ⊆ types)
    (hc : ∀ o ∈ p.cluster.objects, o ∈ c.objects ∨ o.deleting = true)
    (h : prune server env opts selector applied gvks p = (p', r)) :
    Sweeping (Stale server selector applied types c) opts.dryRun p p' r fun os =>
      ∀ gvk ∈ gvks, Lists server env gvk → ∀ o ∈ os, selector o.labels = true →
        (itemGVK (listGVK gvk)).groupKind = o.ref.groupKind → Spared applied o :=
  prune_sweeps (fun gvk hgvk hlists _ ho hsel hnot hkind =>
    ⟨ho, hsel, hnot, gvk, htypes hgvk, hlists.1, hkind⟩) hc h

theorem active_of_prune (hne : gvks ≠ [])
    (h : prune server env opts selector applied gvks p = (p', .success)) : p.cancelled = false := by
  by_contra hc
  cases gvks with
  | nil => exact hne rfl
  | cons gvk gvks =>
    have hfailed : pruneType server env opts selector applied gvk p =
        (p, .failed [.listing gvk.groupKind]) := by
      simp only [pruneType, if_pos (Bool.eq_true_of_not_eq_false hc)]
    rw [prune, Stage.andThen_of_ne hfailed nofun] at h
    cases h

end KubeOne.NativeClient
