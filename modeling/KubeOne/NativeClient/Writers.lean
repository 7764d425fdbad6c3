import KubeOne.NativeClient.Phases

/-! Whose labels a stored object carries when the phases are done. Objects of a manifest can be
stored under one reference. With a single worker the last of them decides; with more it is one of
them. -/

namespace KubeOne.NativeClient

open Process List Job JobResult

def Cluster.Labelled (c : Cluster) (ref : ObjectRef) (G : Labels → Prop) : Prop :=
  ∃ o, c.find? ref = some o ∧ G o.labels

theorem Cluster.Labelled.congr {c c' : Cluster} {ref : ObjectRef} {G : Labels → Prop}
    (h : c.Labelled ref G) (hfind : c'.find? ref = c.find? ref) : c'.Labelled ref G := by
  obtain ⟨o, ho, hG⟩ := h
  exact ⟨o, hfind.trans ho, hG⟩

variable {server : Server} {obj w : Unstructured} {ref : ObjectRef} {G : Labels → Prop}
  {a : Answer} {s s' : Session}

theorem Server.apply_labelled {r : Attempt Unit} (h : server.apply false a obj s = (s', r))
    (hG : G (obj.labels ++ a.labels)) :
    (r = .ok () → s'.cluster.Labelled (server.storedRef obj) G) ∧
      (s.cluster.Labelled (server.storedRef obj) G →
        s'.cluster.Labelled (server.storedRef obj) G) := by
  unfold Server.apply at h
  split_ifs at h with hserves
  · obtain ⟨-, hcluster, -, -, hok⟩ := Session.send_eq h
    have hput : ∀ hwf, (s.cluster.put (server.storedRef obj) (obj.labels ++ a.labels)
        (obj.data ++ a.data) hwf).Labelled (server.storedRef obj) G := by
      intro hwf
      obtain ⟨o, hfind, hlabels, -⟩ := s.cluster.find?_put_self (obj.labels ++ a.labels)
        (obj.data ++ a.data) hwf
      exact ⟨o, hfind, hlabels ▸ hG⟩
    refine ⟨fun hr => ?_, fun hs => ?_⟩
    · rw [hok hr rfl]
      exact hput _
    · rcases hcluster with heq | heq <;> rw [heq]
      · exact hs
      · exact hput _
  · cases h
    exact ⟨by simp, id⟩
  · cases h
    exact ⟨by simp, id⟩

@[simp] theorem Server.desired_labels (server : Server) (obj : Unstructured) :
    (server.desired obj).labels = obj.labels := by
  unfold Server.desired defaultNamespace
  split_ifs <;> rfl

namespace Job

variable {job : Job} {x : Job ⊕ JobResult}

theorem apply_labelled {o : Unstructured} {r : Attempt Unit}
    (h : server.apply false a o (s.meet a) = (s', r))
    (ho : (s.meet a).cancelled = true ∨ o = server.desired obj)
    (hG : G (obj.labels ++ a.labels)) :
    (r = .ok () → s'.cluster.Labelled (server.target obj) G) ∧
      (s.cluster.Labelled (server.target obj) G → s'.cluster.Labelled (server.target obj) G) := by
  rcases ho with hc | rfl
  · obtain ⟨-, -, hsame, hr, -⟩ := Server.apply_eq h
    refine ⟨fun hok => ?_, fun hs => ?_⟩
    · rw [hok] at hr
      cases hr.mpr hc
    · rw [hsame (.inl hc)]
      exact hs
  · have hlabels : G ((server.desired obj).labels ++ a.labels) := by simpa using hG
    have hwritten := Server.apply_labelled h hlabels
    exact hwritten

theorem request_keeps (hjob : Tracks server obj s (.inl job))
    (hG : server.target obj = ref → G (obj.labels ++ a.labels))
    (hs : s.cluster.Labelled ref G) :
    (request server false a job s).1.cluster.Labelled ref G := by
  by_cases href : server.target obj = ref
  · subst href
    have hjob' : Tracks server obj (s.meet a) (.inl job) := hjob.mono (Session.cancelled_meet a)
    cases job with
    | scope o tries =>
      simp only [request]
      split <;> exact hs
    | apply o tries =>
      rcases hsent : server.apply false a o (s.meet a) with ⟨s', r⟩
      have hkept := (apply_labelled hsent hjob'.2 (hG rfl)).2 hs
      simp only [request, hsent]
      split <;> exact hkept
    | migrate o tries =>
      simp only [request]
      split <;> first | exact hs | (split_ifs <;> exact hs)
    | reapply o =>
      rcases hsent : server.apply false a o (s.meet a) with ⟨s', r⟩
      have hkept := (apply_labelled hsent (hjob'.2.imp_right And.left) (hG rfl)).2 hs
      simp only [request, hsent]
      split <;> exact hkept
  · exact hs.congr ((request_steps false a hjob).cluster.agree ref (Ne.symm href))

/-- Behind its apply request a job has written the labels. -/
def Wrote (server : Server) (obj : Unstructured) (G : Labels → Prop) (s : Session) :
    Job ⊕ JobResult → Prop
  | .inl (.migrate _ _) | .inl (.reapply _) | .inr (.ok _) =>
    s.cancelled = true ∨ s.cluster.Labelled (server.target obj) G
  | _ => True

theorem Wrote.mono (hx : Wrote server obj G s x) (hc : s.cancelled = true → s'.cancelled = true)
    (hs : s.cluster.Labelled (server.target obj) G →
      s'.cluster.Labelled (server.target obj) G) : Wrote server obj G s' x := by
  rcases x with (_ | _ | _ | _) | (_ | _)
  · trivial
  · trivial
  · exact hx.imp hc hs
  · exact hx.imp hc hs
  · trivial
  · exact hx.imp hc hs

theorem wrote_init (server : Server) (obj : Unstructured) (G : Labels → Prop) (s : Session) :
    Wrote server obj G s (.inl (init obj)) := by
  unfold init
  split_ifs <;> trivial

theorem request_wrote (hjob : Tracks server obj s (.inl job))
    (hG : G (obj.labels ++ a.labels)) (hwrote : Wrote server obj G s (.inl job)) :
    Wrote server obj G (request server false a job s).1 (request server false a job s).2 := by
  have hjob' : Tracks server obj (s.meet a) (.inl job) := hjob.mono (Session.cancelled_meet a)
  cases job with
  | scope o tries =>
    simp only [request]
    split <;> trivial
  | apply o tries =>
    rcases hsent : server.apply false a o (s.meet a) with ⟨s', r⟩
    obtain ⟨hcancelled, -, -, hr, -⟩ := Server.apply_eq hsent
    obtain ⟨hok, -⟩ := apply_labelled hsent hjob'.2 hG
    simp only [request, hsent]
    cases hretry : retryOnNoMatch tries () r with
    | again => trivial
    | failed => trivial
    | done _ =>
      rcases retryOnNoMatch_done hretry with ⟨rfl, -⟩ | rfl
      · exact .inl (hcancelled ▸ hr.mp rfl)
      · exact .inr (hok rfl)
  | migrate o tries =>
    have hdone : (s.meet a).cancelled = true ∨ (s.meet a).cluster.Labelled (server.target obj) G :=
      hwrote.imp_left (Session.cancelled_meet a)
    simp only [request]
    split
    · exact hdone
    · exact hdone
    · split_ifs
      · exact hdone
      · trivial
    · trivial
  | reapply o =>
    rcases hsent : server.apply false a o (s.meet a) with ⟨s', r⟩
    obtain ⟨hok, -⟩ := apply_labelled hsent (hjob'.2.imp_right And.left) hG
    simp only [request, hsent]
    cases r with
    | ok _ => exact .inr (hok rfl)
    | cancelled => trivial
    | noMatch => trivial
    | failed => trivial

end Job

/-- The labels of the object, with those of other managers. -/
def By (w : Unstructured) (labels : Labels) : Prop := ∃ others, labels = w.labels ++ others

/-- A job that has been alone with the session since `s₀`. -/
structure Alone (server : Server) (obj : Unstructured) (s₀ s : Session) (x : Job ⊕ JobResult) :
    Prop where
  tracks : Job.Tracks server obj s x
  wrote : Job.Wrote server obj (By obj) s x
  cancelled : s₀.cancelled = true → s.cancelled = true
  keeps : ∀ ref G, server.target obj ≠ ref → s₀.cluster.Labelled ref G → s.cluster.Labelled ref G

theorem alone_solo (server : Server) (obj : Unstructured) (choices : List Answer) (s : Session) :
    Alone server obj s (Pool.solo (request server false) choices (init obj) s).1
      (Pool.solo (request server false) choices (init obj) s).2 := by
  refine Pool.solo_invariant (P := Alone server obj s) ?_ choices ?_
  · intro a job s₁ h
    have hsteps := request_steps false a h.tracks
    refine ⟨hsteps.tracks, request_wrote h.tracks ⟨_, rfl⟩ h.wrote,
      fun hc => hsteps.cancelled (h.cancelled hc), fun ref G hne hs => ?_⟩
    exact request_keeps h.tracks (fun heq => absurd heq hne) (h.keeps ref G hne hs)
  · exact ⟨tracks_init server obj s, wrote_init server obj _ s, id, fun _ _ _ => id⟩

variable {outcomes : List JobResult}

theorem inTurn_keeps {objs : List Unstructured}
    (h : Pool.InTurn (request server false) (objs.map init) s s' outcomes)
    (hobjs : ∀ obj ∈ objs, server.target obj ≠ ref) :
    (s.cancelled = true → s'.cancelled = true) ∧
      (s.cluster.Labelled ref G → s'.cluster.Labelled ref G) := by
  induction objs generalizing s outcomes with
  | nil =>
    cases h
    exact ⟨id, id⟩
  | cons obj objs ih =>
    cases h with
    | @cons choices _ _ _ s₁ _ b bs first rest =>
      have halone := alone_solo server obj choices s
      rw [first] at halone
      obtain ⟨hcancelled, hkeeps⟩ := ih rest fun x hx => hobjs x (mem_cons_of_mem _ hx)
      exact ⟨fun hc => hcancelled (halone.cancelled hc),
        fun hs => hkeeps (halone.keeps ref G (hobjs obj mem_cons_self) hs)⟩

variable {before after : List Unstructured}

theorem inTurn_last
    (h : Pool.InTurn (request server false) ((before ++ w :: after).map init) s s' outcomes)
    (herrors : outcomes.filterMap error? = [])
    (hafter : ∀ obj ∈ after, server.target obj ≠ server.target w) :
    s'.cancelled = true ∨ s'.cluster.Labelled (server.target w) (By w) := by
  induction before generalizing s outcomes with
  | nil =>
    cases h with
    | @cons choices _ _ _ s₁ _ b bs first rest =>
      have halone := alone_solo server w choices s
      rw [first] at halone
      obtain ⟨hcancelled, hkeeps⟩ := inTurn_keeps (G := By w) rest hafter
      cases b with
      | error e => simp [error?] at herrors
      | ok done => exact halone.wrote.imp hcancelled hkeeps
  | cons obj before ih =>
    cases h with
    | @cons choices _ _ _ s₁ _ b bs first rest =>
      refine ih rest ?_
      cases b with
      | error e => simp [error?] at herrors
      | ok done => simpa [error?] using herrors

/-- The job of an object of the phase, which leaves its own labels under the reference or finds
those of another object of the phase there. -/
def Leaves (server : Server) (phase : List Unstructured) (ref : ObjectRef) (obj : Unstructured)
    (s : Session) (x : Job ⊕ JobResult) : Prop :=
  obj ∈ phase ∧ Job.Tracks server obj s x ∧ (server.target obj = ref →
    Job.Wrote server obj (fun labels => ∃ w ∈ phase, server.target w = ref ∧ By w labels) s x)

theorem contract_labels (server : Server) (phase : List Unstructured) (ref : ObjectRef) :
    Pool.Contract (request server false) (fun _ => True) (Leaves server phase ref) where
  invariant _ _ _ _ _ _ := trivial
  own a obj job s _ := by
    rintro ⟨hmem, htracks, hwrote⟩
    refine ⟨hmem, (request_steps false a htracks).tracks, fun href => ?_⟩
    exact request_wrote htracks ⟨obj, hmem, href, _, rfl⟩ (hwrote href)
  others a obj job s other x _ := by
    rintro ⟨hmem, htracks, -⟩ ⟨hother, htracks', hwrote⟩
    have hsteps := request_steps false a htracks
    refine ⟨hother, htracks'.mono hsteps.cancelled, fun href => ?_⟩
    refine (hwrote href).mono hsteps.cancelled fun hs => ?_
    rw [href] at hs ⊢
    exact request_keeps htracks (fun heq => ⟨obj, hmem, heq, _, rfl⟩) hs

variable {opts : ApplyOptions} {p p' : Progress}

variable {phase : List Unstructured} {events : List (Pool.Event Answer)}

theorem applyPhase_success {n : ℕ}
    (h : Applier.applyPhase server opts phase n events p = (p', .success)) :
    ∃ outcomes, (Pool.run (request server opts.dryRun) n
        ⟨p.toSession, phase.map init, []⟩ events).results = some outcomes ∧
      outcomes.filterMap error? = [] ∧
      p'.toSession = (Pool.run (request server opts.dryRun) n
        ⟨p.toSession, phase.map init, []⟩ events).shared := by
  unfold Applier.applyPhase at h
  simp only at h
  split at h
  · cases h
  · rename_i outcomes hresults
    by_cases herrors : outcomes.filterMap error? = []
    · rw [if_pos herrors] at h
      cases h
      exact ⟨outcomes, hresults, herrors, rfl⟩
    · rw [if_neg herrors] at h
      cases h

theorem applyPhase_labelled {n : ℕ} (hdry : opts.dryRun = false)
    (h : Applier.applyPhase server opts phase n events p = (p', .success))
    (hphase : phase = before ++ w :: after)
    (hafter : ∀ obj ∈ after, server.target obj ≠ server.target w) :
    p'.cancelled = true ∨ ∃ w' ∈ phase, server.target w' = server.target w ∧
      (n = 1 → w' = w) ∧ p'.cluster.Labelled (server.target w) (By w') := by
  obtain ⟨outcomes, hresults, herrors, hsession⟩ := applyPhase_success h
  have hw : w ∈ phase := by simp [hphase]
  rw [hdry] at hresults hsession
  by_cases hn : n = 1
  · subst hn
    have hturn := Pool.inTurn_of_results hresults
    rw [← hsession, hphase] at hturn
    refine (inTurn_last hturn herrors hafter).imp_right fun hlabelled => ?_
    exact ⟨w, hw, rfl, fun _ => rfl, hlabelled⟩
  · have hholds : Pool.Holds (fun _ => True) (Leaves server phase (server.target w)) phase
        (Pool.run (request server false) n ⟨p.toSession, phase.map init, []⟩ events) := by
      refine Pool.Holds.run (contract_labels server phase (server.target w)) ⟨trivial, ?_⟩ events
      rw [nil_append, map_map, forall₂_map_right_iff, forall₂_same]
      refine fun obj hobj => ⟨hobj, tracks_init server obj p.toSession, fun _ => ?_⟩
      exact wrote_init server obj _ p.toSession
    obtain ⟨b, hb, -, -, hwrote⟩ := Collections.forall₂_mem_left (hholds.results hresults) hw
    rw [← hsession] at hwrote
    cases b with
    | error e =>
      have hin : e ∈ outcomes.filterMap error? := mem_filterMap.mpr ⟨.error e, hb, rfl⟩
      rw [herrors] at hin
      cases hin
    | ok done =>
      refine (hwrote rfl).imp_right ?_
      rintro ⟨o, hfind, w', hw', href, hby⟩
      exact ⟨w', hw', href, fun h => absurd h hn, o, hfind, hby⟩

/-- The object can leave its labels under its reference: it is the last one of the manifest there,
or several objects are worked on at a time. -/
def Writer (applier : Applier) (server : Server) (objs : List Unstructured) (w : Unstructured) :
    Prop :=
  w ∈ objs ∧ (1 < applier.concurrency ∧ w.gvk.groupKind ≠ crdGroupKind ∧
      w.gvk.groupKind ≠ namespaceGroupKind ∨
    ∃ before after, objs = before ++ w :: after ∧
      ∀ obj ∈ after, server.target obj ≠ server.target w)

theorem exists_last {α : Type*} {P : α → Prop} {l : List α} (h : ∃ x ∈ l, P x) :
    ∃ before x after, l = before ++ x :: after ∧ P x ∧ ∀ y ∈ after, ¬ P y := by
  induction l with
  | nil => simp at h
  | cons first l ih =>
    by_cases hl : ∃ x ∈ l, P x
    · obtain ⟨before, x, after, rfl, hx, hafter⟩ := ih hl
      exact ⟨first :: before, x, after, rfl, hx, hafter⟩
    · obtain ⟨x, hx, hP⟩ := h
      have hnone : ∀ y ∈ l, ¬ P y := fun y hy hPy => hl ⟨y, hy, hPy⟩
      rcases mem_cons.mp hx with rfl | hx
      · exact ⟨[], x, l, rfl, hP, hnone⟩
      · exact absurd hP (hnone x hx)

theorem applyPhase_keeps {n : ℕ} {r : Status Failure}
    (h : Applier.applyPhase server opts phase n events p = (p', r))
    (hkinds : ∀ obj ∈ phase, obj.gvk.groupKind ≠ ref.groupKind) :
    p'.cluster.find? ref = p.cluster.find? ref := by
  refine (applyPhase_advanced h).cluster.agree ref ?_
  rintro ⟨obj, hobj, rfl⟩
  exact hkinds obj hobj (server.target_groupKind obj).symm

section Keeps

variable {objs : List Unstructured} {n : ℕ} {events : List (Pool.Event Answer)}
  {r : Status Failure}

theorem namespaces_keeps (h : Applier.applyPhase server opts (splitPhases objs).2.1 n events p =
    (p', r)) (href : ref.groupKind = crdGroupKind) :
    p'.cluster.find? ref = p.cluster.find? ref := by
  refine applyPhase_keeps h fun x hx => ?_
  have hkind : x.gvk.groupKind = namespaceGroupKind := by simpa using (mem_filter.mp hx).2
  rw [hkind, href]
  decide

theorem rest_keeps (h : Applier.applyPhase server opts (splitPhases objs).2.2 n events p = (p', r))
    (href : ref.groupKind = crdGroupKind ∨ ref.groupKind = namespaceGroupKind) :
    p'.cluster.find? ref = p.cluster.find? ref := by
  refine applyPhase_keeps h fun x hx => ?_
  have hkind : x.gvk.groupKind ≠ crdGroupKind ∧ x.gvk.groupKind ≠ namespaceGroupKind := by
    simpa using (mem_filter.mp hx).2
  rcases href with href | href
  · rw [href]
    exact hkind.1
  · rw [href]
    exact hkind.2

end Keeps

theorem phases_labelled {applier : Applier} {env : Environment} {objs : List Unstructured}
    (hdry : opts.dryRun = false) (h : applier.phases server env objs opts p = (p', .success))
    (hactive : p'.cancelled = false) (hobj : obj ∈ objs) :
    ∃ w, Writer applier server objs w ∧ server.target w = server.target obj ∧
      p'.cluster.Labelled (server.target obj) (By w) := by
  obtain ⟨q, -, h⟩ := Stage.of_andThen_success h
  obtain ⟨p₁, hcrds, h⟩ := Stage.of_andThen_success h
  obtain ⟨p₂, hwait, h⟩ := Stage.of_andThen_success h
  obtain ⟨p₃, hnamespaces, hrest⟩ := Stage.of_andThen_success h
  obtain ⟨hsession, hwaited⟩ := waitForCRDs_eq hwait
  have hcancelled₃ := (applyPhase_advanced hrest).cancelled
  have hcancelled₁ : p₁.cancelled = true → p'.cancelled = true := fun hc =>
    hcancelled₃ ((applyPhase_advanced hnamespaces).cancelled (hsession.cancelled hc))
  obtain ⟨before, w, after, hobjs, hw, hafter⟩ :=
    exists_last (P := fun x => server.target x = server.target obj) ⟨obj, hobj, rfl⟩
  have hmem : w ∈ objs := by simp [hobjs]
  have hsplit : ∀ f : Unstructured → Bool, f w = true →
      objs.filter f = before.filter f ++ w :: after.filter f := fun f hf => by
    rw [hobjs, filter_append, filter_cons_of_pos hf]
  have hlater : ∀ f : Unstructured → Bool, ∀ x ∈ after.filter f,
      server.target x ≠ server.target w := fun f x hx => by
    rw [hw]
    exact hafter x (mem_filter.mp hx).1
  have hlast : Writer applier server objs w :=
    ⟨hmem, .inr ⟨before, after, hobjs, fun x hx => by rw [hw]; exact hafter x hx⟩⟩
  have hkind : (server.target w).groupKind = w.gvk.groupKind := server.target_groupKind w
  rw [← hw]
  by_cases hcrd : w.gvk.groupKind = crdGroupKind
  · obtain ⟨_, -, -, hsame, hlabelled⟩ := (applyPhase_labelled hdry hcrds
      (hsplit _ (by simpa using hcrd)) (hlater _)).resolve_left fun hc => by
        simp [hcancelled₁ hc] at hactive
    rw [hsame rfl] at hlabelled
    refine ⟨w, hlast, rfl, hlabelled.congr ?_⟩
    rw [rest_keeps hrest (.inl (hkind.trans hcrd)), namespaces_keeps hnamespaces (hkind.trans hcrd),
      hwaited]
  by_cases hns : w.gvk.groupKind = namespaceGroupKind
  · obtain ⟨_, -, -, hsame, hlabelled⟩ := (applyPhase_labelled hdry hnamespaces
      (hsplit _ (by simpa using hns)) (hlater _)).resolve_left fun hc => by
        simp [hcancelled₃ hc] at hactive
    rw [hsame rfl] at hlabelled
    exact ⟨w, hlast, rfl, hlabelled.congr (rest_keeps hrest (.inr (hkind.trans hns)))⟩
  · obtain ⟨w', hw', href, hsame, hlabelled⟩ := (applyPhase_labelled hdry hrest
      (hsplit _ (by simpa using ⟨hcrd, hns⟩)) (hlater _)).resolve_left fun hc => by
        simp [hc] at hactive
    by_cases hone : applier.concurrency = 1
    · obtain rfl := hsame hone
      exact ⟨w', hlast, rfl, hlabelled⟩
    · obtain ⟨hin, hother⟩ := mem_filter.mp hw'
      have hmany : 1 < applier.concurrency := by
        have := applier.concurrency_pos
        omega
      refine ⟨w', ⟨hin, .inl ⟨hmany, ?_⟩⟩, href, hlabelled⟩
      simpa using hother

end KubeOne.NativeClient
