import KubeOne.NativeClient.Object

/-! The cluster that an applier talks to: the live objects behind an API server, and what the
requests of the applier do to them. How a request ends is in the answer it is sent with, from a
lost connection to the fields that other managers own. -/

namespace KubeOne.NativeClient

open List

/-- A live object. An object with a deletion timestamp goes once its finalizers are done. -/
structure Live where
  ref : ObjectRef
  labels : Labels
  data : Data
  deleting : Bool
  deriving DecidableEq

structure Cluster where
  objects : List Live
  nodup : (objects.map Live.ref).Nodup
  wellFormed : ∀ o ∈ objects, o.ref.groupKind.wellFormed = true

variable {finalizing : Bool}

namespace Cluster

def find? (c : Cluster) (ref : ObjectRef) : Option Live := c.objects.find? (·.ref = ref)

def list (c : Cluster) (gk : GroupKind) (selector : Selector) : List Live :=
  c.objects.filter fun o => o.ref.groupKind = gk && selector o.labels

def modify (c : Cluster) (f : Live → Live) (hf : ∀ o, (f o).ref = o.ref) : Cluster where
  objects := c.objects.map f
  nodup := by
    have href : Live.ref ∘ f = Live.ref := funext hf
    rw [List.map_map, href]
    exact c.nodup
  wellFormed := by
    intro o ho
    obtain ⟨old, hold, rfl⟩ := List.mem_map.mp ho
    rw [hf]
    exact c.wellFormed old hold

def create (c : Cluster) (o : Live) (hnew : c.find? o.ref = none)
    (hwf : o.ref.groupKind.wellFormed = true) : Cluster where
  objects := c.objects ++ [o]
  nodup := by
    have hne : ∀ old ∈ c.objects, old.ref ≠ o.ref := by simpa [find?] using hnew
    rw [List.map_append, List.nodup_append]
    refine ⟨c.nodup, List.nodup_singleton _, fun ref href other hother => ?_⟩
    obtain ⟨old, hold, rfl⟩ := List.mem_map.mp href
    rw [List.mem_singleton.mp hother]
    exact hne old hold
  wellFormed := by
    intro x hx
    rcases List.mem_append.mp hx with hx | hx
    · exact c.wellFormed x hx
    · rw [List.mem_singleton.mp hx]
      exact hwf

def put (c : Cluster) (ref : ObjectRef) (labels : Labels) (data : Data)
    (hwf : ref.groupKind.wellFormed = true) : Cluster :=
  if hnew : c.find? ref = none then c.create ⟨ref, labels, data, false⟩ hnew hwf
  else c.modify (fun o => if o.ref = ref then { o with labels := labels, data := data } else o)
    (fun o => by split_ifs <;> rfl)

def delete (c : Cluster) (ref : ObjectRef) (finalizing : Bool) : Cluster :=
  if finalizing then
    c.modify (fun o => if o.ref = ref then { o with deleting := true } else o)
      (fun o => by split_ifs <;> rfl)
  else
    { objects := c.objects.filter (·.ref ≠ ref)
      nodup := c.nodup.sublist (List.filter_sublist.map _)
      wellFormed := fun o ho => c.wellFormed o (List.mem_filter.mp ho).1 }

def isDeleting (c : Cluster) (ref : ObjectRef) : Bool := (c.find? ref).any (·.deleting)

variable {c : Cluster} {ref : ObjectRef} {o : Live}

theorem find?_eq_some_iff : c.find? ref = some o ↔ o ∈ c.objects ∧ o.ref = ref := by
  constructor
  · intro h
    exact ⟨mem_of_find?_eq_some h, by simpa using find?_some h⟩
  · rintro ⟨ho, rfl⟩
    cases hfind : c.find? o.ref with
    | none => simpa using find?_eq_none.mp hfind o ho
    | some other =>
      have hother : other ∈ c.objects ∧ other.ref = o.ref :=
        ⟨mem_of_find?_eq_some hfind, by simpa using find?_some hfind⟩
      rw [inj_on_of_nodup_map c.nodup hother.1 ho hother.2]

theorem find?_of_mem (ho : o ∈ c.objects) : c.find? o.ref = some o :=
  find?_eq_some_iff.mpr ⟨ho, rfl⟩

section Put

variable {labels : Labels} {data : Data} {hwf : ref.groupKind.wellFormed = true}

theorem mem_put_of_ne (hne : o.ref ≠ ref) :
    o ∈ (c.put ref labels data hwf).objects ↔ o ∈ c.objects := by
  unfold put
  split_ifs with hnew
  · rw [create, mem_append, mem_singleton]
    exact or_iff_left fun h => hne (by rw [h])
  · constructor
    · intro ho
      obtain ⟨old, hold, hout⟩ := mem_map.mp ho
      split_ifs at hout with href
      · exact absurd (by rw [← hout]; exact href) hne
      · exact hout ▸ hold
    · exact fun ho => mem_map.mpr ⟨o, ho, if_neg hne⟩

theorem find?_put_of_ne {other : ObjectRef} (hne : other ≠ ref) :
    (c.put ref labels data hwf).find? other = c.find? other := by
  refine Option.ext fun o => ?_
  rw [find?_eq_some_iff, find?_eq_some_iff]
  constructor
  · rintro ⟨ho, rfl⟩
    exact ⟨(mem_put_of_ne hne).mp ho, rfl⟩
  · rintro ⟨ho, rfl⟩
    exact ⟨(mem_put_of_ne hne).mpr ho, rfl⟩

theorem find?_put_self (c : Cluster) (labels : Labels) (data : Data)
    (hwf : ref.groupKind.wellFormed = true) :
    ∃ o, (c.put ref labels data hwf).find? ref = some o ∧ o.labels = labels ∧ o.data = data ∧
      o.deleting = c.isDeleting ref := by
  unfold put
  split_ifs with hnew
  · refine ⟨⟨ref, labels, data, false⟩, find?_eq_some_iff.mpr ⟨?_, rfl⟩, rfl, rfl, ?_⟩
    · exact mem_append_right _ (mem_singleton_self _)
    · rw [isDeleting, hnew]
      rfl
  · obtain ⟨old, hold⟩ := Option.ne_none_iff_exists'.mp hnew
    obtain ⟨hmem, href⟩ := find?_eq_some_iff.mp hold
    refine ⟨{ old with labels := labels, data := data }, find?_eq_some_iff.mpr ⟨?_, href⟩, rfl,
      rfl, ?_⟩
    · exact mem_map.mpr ⟨old, hmem, if_pos href⟩
    · rw [isDeleting, hold]
      rfl

theorem isDeleting_put (other : ObjectRef) :
    (c.put ref labels data hwf).isDeleting other = c.isDeleting other := by
  by_cases hother : other = ref
  · subst hother
    obtain ⟨o, hfind, -, -, hdeleting⟩ := c.find?_put_self labels data hwf
    rw [isDeleting, hfind, Option.any_some, hdeleting]
  · rw [isDeleting, find?_put_of_ne hother, isDeleting]

end Put

theorem mem_delete (ho : o ∈ (c.delete ref finalizing).objects) :
    (o.ref ≠ ref ∧ o ∈ c.objects) ∨ (o.ref = ref ∧ o.deleting = true) := by
  unfold delete at ho
  split_ifs at ho
  · obtain ⟨old, hold, rfl⟩ := mem_map.mp ho
    split_ifs with href
    · exact .inr ⟨href, rfl⟩
    · exact .inl ⟨href, hold⟩
  · exact .inl ⟨by simpa using (mem_filter.mp ho).2, (mem_filter.mp ho).1⟩

theorem mem_delete_of_ne (hne : o.ref ≠ ref) (ho : o ∈ c.objects) :
    o ∈ (c.delete ref finalizing).objects := by
  unfold delete
  split_ifs
  · exact mem_map.mpr ⟨o, ho, if_neg hne⟩
  · exact mem_filter.mpr ⟨ho, by simpa using hne⟩

theorem find?_delete_of_ne {other : ObjectRef} (hne : other ≠ ref) :
    (c.delete ref finalizing).find? other = c.find? other := by
  refine Option.ext fun o => ?_
  rw [find?_eq_some_iff, find?_eq_some_iff]
  constructor
  · rintro ⟨ho, rfl⟩
    rcases mem_delete ho with ⟨-, ho⟩ | ⟨heq, -⟩
    · exact ⟨ho, rfl⟩
    · exact absurd heq hne
  · rintro ⟨ho, rfl⟩
    exact ⟨mem_delete_of_ne hne ho, rfl⟩

def AgreeOff (P : ObjectRef → Prop) (c c' : Cluster) : Prop :=
  ∀ ref, ¬ P ref → c'.find? ref = c.find? ref

theorem AgreeOff.refl (P : ObjectRef → Prop) (c : Cluster) : AgreeOff P c c := fun _ _ => rfl

variable {c' : Cluster} {P P' : ObjectRef → Prop}

theorem AgreeOff.mono (h : AgreeOff P c c') (hP : ∀ ref, P ref → P' ref) : AgreeOff P' c c' :=
  fun ref hne => h ref fun hin => hne (hP ref hin)

variable {P : ObjectRef → Prop}

theorem AgreeOff.trans {c₁ c₂ c₃ : Cluster} (h : AgreeOff P c₁ c₂)
    (h' : AgreeOff P c₂ c₃) : AgreeOff P c₁ c₃ :=
  fun ref hP => (h' ref hP).trans (h ref hP)

theorem AgreeOff.mem (h : AgreeOff P c c') (ho : o ∈ c'.objects) (hP : ¬ P o.ref) : o ∈ c.objects :=
  (find?_eq_some_iff.mp ((h o.ref hP).symm.trans (find?_of_mem ho))).1

/-- The clusters agree on the objects of other references and on all deletions. -/
structure Rewrites (P : ObjectRef → Prop) (c c' : Cluster) : Prop where
  agree : AgreeOff P c c'
  deleting : ∀ ref, c'.isDeleting ref = c.isDeleting ref

theorem Rewrites.refl (P : ObjectRef → Prop) (c : Cluster) : Rewrites P c c :=
  ⟨.refl P c, fun _ => rfl⟩

theorem Rewrites.mono (h : Rewrites P c c') (hP : ∀ ref, P ref → P' ref) : Rewrites P' c c' :=
  ⟨h.agree.mono hP, h.deleting⟩

theorem Rewrites.trans {c₁ c₂ c₃ : Cluster} (h : Rewrites P c₁ c₂)
    (h' : Rewrites P c₂ c₃) : Rewrites P c₁ c₃ :=
  ⟨h.agree.trans h'.agree, fun ref => (h'.deleting ref).trans (h.deleting ref)⟩

theorem rewrites_put (c : Cluster) (labels : Labels) (data : Data)
    (hwf : ref.groupKind.wellFormed = true) :
    Rewrites (· = ref) c (c.put ref labels data hwf) :=
  ⟨fun _ hne => find?_put_of_ne hne, isDeleting_put⟩

end Cluster

/-- Which kinds are served at some time during a call, and which of them are namespaced. -/
structure Server where
  serves : GroupVersionKind → Bool
  namespaced : GroupKind → Bool
  wellFormed : ∀ gvk, serves gvk = true → gvk.groupKind.wellFormed = true

namespace Server

/-- Objects that are not namespaced are stored without a namespace. -/
def storedRef (server : Server) (obj : Unstructured) : ObjectRef :=
  if server.namespaced obj.gvk.groupKind then refOf obj else { refOf obj with ns := "" }

@[simp] theorem storedRef_groupKind (server : Server) (obj : Unstructured) :
    (server.storedRef obj).groupKind = obj.gvk.groupKind := by
  unfold storedRef
  split_ifs <;> rfl

end Server

/-- How a request ends. A lost one is carried out and fails all the same. -/
inductive Reply where
  | ok
  | noMatch
  | failed
  | lost
  deriving DecidableEq

/-- How an attempt to hand over managed fields ends. -/
inductive Migration where
  | unneeded
  | patched
  | conflict
  | failed

/-- What a request meets: whether the context has been cancelled before it, its reply, and the
fields that other managers own. -/
structure Answer where
  cancel : Bool := false
  reply : Reply := .ok
  labels : Labels := []
  data : Data := []
  migration : Migration := .unneeded

inductive Attempt (α : Type*) where
  | cancelled
  | noMatch
  | failed
  | ok (a : α)
  deriving DecidableEq

/-- The cluster as one call sees it, and whether the context of the call is cancelled. -/
structure Session where
  cluster : Cluster
  cancelled : Bool

namespace Session

def meet (s : Session) (a : Answer) : Session := { s with cancelled := s.cancelled || a.cancel }

theorem cancelled_meet {s : Session} (a : Answer) (h : s.cancelled = true) :
    (s.meet a).cancelled = true := by
  simp [meet, h]

def send (s : Session) (a : Answer) (dryRun : Bool) (f : Cluster → Cluster) :
    Session × Attempt Unit :=
  let done := if dryRun then s else { s with cluster := f s.cluster }
  if s.cancelled then (s, .cancelled)
  else
    match a.reply with
    | .ok => (done, .ok ())
    | .lost => (done, .failed)
    | .noMatch => (s, .noMatch)
    | .failed => (s, .failed)

variable {s s' : Session} {a : Answer} {dryRun : Bool} {f : Cluster → Cluster} {r : Attempt Unit}

@[simp] theorem meet_cluster (s : Session) (a : Answer) : (s.meet a).cluster = s.cluster := rfl

theorem send_eq (h : s.send a dryRun f = (s', r)) : s'.cancelled = s.cancelled ∧
    (s'.cluster = s.cluster ∨ s'.cluster = f s.cluster) ∧
    (s.cancelled = true ∨ dryRun = true → s' = s) ∧ (r = .cancelled ↔ s.cancelled = true) ∧
    (r = .ok () → dryRun = false → s'.cluster = f s.cluster) := by
  unfold send at h
  cases hc : s.cancelled with
  | true =>
    simp only [hc, if_true] at h
    cases h
    simp [hc]
  | false =>
    simp only [hc, Bool.false_eq_true, if_false] at h
    cases hr : a.reply <;> simp only [hr] at h <;> cases h <;> cases dryRun <;> simp [hc]

end Session

def Server.apply (server : Server) (dryRun : Bool) (a : Answer) (obj : Unstructured) (s : Session) :
    Session × Attempt Unit :=
  if h : server.serves obj.gvk = true then
    s.send a dryRun fun c => c.put (server.storedRef obj) (obj.labels ++ a.labels)
      (obj.data ++ a.data) (by rw [storedRef_groupKind]; exact server.wellFormed _ h)
  else (s, if s.cancelled then .cancelled else .noMatch)

end KubeOne.NativeClient
