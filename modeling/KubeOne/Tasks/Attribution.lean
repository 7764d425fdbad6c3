import KubeOne.Apis.Validation
import KubeOne.Tasks.Probes

/-! Which host an entry of the live cluster tells of. A probe finds the first entry with the
hostname of its node. With pairwise different hostnames the entries hold what was observed on
their hosts, in every interleaving; otherwise at least one of them holds nothing. -/

namespace KubeOne.Tasks.Probes

open Process State List Stage Place

/-! ### Positions -/

def entries (c : Cluster) : List Host := c.controlPlane ++ c.staticWorkers

def Place.position (n : ℕ) (place : Place) : ℕ :=
  if place.controlPlane then place.idx else n + place.idx

/-- The host at the position has one of the same name before it. -/
def Shadowed (configs : List HostConfig) (k : ℕ) : Prop :=
  ∃ j < k, ∃ x y, configs[j]? = some x ∧ configs[k]? = some y ∧ x.hostname = y.hostname

section Positions

variable {c : Cluster} {place : Place} {host : Host} {hostname : String} {i : ℕ}

theorem firstNamed_eq_some {hosts : List Host} (h : firstNamed hosts hostname = some (i, host)) :
    hosts[i]? = some host ∧ host.config.hostname = hostname ∧
      ∀ j < i, ∀ x, hosts[j]? = some x → x.config.hostname ≠ hostname := by
  obtain ⟨i', hfind, hget⟩ := Option.bind_eq_some_iff.mp h
  obtain ⟨host', hhost, heq⟩ := Option.map_eq_some_iff.mp hget
  obtain ⟨rfl, rfl⟩ := Prod.mk.inj heq
  obtain ⟨hlt, hname, hfirst⟩ := findIdx?_eq_some_iff_getElem.mp hfind
  obtain ⟨_, rfl⟩ := List.getElem?_eq_some_iff.mp hhost
  refine ⟨hhost, of_decide_eq_true hname, fun j hj x hx => ?_⟩
  obtain ⟨_, rfl⟩ := List.getElem?_eq_some_iff.mp hx
  simpa using hfirst j hj

theorem firstNamed_eq_none {hosts : List Host} (h : firstNamed hosts hostname = none) :
    ∀ x ∈ hosts, x.config.hostname ≠ hostname := by
  rcases hfind : hosts.findIdx? (·.config.hostname = hostname) with _ | i
  · simpa using findIdx?_eq_none_iff.mp hfind
  · obtain ⟨hlt, -, -⟩ := findIdx?_eq_some_iff_getElem.mp hfind
    simp [firstNamed, hfind, hlt] at h

theorem lookupHost_eq_some (h : lookupHost c hostname = some (place, host)) :
    place.controlPlane = decide (place.position c.controlPlane.length < c.controlPlane.length) ∧
      (entries c)[place.position c.controlPlane.length]? = some host ∧
      host.config.hostname = hostname ∧
      ∀ j < place.position c.controlPlane.length, ∀ x, (entries c)[j]? = some x →
        x.config.hostname ≠ hostname := by
  unfold lookupHost at h
  rcases hcp : firstNamed c.controlPlane hostname with _ | ⟨i, found⟩
  · rw [hcp] at h
    obtain ⟨⟨i, found⟩, hsw, heq⟩ := Option.map_eq_some_iff.mp h
    obtain ⟨rfl, rfl⟩ := Prod.mk.inj heq
    obtain ⟨hget, hname, hfirst⟩ := firstNamed_eq_some hsw
    refine ⟨by simp [position], ?_, hname, fun j hj x hx => ?_⟩
    · simp only [position, Bool.false_eq_true, if_false, entries]
      rw [getElem?_append_right (Nat.le_add_right _ _), Nat.add_sub_cancel_left]
      exact hget
    · simp only [position, Bool.false_eq_true, if_false] at hj
      by_cases hlt : j < c.controlPlane.length
      · rw [entries, getElem?_append_left hlt] at hx
        exact firstNamed_eq_none hcp x (mem_of_getElem? hx)
      · rw [entries, getElem?_append_right (Nat.le_of_not_lt hlt)] at hx
        exact hfirst (j - c.controlPlane.length) (by omega) x hx
  · rw [hcp] at h
    obtain ⟨rfl, rfl⟩ := Prod.mk.inj (Option.some.inj h)
    obtain ⟨hget, hname, hfirst⟩ := firstNamed_eq_some hcp
    have hlt : i < c.controlPlane.length := (List.getElem?_eq_some_iff.mp hget).1
    refine ⟨by simpa [position] using hlt, ?_, hname, fun j hj x hx => ?_⟩
    · simpa [entries, position, getElem?_append_left hlt] using hget
    · simp only [position, if_true] at hj
      rw [entries, getElem?_append_left (hj.trans hlt)] at hx
      exact hfirst j hj x hx

theorem entries_writeHost (hplace : place.controlPlane =
    decide (place.position c.controlPlane.length < c.controlPlane.length)) :
    entries (writeHost c place host) =
      (entries c).set (place.position c.controlPlane.length) host := by
  obtain ⟨controlPlane, idx⟩ := place
  cases controlPlane with
  | true =>
    have hlt : idx < c.controlPlane.length := by simpa [position] using hplace
    simp [entries, writeHost, position, set_append_left _ _ hlt]
  | false => simp [entries, writeHost, position, set_append_right]

@[simp] theorem length_controlPlane_writeHost :
    (writeHost c place host).controlPlane.length = c.controlPlane.length := by
  unfold writeHost
  split <;> simp

end Positions

/-! ### One probe -/

variable {k : ℕ} {conn : Conn} {u : Unit} {c' : Cluster}

section Probing

variable (r : Readers) (n : ℕ) (configs : List HostConfig) (conns : ℕ → Except Failure Conn)

/-- The host is as the probe of the machine at the position leaves it. -/
def Observed (k : ℕ) (host : Host) : Prop :=
  ∃ conn, conns k = .ok conn ∧
    investigate r conn (decide (k < n)) { config := host.config } = .ok host

/-- An entry that has been written is the first one of its name, and where no name comes twice
it is as observed on its own host. -/
structure Probing (c : Cluster) : Prop where
  length : c.controlPlane.length = n
  kept : (entries c).map (·.config) = configs
  entry : ∀ k host, (entries c)[k]? = some host → host = { config := host.config } ∨
    ¬ Shadowed configs k ∧ ((configs.map (·.hostname)).Nodup → Observed r n conns k host)

def Probe (k : ℕ) (c : Cluster) : Job ⊕ Unit → Prop
  | .inl (.lookup hostname conn) =>
    (∃ config, configs[k]? = some config ∧ config.hostname = hostname) ∧ conns k = .ok conn
  | .inl (.writeBack place host) =>
    place.controlPlane = decide (place.position n < n) ∧
      configs[place.position n]? = some host.config ∧ ¬ Shadowed configs (place.position n) ∧
      ((configs.map (·.hostname)).Nodup → place.position n = k ∧ Observed r n conns k host)
  | .inr () => (configs.map (·.hostname)).Nodup →
      ∃ host, (entries c)[k]? = some host ∧ Observed r n conns k host

variable {r n configs conns} {c : Cluster}

theorem Probing.config_getElem? (hc : Probing r n configs conns c) {host : Host}
    (h : (entries c)[k]? = some host) : configs[k]? = some host.config := by
  rw [← hc.kept, getElem?_map, h, Option.map_some]

variable {hostname : String}

theorem probe_lookup (hc : Probing r n configs conns c)
    (hjob : Probe r n configs conns k c (.inl (.lookup hostname conn))) {place : Place}
    {found host : Host} (hfound : lookupHost c hostname = some (place, found))
    (hhost : investigate r conn place.controlPlane found = .ok host) :
    Probe r n configs conns k c (.inl (.writeBack place host)) := by
  obtain ⟨⟨config, hconfig, rfl⟩, hconn⟩ := hjob
  obtain ⟨hplace, hget, hname, hfirst⟩ := lookupHost_eq_some hfound
  rw [hc.length] at hplace hget hfirst
  have hkept : host.config = found.config := (investigate_keeps hhost).1
  have hat := hc.config_getElem? hget
  refine ⟨hplace, hkept ▸ hat, ?_, fun hnodup => ?_⟩
  · rintro ⟨j, hj, x, y, hx, hy, hxy⟩
    rw [← hc.kept, getElem?_map] at hx
    obtain ⟨before, hbefore, rfl⟩ := Option.map_eq_some_iff.mp hx
    obtain rfl := Option.some.inj (hy.symm.trans hat)
    exact hfirst j hj before hbefore (hxy.trans hname)
  · have hsame : (configs.map (·.hostname))[place.position n]? =
        (configs.map (·.hostname))[k]? := by
      rw [getElem?_map, getElem?_map, hat, hconfig, Option.map_some, Option.map_some, hname]
    have hlt : place.position n < (configs.map (·.hostname)).length := by
      rw [length_map]
      exact (List.getElem?_eq_some_iff.mp hat).1
    have hposition : place.position n = k := (getElem?_inj hlt hnodup).mp hsame
    refine ⟨hposition, conn, hconn, ?_⟩
    rw [hposition] at hplace hget
    rw [← hplace, hkept]
    -- the entry may have been written before, then with the same answers
    rcases hc.entry k found hget with hfresh | ⟨-, hobserved⟩
    · rw [← hfresh]
      exact hhost
    · obtain ⟨conn', hconn', hdone⟩ := hobserved hnodup
      obtain rfl := Except.ok.inj (hconn.symm.trans hconn')
      rw [← hplace] at hdone
      rw [investigate_idem hdone] at hhost
      rw [hdone, hhost]

theorem probing_writeHost (hc : Probing r n configs conns c) {place : Place}
    {host : Host} (hjob : Probe r n configs conns k c (.inl (.writeBack place host))) :
    Probing r n configs conns (writeHost c place host) ∧
      entries (writeHost c place host) = (entries c).set (place.position n) host := by
  obtain ⟨hplace, hconfig, hshadowed, hobserved⟩ := hjob
  have hset : entries (writeHost c place host) = (entries c).set (place.position n) host := by
    rw [← hc.length]
    exact entries_writeHost (by rw [hc.length]; exact hplace)
  refine ⟨⟨by rw [length_controlPlane_writeHost, hc.length], ?_, fun j other hother => ?_⟩, hset⟩
  · rw [hset, map_set, hc.kept]
    obtain ⟨hlt, hget⟩ := List.getElem?_eq_some_iff.mp hconfig
    rw [← hget]
    exact set_getElem_self hlt
  · rw [hset] at hother
    by_cases hj : place.position n = j
    · subst hj
      obtain ⟨-, rfl⟩ : place.position n < (entries c).length ∧ host = other := by
        simpa [getElem?_set] using hother
      refine .inr ⟨hshadowed, fun hnodup => ?_⟩
      obtain ⟨rfl, hown⟩ := hobserved hnodup
      exact hown
    · rw [getElem?_set_ne hj] at hother
      exact hc.entry j other hother

theorem investigateHost_lookup : (investigateHost r u (.lookup hostname conn) c).1 = c := by
  simp only [investigateHost]
  split
  · rfl
  · split <;> rfl

theorem investigateHost_next {job : Job}
    (h : investigateHost r u (.lookup hostname conn) c = (c', .inl job)) :
    ∃ place found host, c' = c ∧ job = .writeBack place host ∧
      lookupHost c hostname = some (place, found) ∧
      investigate r conn place.controlPlane found = .ok host := by
  simp only [investigateHost] at h
  split at h
  · cases congrArg Prod.snd h
  · rename_i place found hfound
    split at h
    · cases congrArg Prod.snd h
    · rename_i host hhost
      obtain ⟨rfl, hjob⟩ := Prod.mk.inj h
      exact ⟨place, found, host, rfl, (Sum.inl.inj hjob).symm, hfound, hhost⟩

theorem investigateHost_ne_done : investigateHost r u (.lookup hostname conn) c ≠ (c', .inr none) :=
    by
  intro h
  simp only [investigateHost] at h
  split at h
  · cases congrArg Prod.snd h
  · split at h <;> cases congrArg Prod.snd h

variable (r n configs conns) in
theorem taskContract_investigateHost :
    TaskContract (investigateHost r) (Probing r n configs conns) (Probe r n configs conns) where
  invariant := by
    rintro _ k (⟨hostname, conn⟩ | ⟨place, host⟩) c hc hjob
    · rw [investigateHost_lookup]
      exact hc
    · exact (probing_writeHost hc hjob).1
  next := by
    rintro _ k (⟨hostname, conn⟩ | ⟨place, host⟩) job c c' hc hjob hstep
    · obtain ⟨place, found, host, rfl, rfl, hfound, hhost⟩ := investigateHost_next hstep
      exact probe_lookup hc hjob hfound hhost
    · cases congrArg Prod.snd hstep
  done := by
    rintro _ k (⟨hostname, conn⟩ | ⟨place, host⟩) c c' hc hjob hstep hnodup
    · exact absurd hstep investigateHost_ne_done
    · obtain ⟨rfl, -⟩ := Prod.mk.inj hstep
      obtain ⟨-, hset⟩ := probing_writeHost hc hjob
      obtain ⟨rfl, hobserved⟩ := hjob.2.2.2 hnodup
      refine ⟨host, ?_, hobserved⟩
      rw [hset, getElem?_set_self]
      have hlength := congrArg length hc.kept
      rw [length_map] at hlength
      rw [hlength]
      exact (List.getElem?_eq_some_iff.mp hjob.2.1).1
  others := by
    rintro _ k (⟨hostname, conn⟩ | ⟨place, host⟩) c k' x hc hjob hx
    · rw [investigateHost_lookup]
      exact hx
    · rcases x with (⟨hostname', conn'⟩ | ⟨place', host'⟩) | _
      · exact hx
      · exact hx
      · intro hnodup
        obtain ⟨-, hset⟩ := probing_writeHost hc hjob
        obtain ⟨rfl, hobserved⟩ := hjob.2.2.2 hnodup
        obtain ⟨other, hother, hdone⟩ := hx hnodup
        have hnow : entries (investigateHost r () (.writeBack place host) c).1 =
            (entries c).set (place.position n) host := hset
        rw [hnow]
        by_cases hk : place.position n = k'
        · subst hk
          refine ⟨host, ?_, hobserved⟩
          exact List.getElem?_set_self (List.getElem?_eq_some_iff.mp hother).1
        · exact ⟨other, by rw [List.getElem?_set_ne hk]; exact hother, hdone⟩

end Probing

/-! ### All hosts -/

section AllHosts

variable {r : Readers} {a : Answers} {controlPlane staticWorkers : List HostConfig} {c : Cluster}

theorem forall₂_nodeTasks {n start : ℕ} {configs nodes : List HostConfig}
    (h : ∀ i node, nodes[i]? = some node → configs[start + i]? = some node) (c : Cluster) :
    Forall₂ (fun k node => ∀ job, node.2 = .ok job → Probe r n configs a.conns k c (.inl job))
      (range' start nodes.length) (nodeTasks a start nodes) := by
  refine forall₂_iff_get.mpr ⟨by simp [nodeTasks], fun i hi hi' job hjob => ?_⟩
  have hlt : i < nodes.length := by simpa using hi
  simp only [nodeTasks, get_eq_getElem, getElem_mapIdx] at hjob
  simp only [get_eq_getElem, getElem_range', Nat.one_mul]
  rcases hconn : a.conns (start + i) with err | conn
  · rw [hconn] at hjob
    cases hjob
  · rw [hconn] at hjob
    obtain rfl := Except.ok.inj hjob
    exact ⟨⟨nodes[i], h i nodes[i] (getElem?_eq_getElem hlt), rfl⟩, hconn⟩

theorem forall₂_controlPlane (c : Cluster) :
    Forall₂ (fun k node => ∀ job, node.2 = .ok job → Probe r controlPlane.length
        (controlPlane ++ staticWorkers) a.conns k c (.inl job))
      (range' 0 controlPlane.length) (nodeTasks a 0 controlPlane) := by
  refine forall₂_nodeTasks (fun i node hi => ?_) c
  rw [Nat.zero_add, List.getElem?_append_left (List.getElem?_eq_some_iff.mp hi).1]
  exact hi

theorem forall₂_staticWorkers (c : Cluster) :
    Forall₂ (fun k node => ∀ job, node.2 = .ok job → Probe r controlPlane.length
        (controlPlane ++ staticWorkers) a.conns k c (.inl job))
      (range' controlPlane.length staticWorkers.length)
      (nodeTasks a controlPlane.length staticWorkers) := by
  refine forall₂_nodeTasks (fun i node hi => ?_) c
  rw [getElem?_append_right (Nat.le_add_right _ _), Nat.add_sub_cancel_left]
  exact hi

theorem probing_runTaskOnAllNodes
    (hc : Probing r controlPlane.length (controlPlane ++ staticWorkers) a.conns c) :
    Probing r controlPlane.length (controlPlane ++ staticWorkers) a.conns
      (runTaskOnAllNodes r a controlPlane staticWorkers c).1 := by
  have hcontract := taskContract_investigateHost r controlPlane.length
    (controlPlane ++ staticWorkers) a.conns
  rcases hout : runTaskOnAllNodes r a controlPlane staticWorkers c with ⟨c', status⟩
  rcases andThen_eq hout with ⟨hfirst, -⟩ | ⟨d, hfirst, hsecond⟩
  · exact runTaskOnNodes_invariant hcontract hc (forall₂_controlPlane c) hfirst
  · have hd := runTaskOnNodes_invariant hcontract hc (forall₂_controlPlane c) hfirst
    exact runTaskOnNodes_invariant hcontract hd (forall₂_staticWorkers d) hsecond

theorem observed_of_runTaskOnAllNodes
    (hc : Probing r controlPlane.length (controlPlane ++ staticWorkers) a.conns c)
    (hrun : runTaskOnAllNodes r a controlPlane staticWorkers c = (c', .success))
    (hnodup : ((controlPlane ++ staticWorkers).map (·.hostname)).Nodup)
    (hk : k < (controlPlane ++ staticWorkers).length) :
    ∃ host, (entries c')[k]? = some host ∧ Observed r controlPlane.length a.conns k host := by
  have hcontract := taskContract_investigateHost r controlPlane.length
    (controlPlane ++ staticWorkers) a.conns
  obtain ⟨d, hfirst, hsecond⟩ := of_andThen_success hrun
  have hd := runTaskOnNodes_invariant hcontract hc (forall₂_controlPlane c) hfirst
  have hcp := runTaskOnNodes_success hcontract hc (forall₂_controlPlane c) hfirst
  by_cases hlt : k < controlPlane.length
  · -- the probes of the static workers leave the entries of the control plane as they are
    have hkept := runTaskOnNodes_invariant (hcontract.carry (range' 0 controlPlane.length))
      ⟨hd, hcp⟩ (forall₂_staticWorkers d) hsecond
    exact hkept.2 k (by simpa using hlt) hnodup
  · have hsw := runTaskOnNodes_success hcontract hd (forall₂_staticWorkers d) hsecond
    rw [length_append] at hk
    exact hsw k (by simp; omega) hnodup

end AllHosts

/-! ### What comes after the probes of the hosts -/

structure Keeps (s s' : ProbeState) : Prop where
  controlPlane : s'.liveCluster.controlPlane.map observed = s.liveCluster.controlPlane.map observed
  staticWorkers :
    s'.liveCluster.staticWorkers.map observed = s.liveCluster.staticWorkers.map observed

theorem Keeps.refl (s : ProbeState) : Keeps s s := ⟨rfl, rfl⟩

theorem Keeps.trans {s t u : ProbeState} (h : Keeps s t) (h' : Keeps t u) : Keeps s u :=
  ⟨h'.controlPlane.trans h.controlPlane, h'.staticWorkers.trans h.staticWorkers⟩

theorem Keeps.entries {s s' : ProbeState} (h : Keeps s s') :
    (entries s'.liveCluster).map observed = (entries s.liveCluster).map observed := by
  rw [Probes.entries, Probes.entries, map_append, map_append, h.controlPlane, h.staticWorkers]

theorem isProvisioned_eq (c : Cluster) : c.isProvisioned =
    (c.controlPlane.map observed).any fun (_, containerd, kubelet, _) =>
      (containerd.isProvisioned && kubelet.isProvisioned) &&
        kubelet.status &&& kubeletInitialized != 0 := by
  rw [Cluster.isProvisioned, any_map]
  rfl

theorem Keeps.isProvisioned {s s' : ProbeState} (h : Keeps s s') :
    s'.liveCluster.isProvisioned = s.liveCluster.isProvisioned := by
  rw [isProvisioned_eq, isProvisioned_eq, h.controlPlane]

/-- After the election the hosts of the configuration stay as well. -/
structure Settles (s s' : ProbeState) : Prop extends Keeps s s' where
  configs : s'.controlPlane = s.controlPlane

theorem Settles.refl (s : ProbeState) : Settles s s := ⟨.refl s, rfl⟩

theorem Settles.trans {s t u : ProbeState} (h : Settles s t) (h' : Settles t u) : Settles s u :=
  ⟨h.toKeeps.trans h'.toKeeps, h'.configs.trans h.configs⟩

section After

variable {a : Answers} {s s' : ProbeState}

theorem relates_withAnswer {α : Type} {answer : Except Failure α} {onError : Failure → Failure}
    {f : α → Stage ProbeState Failure} (h : ∀ x, Relates Settles (f x)) :
    Relates Settles (withAnswer answer onError f) := by
  intro s
  cases answer with
  | error err => exact .refl s
  | ok x => exact h x s

theorem relates_updateCluster {f : Cluster → Cluster}
    (hcp : ∀ c, (f c).controlPlane.map observed = c.controlPlane.map observed)
    (hsw : ∀ c, (f c).staticWorkers.map observed = c.staticWorkers.map observed) :
    Relates Settles (ProbeState.updateCluster f) :=
  fun s => ⟨⟨hcp s.liveCluster, hsw s.liveCluster⟩, rfl⟩

theorem observed_etcdStatus (members : List String) (i : ℕ) (h : Host) :
    observed (etcdStatus a members i h) = observed h := by
  unfold etcdStatus
  split <;> rfl

theorem relates_fetchEncryptionProvidersFile (a : Answers) :
    Relates Settles (fetchEncryptionProvidersFile a) := by
  intro s
  unfold fetchEncryptionProvidersFile
  split
  · refine relates_withAnswer (fun text => ?_) s
    exact relates_updateCluster (fun _ => rfl) fun _ => rfl
  · exact .refl s

theorem relates_clusterProbes (a : Answers) : ∀ f ∈ clusterProbes a, Relates Settles f := by
  simp only [clusterProbes, forall_mem_cons]
  refine ⟨?_, ?_, ?_, ?_, ?_, fun f hf => by cases hf⟩
  · refine relates_withAnswer fun members => relates_updateCluster (fun c => ?_) fun _ => rfl
    refine ext_getElem (by simp) fun i _ _ => ?_
    simp [observed_etcdStatus]
  · intro s
    unfold buildKubernetesClientset
    split
    · exact .refl s
    · exact relates_withAnswer (fun _ s => ⟨⟨rfl, rfl⟩, rfl⟩) s
  · refine relates_withAnswer fun nodes => relates_updateCluster (fun c => ?_) fun c => ?_
    · exact (c.markNodes_map (fun _ => rfl) nodes).1
    · exact (c.markNodes_map (fun _ => rfl) nodes).2
  · exact relates_withAnswer fun pods => relates_updateCluster (fun _ => rfl) fun _ => rfl
  · refine relates_withAnswer fun pods => ?_
    split
    · exact Relates.andThen (fun _ _ _ => Settles.trans)
        (relates_updateCluster (fun _ => rfl) fun _ => rfl) (relates_fetchEncryptionProvidersFile a)
    · exact relates_skip Settles.refl

theorem relates_sequence_clusterProbes (a : Answers) :
    Relates Settles (sequence (clusterProbes a)) :=
  Relates.sequence Settles.refl (fun _ _ _ => Settles.trans) (relates_clusterProbes a)

theorem relates_setClusterName (a : Answers) : Relates Settles (setClusterName a) :=
  relates_withAnswer fun _ => relates_updateCluster (fun _ => rfl) fun _ => rfl

theorem observed_elect (health : ℕ → Bool) (i : ℕ) (leaderElected : Bool) (hosts : List Host) :
    (elect health i leaderElected hosts).1.map observed = hosts.map observed := by
  induction hosts generalizing i leaderElected with
  | nil => rfl
  | cons h hosts ih =>
    simp only [elect]
    split
    · simp only [map_cons, ih]
      rfl
    · simp only [map_cons, ih]

theorem relates_electLeader (a : Answers) : Relates Keeps (electLeader a) := by
  intro s
  refine ⟨?_, rfl⟩
  simp only [electLeader, ProbeState.setControlPlane, observed_elect, map_map]
  rfl

theorem relates_investigateCluster (a : Answers) : Relates Keeps (investigateCluster a) := by
  have hrest : Relates Keeps (sequence (clusterProbes a)) :=
    fun s => (relates_sequence_clusterProbes a s).toKeeps
  have htrans : ∀ s t u, Keeps s t → Keeps t u → Keeps s u := fun _ _ _ => Keeps.trans
  intro s
  unfold investigateCluster
  split
  · exact Relates.andThen htrans (relates_electLeader a) hrest s
  · exact .refl s

theorem probing_start (r : Readers) (conns : ℕ → Except Failure Conn) (s : ProbeState)
    (expectedVersion : Semver.Version) :
    Probing r s.controlPlane.length (s.controlPlane ++ s.staticWorkers) conns
      (s.start expectedVersion).liveCluster where
  length := by simp [ProbeState.start, freshCluster]
  kept := by simp [ProbeState.start, freshCluster, entries, Function.comp_def]
  entry k host h := by
    have hmem : host ∈ (s.controlPlane ++ s.staticWorkers).map ({ config := · }) := by
      rw [map_append]
      exact mem_of_getElem? h
    obtain ⟨config, -, rfl⟩ := mem_map.mp hmem
    exact .inl rfl

theorem probeHosts_start {r : Readers} {expectedVersion : Semver.Version} {c : Cluster}
    {status : Status Failure} (h : runTaskOnAllNodes r a s.controlPlane s.staticWorkers
      (s.start expectedVersion).liveCluster = (c, status)) :
    probeHosts r a (s.start expectedVersion) = ({ s with liveCluster := c }, status) :=
  congrArg (fun p : Cluster × Status Failure =>
    (({ s with liveCluster := p.1 } : ProbeState), p.2)) h

theorem runProbes_success {r : Readers} (h : runProbes r a s = (s', .success)) :
    ∃ expectedVersion c, r.newVersion s.kubernetes = .ok expectedVersion ∧
      runTaskOnAllNodes r a s.controlPlane s.staticWorkers (s.start expectedVersion).liveCluster =
        (c, .success) ∧ Keeps { s with liveCluster := c } s' := by
  unfold runProbes at h
  split at h
  · cases congrArg Prod.snd h
  · rename_i expectedVersion hversion
    obtain ⟨t, hhosts, hrest⟩ := of_andThen_success h
    obtain ⟨u, hcluster, hname⟩ := of_andThen_success hrest
    rcases hrun : runTaskOnAllNodes r a s.controlPlane s.staticWorkers
      (s.start expectedVersion).liveCluster with ⟨c, status⟩
    obtain ⟨rfl, rfl⟩ := Prod.mk.inj ((probeHosts_start hrun).symm.trans hhosts)
    refine ⟨expectedVersion, c, hversion, hrun, ?_⟩
    have hkeep : Keeps { s with liveCluster := c } u := by
      unfold investigateProvisioned at hcluster
      split_ifs at hcluster
      · have hinvestigated := relates_investigateCluster a { s with liveCluster := c }
        rwa [hcluster] at hinvestigated
      · cases hcluster
        exact .refl _
    have hlast := (relates_setClusterName a u).toKeeps
    rw [hname] at hlast
    exact hkeep.trans hlast

end After

/-! ### The attribution -/

section Attribution

variable {r : Readers} {a : Answers} {s s' : ProbeState}

theorem exists_shadowed {configs : List HostConfig} (h : ¬ (configs.map (·.hostname)).Nodup) :
    ∃ k < configs.length, Shadowed configs k := by
  rw [nodup_iff_getElem?_ne_getElem?] at h
  push Not at h
  obtain ⟨j, k, hjk, hk, hsame⟩ := h
  rw [length_map] at hk
  have hj : j < configs.length := hjk.trans hk
  refine ⟨k, hk, j, hjk, configs[j], configs[k], by simp, by simp, ?_⟩
  simpa [hj, hk] using hsame

/-- After a successful run the entry of every host holds what was observed on that host if and
only if the hostnames are pairwise different. -/
theorem entries_hold_own_observations_iff (hrun : runProbes r a s = (s', .success)) :
    (∀ k node, (s.controlPlane ++ s.staticWorkers)[k]? = some node →
      ∃ conn host entry, a.conns k = .ok conn ∧
        investigate r conn (decide (k < s.controlPlane.length)) { config := node } = .ok host ∧
        (s'.liveCluster.controlPlane ++ s'.liveCluster.staticWorkers)[k]? = some entry ∧
        observed entry = observed host) ↔
      ((s.controlPlane ++ s.staticWorkers).map (·.hostname)).Nodup := by
  obtain ⟨expectedVersion, c, -, hhosts, hkeeps⟩ := runProbes_success hrun
  have hstart := probing_start r a.conns s expectedVersion
  have hend := probing_runTaskOnAllNodes hstart
  rw [hhosts] at hend
  have hentry : ∀ (k : ℕ) host, (entries c)[k]? = some host →
      ∃ entry, (entries s'.liveCluster)[k]? = some entry ∧ observed entry = observed host := by
    intro k host hhost
    have hmap := congrArg (·[k]?) hkeeps.entries
    simp only [getElem?_map, hhost, Option.map_some] at hmap
    exact Option.map_eq_some_iff.mp hmap
  constructor
  · intro hown
    by_contra hdup
    obtain ⟨k, hk, hshadowed⟩ := exists_shadowed hdup
    obtain ⟨conn, host, entry, -, hhost, hget, hobserved⟩ := hown k _ (getElem?_eq_getElem hk)
    -- the entry of the shadowed host has not been written
    have hlength : (entries c).length = (s.controlPlane ++ s.staticWorkers).length := by
      rw [← hend.kept, length_map]
    have hlt : k < (entries c).length := hlength ▸ hk
    have hfresh := (hend.entry k _ (getElem?_eq_getElem hlt)).resolve_right
      fun h => h.1 hshadowed
    obtain ⟨entry', hget', hobserved'⟩ := hentry k _ (getElem?_eq_getElem hlt)
    obtain rfl := Option.some.inj (hget.symm.trans hget')
    have hkernel : host.kernelRelease = (entries c)[k].kernelRelease :=
      congrArg Prod.fst (hobserved.symm.trans hobserved')
    rw [hfresh] at hkernel
    exact (investigate_keeps hhost).2 (by rw [hkernel])
  · intro hnodup k node hnode
    obtain ⟨hk, rfl⟩ := List.getElem?_eq_some_iff.mp hnode
    obtain ⟨host, hget, conn, hconn, hhost⟩ := observed_of_runTaskOnAllNodes hstart hhosts hnodup hk
    obtain ⟨entry, hentry, hobserved⟩ := hentry k host hget
    have hconfig := (hend.config_getElem? hget).symm.trans hnode
    rw [Option.some.inj hconfig] at hhost
    exact ⟨conn, host, entry, hconn, hhost, hentry, hobserved⟩

end Attribution

/-! ### Two machines made from one image -/

def readers : Readers where
  newVersion text := match text with
    | "5.15.0" => .ok (.release 5 15 0)
    | "4.15.0" => .ok (.release 4 15 0)
    | "1.7.13" => .ok (.release 1 7 13)
    | "v1.30.0" | "1.30.0" => .ok (.release 1 30 0)
    | _ => .error (.new "Invalid Semantic Version")
  unmarshal text := match text with
    | "LoadState: not-found\nActiveState: inactive\nSubState: dead\n" =>
      .ok [("LoadState", "not-found"), ("ActiveState", "inactive"), ("SubState", "dead")]
    | "LoadState: loaded\nActiveState: active\nSubState: running\n" =>
      .ok [("LoadState", "loaded"), ("ActiveState", "active"), ("SubState", "running")]
    | _ => .error (.new "yaml: unmarshal errors")

namespace Clones

def machine (kernel : String) : Conn where
  exec cmd :=
    if cmd = "uname -r" then { stdout := kernel }
    else if cmd = "test -f /etc/kubernetes/kubelet.conf" then
      { exitcode := 1, err := some (.new "Process exited with status 1") }
    else { stdout := "LoadState=not-found\nActiveState=inactive\nSubState=dead\n" }
  fetchCert _ := .error (.new "file does not exist")

def host (address : String) (isLeader : Bool) : HostConfig :=
  { publicAddress := address, privateAddress := address, sshUsername := "root",
    sshAgentSocket := "env:SSH_AUTH_SOCK", isLeader }

def cluster : Apis.V1beta3.KubeOneCluster :=
  { controlPlane := { hosts := [host "10.0.0.1" true, host "10.0.0.2" false] }
    kubernetes := "1.30.0" }

def reported (hostnames : List String) : ProbeState where
  controlPlane := List.zipWith determineHostname hostnames cluster.controlPlane.hosts
  staticWorkers := cluster.staticWorkers
  kubernetes := cluster.kubernetes

def answers : Answers where
  conns i := .ok (machine (if i = 0 then "5.15.0-91-generic\n" else "4.15.0-20-generic\n"))
  controlPlaneEvents := [.start, .start, .request 0 (), .request 0 (), .request 1 (), .request 1 ()]
  staticWorkersEvents := []
  apiServerHealth _ := false
  etcdMembers := .ok []
  etcdHealth _ := none
  clientset := .ok ()
  nodes := .ok []
  authenticationPods := .ok []
  encryptionPods := .ok []
  encryptionProvidersFile := .ok ""
  clusterName := .ok "demo"

theorem named_machines_keep_observations :
    Apis.Validation.validateKubeOneCluster cluster = [] ∧
      ∀ k node, ((reported ["cp-1", "cp-2"]).controlPlane ++
          (reported ["cp-1", "cp-2"]).staticWorkers)[k]? = some node →
        ∃ conn host entry, answers.conns k = .ok conn ∧
          investigate readers conn (decide (k < (reported ["cp-1", "cp-2"]).controlPlane.length))
            { config := node } = .ok host ∧
          ((runProbes readers answers (reported ["cp-1", "cp-2"])).1.liveCluster.controlPlane ++
            (runProbes readers answers
              (reported ["cp-1", "cp-2"])).1.liveCluster.staticWorkers)[k]? = some entry ∧
          observed entry = observed host :=
  ⟨by decide +kernel,
    (entries_hold_own_observations_iff (eq_of_snd (by decide +kernel))).mpr (by decide)⟩

/-- The kernel of the second machine stands in the entry of the first one, and the entry of the
second one is empty. -/
theorem one_hostname_mixes_machines :
    Apis.Validation.validateKubeOneCluster cluster = [] ∧
      (runProbes readers answers (reported ["ubuntu", "ubuntu"])).2 = .success ∧
      ((reported ["ubuntu", "ubuntu"]).controlPlane.mapIdx fun k node =>
        ((answers.conns k).bind (investigate readers · true { config := node })).toOption.bind
          (·.kernelRelease.version)) = [some (.release 5 15 0), some (.release 4 15 0)] ∧
      (runProbes readers answers (reported ["ubuntu", "ubuntu"])).1.liveCluster.controlPlane.map
        (·.kernelRelease.version) = [some (.release 4 15 0), none] := by
  decide +kernel

end Clones

end KubeOne.Tasks.Probes
