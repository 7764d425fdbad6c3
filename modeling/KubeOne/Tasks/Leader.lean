import KubeOne.Tasks.Attribution

/-! The leader after the probes. An attempt that finds the cluster provisioned takes all flags
away and gives one to the first host whose API server is healthy, if there is one; every other
attempt leaves them alone. The flags outlive an attempt that fails. -/

namespace KubeOne.Tasks.Probes

open Process State List

section Election

variable {health : ℕ → Bool} {hosts : List Host}

theorem elect_cons_of_healthy {h : Host} {i : ℕ} (hi : health i = true) (leaderElected : Bool) :
    elect health i leaderElected (h :: hosts) =
      ({ h with
          apiServer := ⟨h.apiServer.status ||| podRunning⟩
          config := if leaderElected then h.config else { h.config with isLeader := true } } ::
        (elect health (i + 1) true hosts).1, (elect health (i + 1) true hosts).2) := by
  simp only [elect, hi, if_true]

theorem elect_cons_of_not_healthy {h : Host} {i : ℕ} (hi : ¬ health i = true)
    (leaderElected : Bool) : elect health i leaderElected (h :: hosts) =
      (h :: (elect health (i + 1) leaderElected hosts).1,
        (elect health (i + 1) leaderElected hosts).2) := by
  simp only [elect, hi, if_false, Bool.false_eq_true]

theorem countP_elect_true (hnone : ∀ h ∈ hosts, h.config.isLeader = false) (i : ℕ) :
    (elect health i true hosts).1.countP (·.config.isLeader) = 0 := by
  induction hosts generalizing i with
  | nil => rfl
  | cons h hosts ih =>
    rw [forall_mem_cons] at hnone
    by_cases hi : health i = true
    · rw [elect_cons_of_healthy hi, countP_cons, ih hnone.2]
      simp [hnone.1]
    · rw [elect_cons_of_not_healthy hi, countP_cons, ih hnone.2]
      simp [hnone.1]

variable (health) in
theorem countP_elect (hnone : ∀ h ∈ hosts, h.config.isLeader = false) (i : ℕ) :
    (elect health i false hosts).1.countP (·.config.isLeader) =
      if ∃ j < hosts.length, health (i + j) = true then 1 else 0 := by
  induction hosts generalizing i with
  | nil => simp [elect]
  | cons h hosts ih =>
    rw [forall_mem_cons] at hnone
    simp only [length_cons, Nat.exists_lt_succ_left]
    by_cases hi : health i = true
    · simp [elect_cons_of_healthy hi, countP_elect_true hnone.2, hi]
    · simp [elect_cons_of_not_healthy hi, ih hnone.2, hnone.1, hi, Nat.add_assoc, Nat.add_comm 1]

theorem healthy_of_elect (hnone : ∀ h ∈ hosts, h.config.isLeader = false) {i j : ℕ}
    {leaderElected : Bool} {h : Host} (hget : (elect health i leaderElected hosts).1[j]? = some h)
    (hleader : h.config.isLeader = true) : health (i + j) = true := by
  induction hosts generalizing i j leaderElected with
  | nil => simp [elect] at hget
  | cons first hosts ih =>
    rw [forall_mem_cons] at hnone
    have hshift : ∀ j, i + (j + 1) = i + 1 + j := fun j => by omega
    by_cases hi : health i = true
    · rw [elect_cons_of_healthy hi] at hget
      cases j with
      | zero => exact hi
      | succ j => exact hshift j ▸ ih hnone.2 hget
    · rw [elect_cons_of_not_healthy hi] at hget
      cases j with
      | zero =>
        obtain rfl := Option.some.inj hget
        exact absurd hleader (by rw [hnone.1]; exact Bool.false_ne_true)
      | succ j => exact hshift j ▸ ih hnone.2 hget

end Election

section Attempt

/-- The attempt gets to an election: its probes of the hosts find the cluster provisioned. -/
def electing (r : Readers) (a : Answers) (s : ProbeState) : Bool :=
  match r.newVersion s.kubernetes with
  | .error _ => false
  | .ok expectedVersion =>
    match probeHosts r a (s.start expectedVersion) with
    | (t, .success) => t.liveCluster.isProvisioned
    | _ => false

def someHealthy (a : Answers) (s : ProbeState) : Bool :=
  (List.range s.controlPlane.length).any a.apiServerHealth

def elected (a : Answers) (c : Cluster) : List HostConfig :=
  (elect a.apiServerHealth 0 false (c.controlPlane.map clearLeader)).1.map (·.config)

variable {r : Readers} {a : Answers} {s s' : ProbeState}

theorem controlPlane_andThen {f g : Stage ProbeState Failure} (hg : Stage.Relates Settles g)
    (s : ProbeState) : (f.andThen g s).1.controlPlane = (f s).1.controlPlane := by
  rcases hout : f.andThen g s with ⟨s', status⟩
  rcases Stage.andThen_eq hout with ⟨hfirst, -⟩ | ⟨t, hfirst, hrest⟩
  · rw [hfirst]
  · have hkept := (hg t).configs
    rw [hrest] at hkept
    rw [hfirst, hkept]

theorem controlPlane_investigateCluster (hs : s.liveCluster.isProvisioned = true) :
    (investigateCluster a s).1.controlPlane = elected a s.liveCluster := by
  rw [investigateCluster, if_pos hs, controlPlane_andThen (relates_sequence_clusterProbes a)]
  rfl

theorem controlPlane_runProbes (r : Readers) (a : Answers) (s : ProbeState) :
    electing r a s = false ∧ (runProbes r a s).1.controlPlane = s.controlPlane ∨
      electing r a s = true ∧ ∃ c : Cluster, c.controlPlane.length = s.controlPlane.length ∧
        (runProbes r a s).1.controlPlane = elected a c := by
  rcases hversion : r.newVersion s.kubernetes with err | expectedVersion
  · left
    simp only [electing, runProbes, hversion, and_self]
  have hprobes : runProbes r a s = (probeHosts r a).andThen
      ((investigateProvisioned a).andThen (setClusterName a)) (s.start expectedVersion) := by
    simp only [runProbes, hversion]
  rcases hrun : runTaskOnAllNodes r a s.controlPlane s.staticWorkers
    (s.start expectedVersion).liveCluster with ⟨c, status⟩
  have hhosts := probeHosts_start hrun
  have hlength : c.controlPlane.length = s.controlPlane.length := by
    have hc := (probing_runTaskOnAllNodes (probing_start r a.conns s expectedVersion)).length
    rwa [hrun] at hc
  by_cases hstatus : status = .success
  · subst hstatus
    rw [hprobes, Stage.andThen_of_success hhosts, controlPlane_andThen (relates_setClusterName a),
      investigateProvisioned]
    cases hprovisioned : c.isProvisioned with
    | true =>
      right
      refine ⟨by simp only [electing, hversion, hhosts, hprovisioned], c, hlength, ?_⟩
      rw [if_pos rfl]
      exact controlPlane_investigateCluster hprovisioned
    | false =>
      left
      refine ⟨by simp only [electing, hversion, hhosts, hprovisioned], ?_⟩
      rw [if_neg Bool.false_ne_true]
  · left
    rw [hprobes, Stage.andThen_of_ne hhosts hstatus]
    refine ⟨?_, rfl⟩
    simp only [electing, hversion, hhosts]
    split
    · rename_i heq
      exact absurd (congrArg Prod.snd heq) hstatus
    · rfl

theorem clearLeader_isLeader (c : Cluster) :
    ∀ h ∈ c.controlPlane.map clearLeader, h.config.isLeader = false := by
  intro h hh
  obtain ⟨host, -, rfl⟩ := mem_map.mp hh
  rfl

theorem countP_elected {c : Cluster} (hc : c.controlPlane.length = s.controlPlane.length) :
    (elected a c).countP (·.isLeader) = if someHealthy a s = true then 1 else 0 := by
  rw [elected, countP_map]
  have hcount := countP_elect a.apiServerHealth (clearLeader_isLeader c) 0
  simpa [someHealthy, hc, Function.comp_def] using hcount

theorem leader_healthy_of_success (hrun : runProbes r a s = (s', .success))
    (hprovisioned : s'.liveCluster.isProvisioned = true) {i : ℕ} {host : HostConfig}
    (hget : s'.controlPlane[i]? = some host) (hleader : host.isLeader = true) :
    a.apiServerHealth i = true := by
  obtain ⟨expectedVersion, c, hversion, hhosts, hkeeps⟩ := runProbes_success hrun
  rcases controlPlane_runProbes r a s with ⟨helecting, -⟩ | ⟨-, d, -, hd⟩
  · -- the cluster has been provisioned before the election already
    rw [hkeeps.isProvisioned] at hprovisioned
    simp only [electing, hversion, probeHosts_start hhosts] at helecting
    rw [hprovisioned] at helecting
    cases helecting
  · rw [hrun] at hd
    rw [hd, elected, getElem?_map] at hget
    obtain ⟨h, hh, rfl⟩ := Option.map_eq_some_iff.mp hget
    have hhealthy := healthy_of_elect (clearLeader_isLeader d) hh hleader
    rwa [Nat.zero_add] at hhealthy

end Attempt

section Task

/-- The last election that has been held, if any, was won by some host. -/
def lastElectionWon (r : Readers) (attempts : List (ProbeState × Answers)) : Bool :=
  ((attempts.filter fun (s, a) => electing r a s).getLast?).all fun (s, a) => someHealthy a s

variable {r : Readers}

theorem lastElectionWon_concat (past : List (ProbeState × Answers)) (s : ProbeState)
    (a : Answers) : lastElectionWon r (past ++ [(s, a)]) =
      if electing r a s = true then someHealthy a s else lastElectionWon r past := by
  cases h : electing r a s <;> simp [lastElectionWon, filter_append, h]

theorem countP_isLeader_runProbes {past : List (ProbeState × Answers)} {s : ProbeState}
    (a : Answers) (h : s.controlPlane.countP (·.isLeader) =
      if lastElectionWon r past = true then 1 else 0) :
    (runProbes r a s).1.controlPlane.countP (·.isLeader) =
      if lastElectionWon r (past ++ [(s, a)]) = true then 1 else 0 := by
  rw [lastElectionWon_concat]
  rcases controlPlane_runProbes r a s with ⟨helecting, hkept⟩ | ⟨helecting, c, hc, helected⟩
  · rw [helecting, hkept, h]
    rfl
  · rw [helecting, helected, countP_elected hc]
    rfl

theorem countP_isLeader_run {retries : ℕ} {answers : ℕ → Answers} {s : ProbeState}
    (hleader : s.controlPlane.countP (·.isLeader) = 1) :
    (Task.run retries (runProbes r) answers s).1.controlPlane.countP (·.isLeader) =
      if lastElectionWon r (Task.attempts retries (runProbes r) answers s) = true then 1
      else 0 := by
  refine Task.run_invariant (J := fun past s => s.controlPlane.countP (·.isLeader) =
    if lastElectionWon r past = true then 1 else 0) (fun past s a h => ?_) hleader
  exact countP_isLeader_runProbes a h

/-- Started with one leader, a run of the task that succeeds ends with one leader, whose API
server was healthy if the cluster is provisioned, if and only if the last election was won. -/
theorem one_leader_after_probes_iff {retries : ℕ} {answers : ℕ → Answers} {s s' t : ProbeState}
    {past : List (ProbeState × Answers)} {a : Answers}
    (hleader : s.controlPlane.countP (·.isLeader) = 1)
    (hrun : Task.run retries (runProbes r) answers s = (s', .success))
    (hlast : Task.attempts retries (runProbes r) answers s = past ++ [(t, a)]) :
    (s'.controlPlane.countP (·.isLeader) = 1 ∧
      (s'.liveCluster.isProvisioned = true → ∀ i host, s'.controlPlane[i]? = some host →
        host.isLeader = true → a.apiServerHealth i = true)) ↔
      lastElectionWon r (past ++ [(t, a)]) = true := by
  have hcount : s'.controlPlane.countP (·.isLeader) =
      if lastElectionWon r (past ++ [(t, a)]) = true then 1 else 0 := by
    rw [← hlast, ← countP_isLeader_run hleader, hrun]
  constructor
  · rintro ⟨hone, -⟩
    by_contra hlost
    rw [hcount, if_neg hlost] at hone
    cases hone
  · intro hwon
    refine ⟨by rw [hcount, if_pos hwon], fun hprovisioned i host hget hmark => ?_⟩
    exact leader_healthy_of_success (Task.last_success hrun hlast) hprovisioned hget hmark

end Task

namespace Reset

def missing : ExecResult := { exitcode := 1, err := some (.new "Process exited with status 1") }

def machine (initialized : Bool) : Conn where
  exec cmd :=
    if cmd = "uname -r" then { stdout := "5.15.0\n" }
    else if cmd = "systemctl show containerd -p ExecStart" then
      { stdout := "ExecStart=\x7b path=/usr/bin/containerd ; \x7d\n" }
    else if cmd = versionCmdGenerator "/usr/bin/containerd" then { stdout := "1.7.13\n" }
    else if cmd = "systemctl show kubelet -p ExecStart" then
      { stdout := "ExecStart=\x7b path=/usr/bin/kubelet ; \x7d\n" }
    else if cmd = kubeletVersionCmdGenerator "/usr/bin/kubelet" then { stdout := "v1.30.0\n" }
    else if cmd = "test -f /etc/kubernetes/kubelet.conf" then
      if initialized then {} else missing
    else if cmd = "sudo sha256sum /etc/kubernetes/authentication/config.yaml" then missing
    else { stdout := "LoadState=loaded\nActiveState=active\nSubState=running\n" }
  fetchCert _ := .ok 1000

def start : ProbeState where
  controlPlane := [{ hostname := "cp-1", isLeader := true }]
  staticWorkers := []
  kubernetes := "1.30.0"

def answers (initialized attempt : ℕ) : Answers :=
  { Clones.answers with
    conns _ := .ok (machine (attempt < initialized))
    controlPlaneEvents := [.start, .request 0 (), .request 0 ()] }

def provisioned : ProbeState :=
  { start with controlPlane := [{ hostname := "cp-1", isLeader := true }, { hostname := "cp-2" }] }

/-- The kubelets of both hosts are initialized, and only the second API server is healthy. -/
def secondHealthy : Answers :=
  { Clones.answers with conns _ := .ok (machine true), apiServerHealth := (· = 1) }

theorem healthy_host_takes_over :
    let s' := (runProbes readers secondHealthy provisioned).1
    Task.run 0 (runProbes readers) (fun _ => secondHealthy) provisioned = (s', .success) ∧
      s'.liveCluster.isProvisioned = true ∧
      s'.controlPlane.countP (·.isLeader) = 1 ∧ ∀ i host, s'.controlPlane[i]? = some host →
        host.isLeader = true → secondHealthy.apiServerHealth i = true := by
  intro s'
  let answers : ℕ → Answers := fun _ => secondHealthy
  have hfirst : runProbes readers (answers 0) provisioned = (s', .success) :=
    Stage.eq_of_snd (by decide +kernel)
  have hprovisioned : s'.liveCluster.isProvisioned = true := by decide +kernel
  obtain ⟨hrun, hlast⟩ := Task.run_of_success 0 hfirst
  obtain ⟨hone, hhealthy⟩ := (one_leader_after_probes_iff rfl hrun hlast).mpr (by decide +kernel)
  exact ⟨hrun, hprovisioned, hone, hhealthy hprovisioned⟩

/-- The first attempt takes the flag away and fails; the second one finds no cluster and
succeeds without a leader. -/
theorem reset_host_loses_leader :
    start.controlPlane.countP (·.isLeader) = 1 ∧
      (Task.run 0 (runProbes readers) (answers 1) start).2 = .success ∧
      (Task.run 0 (runProbes readers) (answers 1) start).1.controlPlane.countP (·.isLeader) =
        0 := by
  decide +kernel

end Reset

end KubeOne.Tasks.Probes
