import KubeOne.Process.Retry
import KubeOne.State.Cluster

/-! The updates of API objects during an upgrade, with retries on conflict. The tasks wrap an
error variable other than the one that holds the failure of the update. A wrapped nil is success,
so a failed write ends the task silently. -/

namespace KubeOne.Tasks

open Process State

inductive Err
  | config (err op : String)
  | message (err : String)
  | api (conflict : Bool)
  | runtime (err : Err) (op : String)
  | kubeClient (err : Err) (op : String)

/-- The helpers of `fail` wrap an error and leave nil as it is. -/
def failRuntime (err : Option Err) (op : String) : Option Err := err.map (.runtime · op)

def failKubeClient (err : Option Err) (op : String) : Option Err := err.map (.kubeClient · op)

/-- How a task ends: with the error it returns, if any, or in a crash. -/
inductive Outcome
  | returned (err : Option Err)
  | panicked

def leader (hosts : List HostConfig) : Except Err HostConfig :=
  match hosts.find? (·.isLeader) with
  | some host => .ok host
  | none => .error (.config "not found" "leader")

/-- The parts of the generated configuration that go to ConfigMaps. -/
structure KubeadmConfig where
  clusterConfiguration : String
  kubeletConfiguration : String
  kubeProxyConfiguration : String

/-- The constructor of the generator for a Kubernetes version, and the generator. -/
abbrev KubeadmProvider := String → Except Err (HostConfig → Except Err KubeadmConfig)

structure ConfigEntry where
  name : String
  key : String
  value : String

structure ConfigMap where
  data : Option (String → Option String)

/-- Writing to a nil map crashes. -/
def ConfigEntry.modify (e : ConfigEntry) (m : ConfigMap) : Option ConfigMap :=
  m.data.map fun data => { data := some (Function.update data e.key (some e.value)) }

def configEntries (c : KubeadmConfig) : List ConfigEntry :=
  [⟨"kubeadm-config", "ClusterConfiguration", c.clusterConfiguration⟩,
    ⟨"kubelet-config", "kubelet", c.kubeletConfiguration⟩,
    ⟨"kube-proxy", "config.conf", c.kubeProxyConfiguration⟩]

/-- The ConfigMaps of `kube-system`, and the answers to the attempts to update each entry. -/
abbrev ConfigMaps := String → Option ConfigMap

abbrev ConfigAnswers := ConfigEntry → ℕ → Attempt

structure UploadInput where
  hosts : List HostConfig
  kubernetes : String
  kubeadm : KubeadmProvider

def UploadInput.generate (i : UploadInput) : Except Err KubeadmConfig := do
  let host ← leader i.hosts
  let provider ← i.kubeadm i.kubernetes
  provider host

/-- `again` is the number of attempts that may follow the first one. -/
def uploadKubeadmToConfigMaps (i : UploadInput) (again : ℕ) (answers : ConfigAnswers)
    (s : ConfigMaps) : ConfigMaps × Outcome :=
  match i.generate with
  | .error e => (s, .returned (some e))
  | .ok kubeadmConfig =>
    -- the error of the steps above, which all went well
    let err : Option Err := none
    match updateEach (·.name) ConfigEntry.modify again answers (configEntries kubeadmConfig) s with
    | (s', none) => (s', .returned none)
    | (s', some (_, .crashed)) => (s', .panicked)
    | (s', some _) => (s', .returned (failRuntime err "updating kubeadm ConfigMaps"))

def ConfigEntry.Holds (e : ConfigEntry) (m : Option ConfigMap) : Prop :=
  ∃ data, m = some ⟨some data⟩ ∧ data e.key = some e.value

structure MachineDeployment where
  kubelet : String

abbrev MachineDeployments := String → Option MachineDeployment

/-- What the task reads of its state, and the answer to its list request: the names of the
MachineDeployments, each of them once. -/
structure MachinesInput where
  upgradeMachineDeployments : Bool
  deploy : Bool
  kubernetes : String
  listed : Except Bool { names : List String // names.Nodup }

def setKubelet (version : String) (_ : String) (md : MachineDeployment) :
    Option MachineDeployment :=
  some { md with kubelet := version }

def upgradeMachineDeployments (i : MachinesInput) (again : ℕ) (answers : String → ℕ → Attempt)
    (s : MachineDeployments) : MachineDeployments × Outcome :=
  if !i.upgradeMachineDeployments then (s, .returned none)
  else if !i.deploy then (s, .returned none)
  else match i.listed with
    | .error conflict =>
      (s, .returned (failKubeClient (some (.api conflict))
        "getting v1alpha1.MachineDeploymentList"))
    | .ok names =>
      match updateEach id (setKubelet i.kubernetes) again answers names.val s with
      | (s', none) => (s', .returned none)
      | (s', some (_, .crashed)) => (s', .panicked)
      | (s', some (name, ending)) =>
        -- the error of the last read, which the attempts leave behind
        let err : Option Err :=
          match ending with
          | .rejectedGet conflict => some (.api conflict)
          | _ => none
        (s', .returned (failKubeClient err
          ("updating v1alpha1.MachineDeployment kube-system/" ++ name)))

def HasKubelet (version : String) (_ : String) (md : Option MachineDeployment) : Prop :=
  ∃ m ∈ md, m.kubelet = version

section Upload

variable (i : UploadInput) (again : ℕ) (answers : ConfigAnswers) (s : ConfigMaps)

/-- No configuration is generated, or the update of a ConfigMap without data crashes, or
every ConfigMap holds its value before or is written: its turn comes, and the write reaches
the server. -/
def UploadsWritten : Prop :=
  ∀ c, i.generate = .ok c →
    (∃ e, Turn (·.name) ConfigEntry.modify again answers s (configEntries c) e ∧
        Crashes (·.name) ConfigEntry.modify again answers s e) ∨
      ∀ e ∈ configEntries c, e.Holds (s e.name) ∨
        Turn (·.name) ConfigEntry.modify again answers s (configEntries c) e ∧
          Reached (·.name) ConfigEntry.modify again answers s e

theorem configEntries_nodup (c : KubeadmConfig) : ((configEntries c).map (·.name)).Nodup := by
  simp [configEntries]

theorem ConfigEntry.holds_modify (e : ConfigEntry) (x y : ConfigMap) (h : e.modify x = some y) :
    e.Holds (some y) := by
  obtain ⟨data, hdata, rfl⟩ := Option.map_eq_some_iff.mp h
  exact ⟨_, rfl, Function.update_self _ _ _⟩

open ConfigEntry

theorem uploadKubeadmToConfigMaps_eq {c : KubeadmConfig} (hc : i.generate = .ok c) :
    (uploadKubeadmToConfigMaps i again answers s).1 =
        (updateEach (·.name) modify again answers (configEntries c) s).1 ∧
      ((uploadKubeadmToConfigMaps i again answers s).2 = .returned none ↔
        ¬ ∃ e ending, (updateEach (·.name) modify again answers
          (configEntries c) s).2 = some (e, ending) ∧ ending = .crashed) := by
  unfold uploadKubeadmToConfigMaps
  rw [hc]
  dsimp only
  generalize updateEach (·.name) modify again answers (configEntries c) s = r
  rcases r with ⟨s', _ | ⟨e, ending⟩⟩
  · simp
  · cases ending <;> simp [failRuntime]

variable {i again answers s}

theorem upload_success_iff :
    ((uploadKubeadmToConfigMaps i again answers s).2 = .returned none →
        ∃ c, i.generate = .ok c ∧ ∀ e ∈ configEntries c,
          e.Holds ((uploadKubeadmToConfigMaps i again answers s).1 e.name)) ↔
      UploadsWritten i again answers s := by
  unfold UploadsWritten
  rcases hgen : i.generate with err | c
  · simp [uploadKubeadmToConfigMaps, hgen]
  · obtain ⟨hstore, hsuccess⟩ := uploadKubeadmToConfigMaps_eq i again answers s hgen
    have hcrash := updateEach_stopped_iff modify again answers s
      (configEntries_nodup c) (E := (· = .crashed)) (by simp)
    have hholds := updateEach_holds_iff again answers s (configEntries_nodup c)
      holds_modify
    simp only [update_spec.2.1] at hcrash
    rw [hsuccess, hcrash, hstore]
    simp only [Except.ok.injEq, exists_eq_left', forall_eq', hholds]
    exact or_iff_not_imp_left.symm

end Upload

section Machines

variable (i : MachinesInput) (again : ℕ) (answers : String → ℕ → Attempt) (s : MachineDeployments)

def MachinesWritten : Prop :=
  ∀ names, i.listed = .ok names →
    (∃ name, Turn id (setKubelet i.kubernetes) again answers s names.val name ∧
        Unread id (setKubelet i.kubernetes) again answers s name) ∨
      ∀ name ∈ names.val, HasKubelet i.kubernetes name (s name) ∨
        Turn id (setKubelet i.kubernetes) again answers s names.val name ∧
          Reached id (setKubelet i.kubernetes) again answers s name

theorem hasKubelet_setKubelet (version name : String) (x y : MachineDeployment)
    (h : setKubelet version name x = some y) : HasKubelet version name (some y) := by
  cases h
  exact ⟨_, rfl, rfl⟩

theorem upgradeMachineDeployments_eq {names : { names : List String // names.Nodup }}
    (hflag : i.upgradeMachineDeployments = true) (hdeploy : i.deploy = true)
    (hlisted : i.listed = .ok names) :
    (upgradeMachineDeployments i again answers s).1 =
        (updateEach id (setKubelet i.kubernetes) again answers names.val s).1 ∧
      ((upgradeMachineDeployments i again answers s).2 = .returned none ↔
        ¬ ∃ name ending, (updateEach id (setKubelet i.kubernetes) again answers
          names.val s).2 = some (name, ending) ∧
            (ending = .crashed ∨ ∃ conflict, ending = .rejectedGet conflict)) := by
  unfold upgradeMachineDeployments
  rw [hflag, hdeploy, hlisted]
  dsimp only
  generalize updateEach id (setKubelet i.kubernetes) again answers names.val s = r
  rcases r with ⟨s', _ | ⟨name, ending⟩⟩
  · simp
  · cases ending <;> simp [failKubeClient]

variable {i again answers s}

theorem upgrade_success_iff (hflag : i.upgradeMachineDeployments = true)
    (hdeploy : i.deploy = true) :
    ((upgradeMachineDeployments i again answers s).2 = .returned none →
        ∃ names, i.listed = .ok names ∧ ∀ name ∈ names.val,
          HasKubelet i.kubernetes name ((upgradeMachineDeployments i again answers s).1 name)) ↔
      MachinesWritten i again answers s := by
  unfold MachinesWritten
  rcases hlisted : i.listed with conflict | names
  · simp [upgradeMachineDeployments, hflag, hdeploy, hlisted, failKubeClient]
  · obtain ⟨hstore, hsuccess⟩ := upgradeMachineDeployments_eq i again answers s hflag hdeploy
      hlisted
    have hnd : (names.val.map id).Nodup := by simpa using names.2
    have hstop := updateEach_stopped_iff (setKubelet i.kubernetes) again answers s hnd
      (E := fun e => e = .crashed ∨ ∃ conflict, e = .rejectedGet conflict) (by simp)
    have hholds := updateEach_holds_iff again answers s hnd
      (hasKubelet_setKubelet i.kubernetes)
    have hcrash : ∀ name, ¬ Crashes id (setKubelet i.kubernetes) again answers s name := by
      rintro name ⟨⟨x, -, hx⟩, -⟩
      simp [setKubelet] at hx
    simp only [update_spec.2.1, update_spec.2.2.1, hcrash, false_or] at hstop
    rw [hsuccess, hstop, hstore]
    simp only [Except.ok.injEq, exists_eq_left', forall_eq', id_eq] at hholds ⊢
    rw [hholds]
    exact or_iff_not_imp_left.symm

end Machines

/-- Success means written objects exactly when no update that gets its turn is refused at
its write, unless the object has its new content already. -/
theorem updates_success_iff_written (u : UploadInput) (m : MachinesInput) (again : ℕ)
    (configAnswers : ConfigAnswers) (maps : ConfigMaps) (machineAnswers : String → ℕ → Attempt)
    (machines : MachineDeployments) :
    (((uploadKubeadmToConfigMaps u again configAnswers maps).2 = .returned none →
        ∃ c, u.generate = .ok c ∧ ∀ e ∈ configEntries c,
          e.Holds ((uploadKubeadmToConfigMaps u again configAnswers maps).1 e.name)) ↔
      UploadsWritten u again configAnswers maps) ∧
    ((m.upgradeMachineDeployments = true → m.deploy = true →
        (upgradeMachineDeployments m again machineAnswers machines).2 = .returned none →
        ∃ names, m.listed = .ok names ∧ ∀ name ∈ names.val, HasKubelet m.kubernetes name
          ((upgradeMachineDeployments m again machineAnswers machines).1 name)) ↔
      (m.upgradeMachineDeployments = true → m.deploy = true →
        MachinesWritten m again machineAnswers machines)) :=
  ⟨upload_success_iff, forall₂_congr fun hflag hdeploy => upgrade_success_iff hflag hdeploy⟩

def sampleUpload : UploadInput :=
  { hosts := [{ hostname := "a", isLeader := true }]
    kubernetes := "1.34.1"
    kubeadm := fun _ => .ok fun _ => .ok ⟨"cluster", "kubelet", "proxy"⟩ }

def oldMaps : ConfigMaps := fun _ => some ⟨some fun _ => some "old"⟩

def sampleMachines : MachinesInput :=
  { upgradeMachineDeployments := true
    deploy := true
    kubernetes := "1.34.1"
    listed := .ok ⟨["pool"], by decide⟩ }

/-- When every write is refused, both tasks report success, the ConfigMaps are the old ones,
and the MachineDeployment keeps its version. -/
theorem refused_writes_succeed :
    (uploadKubeadmToConfigMaps sampleUpload 4 (fun _ _ => ⟨.ok, .failed⟩) oldMaps).2 =
        .returned none ∧
      (¬ ∀ e ∈ configEntries ⟨"cluster", "kubelet", "proxy"⟩, e.Holds
        ((uploadKubeadmToConfigMaps sampleUpload 4 (fun _ _ => ⟨.ok, .failed⟩) oldMaps).1 e.name)) ∧
      (upgradeMachineDeployments sampleMachines 4 (fun _ _ => ⟨.ok, .failed⟩)
        fun _ => some ⟨"1.33.4"⟩).2 = .returned none ∧
      ¬ HasKubelet "1.34.1" "pool" ((upgradeMachineDeployments sampleMachines 4
        (fun _ _ => ⟨.ok, .failed⟩) fun _ => some ⟨"1.33.4"⟩).1 "pool") := by
  refine ⟨rfl, fun h => ?_, rfl, ?_⟩
  · obtain ⟨data, hdata, hvalue⟩ := h _ List.mem_cons_self
    cases hdata
    simp at hvalue
  · rintro ⟨m, hm, hversion⟩
    cases hm
    simp at hversion

end KubeOne.Tasks
