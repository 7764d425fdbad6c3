import KubeOne.Cmd.Apply
import KubeOne.Process.Appending
import KubeOne.Text.Path

/-! The backup of the PKI on the local disk. A run is meant to refuse if it finds a backup; later
tasks write the PKI and the kubeconfig. What they write does not depend on the disk, so the files
after a run are those before it with the writes of the run on top. -/

namespace KubeOne.Cmd

open Process Process.Stage List

abbrev Bytes := List UInt8

abbrev Disk := String → Option Bytes

structure Write where
  path : String
  content : Bytes

def Disk.write (d : Disk) (w : Write) : Disk := Function.update d w.path (some w.content)

def Disk.writes (d : Disk) (ws : List Write) : Disk := ws.foldl Disk.write d

variable {d : Disk}

theorem Disk.writes_of_forall_ne {ws : List Write} {p : String}
    (h : ∀ w ∈ ws, w.path ≠ p) : d.writes ws p = d p := by
  induction ws generalizing d with
  | nil => rfl
  | cons w ws ih =>
    have hrest : (d.write w).writes ws p = d.write w p := ih fun v hv => h v (mem_cons_of_mem w hv)
    have hfirst : w.path ≠ p := h w mem_cons_self
    show (d.write w).writes ws p = d p
    rw [hrest, Disk.write, Function.update_of_ne hfirst.symm]

theorem Disk.exists_writes_eq {ws : List Write} {p : String} (h : ∃ w ∈ ws, w.path = p) :
    ∃ c, ∀ d : Disk, d.writes ws p = some c := by
  induction ws with
  | nil => simp at h
  | cons w ws ih =>
    by_cases hrest : ∃ v ∈ ws, v.path = p
    · obtain ⟨c, hc⟩ := ih hrest
      exact ⟨c, fun d => hc (d.write w)⟩
    · obtain ⟨v, hv, rfl⟩ := h
      rcases mem_cons.mp hv with rfl | hv
      · refine ⟨v.content, fun d => ?_⟩
        show (d.write v).writes ws v.path = some v.content
        rw [writes_of_forall_ne fun u hu hne => hrest ⟨u, hu, hne⟩, Disk.write,
          Function.update_self]
      · exact absurd ⟨v, hv, rfl⟩ hrest

structure Access where
  statFails : Bool := false
  openFails : Bool := false
  closeFails : Bool := false

def stat (d : Disk) (os : Access) (path : String) : Option ℕ × Option String :=
  if os.statFails then (none, some "stat")
  else match d path with
    | none => (none, some "no such file or directory")
    | some content => (some content.length, none)

/-- `os.OpenFile` with `O_CREATE` and without `O_TRUNC`: an empty file if there is none. -/
def create (d : Disk) (path : String) : Disk :=
  match d path with
  | none => d.write ⟨path, []⟩
  | some _ => d

def initBackup (d : Disk) (os : Access) (backupPath : String) : Disk × Except Failure Unit :=
  let (fi, err) := stat d os backupPath
  if err.isSome ∧ fi.any (0 < ·) then
    (d, .error ⟨"checking backup file " ++ backupPath ++ " existence", "refusing to overwrite"⟩)
  else if os.openFails then (d, .error ⟨"opening backup file for write", "open"⟩)
  else if os.closeFails then (create d backupPath, .error ⟨"closing backup file", "close"⟩)
  else (create d backupPath, .ok ())

def defaultBackupPath (cwd backupPath manifestPath clusterName : String) : String :=
  if backupPath = "" then
    Text.join (Text.dir (Text.abs cwd manifestPath)) (clusterName ++ ".tar.gz")
  else backupPath

theorem stat_of_error {os : Access} {path : String}
    (h : (stat d os path).2.isSome) : (stat d os path).1 = none := by
  unfold stat at h ⊢
  split
  · rfl
  · split
    · rfl
    · simp_all

/-- A failed look at a file has no size to compare, so the refusal is never reached. -/
theorem initBackup_eq (d : Disk) (os : Access) (path : String) :
    initBackup d os path =
      if os.openFails then (d, .error ⟨"opening backup file for write", "open"⟩)
      else if os.closeFails then (create d path, .error ⟨"closing backup file", "close"⟩)
      else (create d path, .ok ()) := by
  have hdead : ¬ ((stat d os path).2.isSome ∧ (stat d os path).1.any (0 < ·)) := by
    rintro ⟨herr, hsize⟩
    simp [stat_of_error herr] at hsize
  exact if_neg hdead

theorem create_of_some {path p : String} {b : Bytes} (h : d p = some b) :
    create d path p = some b := by
  unfold create
  cases hpath : d path with
  | none =>
    have hne : path ≠ p := by
      rintro rfl
      simp [hpath] at h
    simp [Disk.write, Function.update_of_ne hne.symm, h]
  | some content => exact h

def kubernetesPKICAFiles : List String :=
  ["/etc/kubernetes/pki/ca.crt", "/etc/kubernetes/pki/ca.key", "/etc/kubernetes/pki/sa.key",
    "/etc/kubernetes/pki/sa.pub", "/etc/kubernetes/pki/front-proxy-ca.crt",
    "/etc/kubernetes/pki/front-proxy-ca.key", "/etc/kubernetes/pki/etcd/ca.crt",
    "/etc/kubernetes/pki/etcd/ca.key"]

structure Attempt where
  /-- Tasks that leave the disk alone succeed, and the leader can be reached. -/
  succeeds : Bool := true
  kubeconfig : Option Bytes := none
  readFile : String → Option Bytes := fun _ => none
  files : List (String × Bytes) := []
  order : List String := kubernetesPKICAFiles
  perm : order.Perm kubernetesPKICAFiles := by rfl
  opens : Bool := true
  /-- How many bytes the disk takes before a write fails. -/
  room : ℕ := 0

def Attempt.readable (a : Attempt) : Bool :=
  kubernetesPKICAFiles.all fun fname => (a.readFile fname).isSome

structure Place where
  cwd : String
  clusterName : String
  backupFile : String

namespace Place

def kubeconfigPath (pl : Place) : String := Text.abs pl.cwd (pl.clusterName ++ "-kubeconfig")

def backupPath (pl : Place) : String := Text.abs pl.cwd pl.backupFile

end Place

section Tasks

variable (tarGzip : List (String × Bytes) → Bytes) (pl : Place)

def trimSlash (name : String) : String := (name.dropPrefix "/").toString

def entries (a : Attempt) : List (String × Bytes) :=
  a.files ++ a.order.map fun fname => (trimSlash fname, (a.readFile fname).getD [])

/-- `Configuration.Backup`: the archive is truncated when it is opened. -/
def backup (a : Attempt) : List Write :=
  if a.opens then [⟨pl.backupPath, (tarGzip (entries a)).take a.room⟩] else []

/-- An archive that cannot be written is no error. -/
def downloadKubePKI (a : Attempt) : List Write × Status Failure :=
  if ¬ a.succeeds then ([], .failed [⟨"", "leader"⟩])
  else if ¬ a.readable then
    ([], .failed [⟨"", "reading the PKI"⟩])
  else if pl.backupFile ≠ "" then (backup tarGzip pl a, .success)
  else ([], .success)

def saveKubeconfig (a : Attempt) : List Write × Status Failure :=
  match a.kubeconfig with
  | none => ([], .failed [⟨"", "downloading kubeconfig"⟩])
  | some kc =>
    if ¬ a.opens then ([], .failed [⟨"saving kubeconfig file", "open"⟩])
    else ([⟨pl.kubeconfigPath, kc.take a.room⟩],
      if kc.length ≤ a.room then .success else .failed [⟨"saving kubeconfig file", "write"⟩])

/-- What an attempt of a task writes, and how it ends. -/
def Task.effect (a : Attempt) : Task → List Write × Status Failure
  | .saveKubeconfig => Cmd.saveKubeconfig pl a
  | .downloadKubePKI => Cmd.downloadKubePKI tarGzip pl a
  | .other operation _ =>
    ([], if a.succeeds then .success else .failed [⟨operation, "failed"⟩])

def Task.attempt (t : Task) (a : Attempt) : Stage (List Write) Failure := fun ws =>
  (ws ++ (t.effect tarGzip pl a).1, (t.effect tarGzip pl a).2)

/-- `Tasks.Run`: the attempts of the tasks are numbered by task and attempt. -/
def runTasks (attempts : ℕ → ℕ → Attempt) (tasks : List Task) : Stage (List Write) Failure :=
  sequence (tasks.mapIdx fun k t => retry t.again fun n => t.attempt tarGzip pl (attempts k n))

end Tasks

structure Run where
  cwd : String
  opts : Options
  clusterName : Option String
  access : Access := {}
  findings : Findings := {}
  probing : ℕ → ℕ → Attempt := fun _ _ => {}
  attempts : ℕ → ℕ → Attempt

def Run.place (run : Run) (name : String) : Place :=
  ⟨run.cwd, name, defaultBackupPath run.cwd run.opts.backupFile run.opts.manifestFile name⟩

section Run

variable (tarGzip : List (String × Bytes) → Bytes)

/-- The decision of a run as a stage: the tasks that were decided on, or the error. -/
def runPlan (pl : Place) (attempts : ℕ → ℕ → Attempt) :
    Except Failure (List Task) → Stage (List Write) Failure
  | .error e => fun ws => (ws, .failed [e])
  | .ok tasks => runTasks tarGzip pl attempts tasks

def probbing : List Task := withProbesAndSafeguard (withHostnameOS [])

def runApply (run : Run) (pl : Place) : Stage (List Write) Failure :=
  match managedControlPlane run.opts run.findings with
  | .error e => fun ws => (ws, .failed [e])
  | .ok false => skip
  | .ok true =>
    (runTasks tarGzip pl run.probing probbing).andThen
      (runPlan tarGzip pl run.attempts (reconcile run.opts run.findings))

def apply (run : Run) (d : Disk) : Disk × Status Failure :=
  match run.clusterName with
  | none => (d, .failed [⟨"", "loading the manifest"⟩])
  | some name =>
    match initBackup d run.access (run.place name).backupPath with
    | (d, .error e) => (d, .failed [e])
    | (d, .ok ()) =>
      let (ws, status) := runApply tarGzip run (run.place name) []
      (d.writes ws, status)

def applyAll (runs : List Run) (d : Disk) : Disk :=
  runs.foldl (fun d run => (apply tarGzip run d).1) d

end Run

namespace Task

def target (pl : Place) (a : Attempt) : Task → Option String
  | .saveKubeconfig => if a.kubeconfig.isSome ∧ a.opens then some pl.kubeconfigPath else none
  | .downloadKubePKI =>
    if a.succeeds ∧ a.readable ∧ pl.backupFile ≠ "" ∧ a.opens then some pl.backupPath else none
  | .other _ _ => none

def Ends (a : Attempt) : Task → Prop
  | .saveKubeconfig => ∃ kc, a.kubeconfig = some kc ∧ a.opens ∧ kc.length ≤ a.room
  | .downloadKubePKI => a.succeeds ∧ a.readable
  | .other _ _ => a.succeeds

def Recovered (attempts : ℕ → Attempt) (t : Task) : Prop := ∃ n ≤ t.again, t.Ends (attempts n)

def Touches (pl : Place) (attempts : ℕ → Attempt) (t : Task) (p : String) : Prop :=
  ∃ n ≤ t.again, (∀ m < n, ¬ t.Ends (attempts m)) ∧ t.target pl (attempts n) = some p

end Task

def Touched (pl : Place) (attempts : ℕ → ℕ → Attempt) (tasks : List Task) (p : String) : Prop :=
  ∃ (k : ℕ) (t : Task), tasks[k]? = some t ∧ t.Touches pl (attempts k) p ∧
    ∀ j < k, ∀ u : Task, tasks[j]? = some u → u.Recovered (attempts j)

/-- The run gets to a task that writes to the file: the manifest can be loaded, the backup file
can be opened, the hosts can be probed, and the tasks before it succeed. -/
structure Run.Reaches (run : Run) (p name : String) (tasks : List Task) : Prop where
  loaded : run.clusterName = some name
  opens : run.access.openFails = false
  closes : run.access.closeFails = false
  managed : managedControlPlane run.opts run.findings = .ok true
  probed : ∀ (k : ℕ) (t : Task), probbing[k]? = some t → t.Recovered (run.probing k)
  decided : reconcile run.opts run.findings = .ok tasks
  touched : Touched (run.place name) run.attempts tasks p

section Effects

variable {tarGzip : List (String × Bytes) → Bytes} {pl : Place} {p : String}

theorem effect_iff {t : Task} {a : Attempt} :
    ((t.effect tarGzip pl a).2 = .success ↔ t.Ends a) ∧
      ∀ p, (∃ w ∈ (t.effect tarGzip pl a).1, w.path = p) ↔ t.target pl a = some p := by
  cases t with
  | saveKubeconfig =>
    cases hkc : a.kubeconfig with
    | none => simp [Task.effect, saveKubeconfig, Task.Ends, Task.target, hkc]
    | some kc =>
      by_cases ho : a.opens <;> by_cases hr : kc.length ≤ a.room <;>
        simp [Task.effect, saveKubeconfig, Task.Ends, Task.target, hkc, ho, hr]
  | downloadKubePKI =>
    by_cases hs : a.succeeds <;> by_cases hr : a.readable <;> by_cases hb : pl.backupFile = "" <;>
      by_cases ho : a.opens <;>
        simp [Task.effect, downloadKubePKI, backup, Task.Ends, Task.target, hs, hr, hb, ho]
  | other operation retries =>
    by_cases hs : a.succeeds <;> simp [Task.effect, Task.Ends, Task.target, hs]

theorem retried_effect_success_iff (t : Task) (attempts : ℕ → Attempt) :
    (retried t.again fun n => t.effect tarGzip pl (attempts n)).2 = .success ↔
      t.Recovered attempts := by
  simp only [retried_success_iff, Recovers, effect_iff.1, Task.Recovered]

theorem retried_effect_writes_iff (t : Task) (attempts : ℕ → Attempt) :
    (∃ w ∈ (retried t.again fun n => t.effect tarGzip pl (attempts n)).1, w.path = p) ↔
      t.Touches pl attempts p := by
  simp only [mem_retried_iff, ne_eq, effect_iff.1, Task.Touches, ← (@effect_iff tarGzip _ _ _).2]
  constructor
  · rintro ⟨w, ⟨n, hn, hfailed, hw⟩, hp⟩
    exact ⟨n, hn, hfailed, w, hw, hp⟩
  · rintro ⟨n, hn, hfailed, w, hw, hp⟩
    exact ⟨w, ⟨n, hn, hfailed, hw⟩, hp⟩

def effects (tarGzip : List (String × Bytes) → Bytes) (pl : Place) (attempts : ℕ → ℕ → Attempt)
    (tasks : List Task) : List Write × Status Failure :=
  ran (tasks.mapIdx fun k t => retried t.again fun n => t.effect tarGzip pl (attempts k n))

variable {attempts : ℕ → ℕ → Attempt} {tasks : List Task}

theorem runTasks_appends :
    (runTasks tarGzip pl attempts tasks).Appends (effects tarGzip pl attempts tasks) := by
  refine Appends.sequence ?_
  rw [forall₂_iff_get]
  refine ⟨by simp, fun k hk hk' => ?_⟩
  simp only [get_eq_getElem, getElem_mapIdx]
  exact Appends.retry (fun n ws => rfl) _

theorem effects_success_iff :
    (effects tarGzip pl attempts tasks).2 = .success ↔
      ∀ (k : ℕ) (t : Task), tasks[k]? = some t → t.Recovered (attempts k) := by
  simp only [effects, ran_success_iff, mem_mapIdx]
  constructor
  · intro h k t ht
    obtain ⟨hk, rfl⟩ := List.getElem?_eq_some_iff.mp ht
    exact (retried_effect_success_iff _ _).mp (h _ ⟨k, hk, rfl⟩)
  · rintro h q ⟨k, hk, rfl⟩
    exact (retried_effect_success_iff _ _).mpr (h k _ (getElem?_eq_getElem hk))

theorem effects_writes_iff :
    (∃ w ∈ (effects tarGzip pl attempts tasks).1, w.path = p) ↔ Touched pl attempts tasks p := by
  simp only [effects, mem_ran_iff, getElem?_mapIdx, Option.map_eq_some_iff]
  constructor
  · rintro ⟨w, ⟨k, _, ⟨t, ht, rfl⟩, hw, hbefore⟩, hp⟩
    refine ⟨k, t, ht, (retried_effect_writes_iff t _).mp ⟨w, hw, hp⟩, fun j hj u hu => ?_⟩
    exact (retried_effect_success_iff u _).mp (hbefore j hj _ ⟨u, hu, rfl⟩)
  · rintro ⟨k, t, ht, htouch, hbefore⟩
    obtain ⟨w, hw, hp⟩ := (retried_effect_writes_iff t _).mpr htouch
    refine ⟨w, ⟨k, _, ⟨t, ht, rfl⟩, hw, ?_⟩, hp⟩
    rintro j hj _ ⟨u, hu, rfl⟩
    exact (retried_effect_success_iff u _).mpr (hbefore j hj u hu)

theorem effects_others (operations : List String) :
    (effects tarGzip pl attempts (others operations)).1 = [] := by
  rw [eq_nil_iff_forall_not_mem]
  intro w hw
  obtain ⟨k, t, ht, ⟨n, -, -, htarget⟩, -⟩ := effects_writes_iff.mp ⟨w, hw, rfl⟩
  obtain ⟨o, -, rfl⟩ := mem_map.mp (mem_of_getElem? ht)
  simp [Task.target] at htarget

end Effects

section Runs

variable {tarGzip : List (String × Bytes) → Bytes} {run : Run} {p name : String}

theorem runApply_writes_iff (pl : Place) :
    (∃ w ∈ (runApply tarGzip run pl []).1, w.path = p) ↔
      managedControlPlane run.opts run.findings = .ok true ∧
      (∀ (k : ℕ) (t : Task), probbing[k]? = some t → t.Recovered (run.probing k)) ∧
      ∃ tasks, reconcile run.opts run.findings = .ok tasks ∧ Touched pl run.attempts tasks p := by
  unfold runApply
  rcases hm : managedControlPlane run.opts run.findings with e | _ | _
  · simp
  · simp [skip]
  · have hnone : (effects tarGzip pl run.probing probbing).1 = [] :=
      effects_others ["detecting hostname", "detecting OS", "running probes", "checking safeguards"]
    have hprobe : runTasks tarGzip pl run.probing probbing [] =
        ([], (effects tarGzip pl run.probing probbing).2) := by
      rw [runTasks_appends, hnone]
      rfl
    rw [← @effects_success_iff tarGzip pl]
    simp only [true_and]
    by_cases hs : (effects tarGzip pl run.probing probbing).2 = .success
    · rw [hs] at hprobe
      rw [andThen_of_success hprobe]
      cases hr : reconcile run.opts run.findings with
      | error e => simp [runPlan]
      | ok tasks => simp [runPlan, runTasks_appends.run_nil, effects_writes_iff, hs]
    · rw [andThen_of_ne hprobe hs]
      simp [hs]

theorem apply_of_not_reaches {b : Bytes}
    (h : ¬ ∃ name tasks, run.Reaches p name tasks) (hd : d p = some b) :
    (apply tarGzip run d).1 p = some b := by
  unfold apply
  cases hname : run.clusterName with
  | none => exact hd
  | some name =>
    simp only
    rw [initBackup_eq]
    by_cases ho : run.access.openFails
    · simp [ho, hd]
    · by_cases hc : run.access.closeFails
      · simp [ho, hc, create_of_some hd]
      · simp only [ho, hc]
        refine (Disk.writes_of_forall_ne ?_).trans (create_of_some hd)
        intro w hw hp
        obtain ⟨hm, hprobed, tasks, hr, ht⟩ := (runApply_writes_iff _).mp ⟨w, hw, hp⟩
        exact h ⟨name, tasks, hname, by simpa using ho, by simpa using hc, hm, hprobed, hr, ht⟩

theorem apply_of_reaches {tasks : List Task} (h : run.Reaches p name tasks) :
    ∃ c, ∀ d : Disk, (apply tarGzip run d).1 p = some c := by
  have hwrites := (@runApply_writes_iff tarGzip _ _ (run.place name)).mpr
    ⟨h.managed, h.probed, tasks, h.decided, h.touched⟩
  obtain ⟨c, hc⟩ := Disk.exists_writes_eq hwrites
  refine ⟨c, fun d => ?_⟩
  simp only [apply, h.loaded, initBackup_eq, h.opens, h.closes]
  exact hc _

theorem applyAll_append (before after : List Run) (d : Disk) :
    applyAll tarGzip (before ++ after) d = applyAll tarGzip after (applyAll tarGzip before d) :=
  foldl_append

theorem applyAll_of_not_reaches {runs : List Run} {b : Bytes}
    (h : ∀ run ∈ runs, ¬ ∃ name tasks, run.Reaches p name tasks) (hd : d p = some b) :
    applyAll tarGzip runs d p = some b := by
  induction runs generalizing d with
  | nil => exact hd
  | cons run runs ih =>
    exact ih (fun r hr => h r (mem_cons_of_mem run hr))
      (apply_of_not_reaches (h run mem_cons_self) hd)

end Runs

/-- Whatever is on the disk, no run of a sequence changes a file that is not empty, exactly if no
run of the sequence gets to a task that writes to the file. -/
theorem backup_kept_iff (tarGzip : List (String × Bytes) → Bytes) (runs : List Run) (p : String) :
    (∀ (d : Disk) (b : Bytes), d p = some b → b ≠ [] →
      ∀ done : List Run, done <+: runs → applyAll tarGzip done d p = some b) ↔
      ∀ run ∈ runs, ¬ ∃ name tasks, run.Reaches p name tasks := by
  constructor
  · rintro h run hmem ⟨name, tasks, hreach⟩
    obtain ⟨c, hc⟩ := @apply_of_reaches tarGzip _ _ _ _ hreach
    -- a content that is longer than the one the run leaves
    let d : Disk := fun _ => some (0 :: c)
    obtain ⟨before, after, rfl⟩ := append_of_mem hmem
    have hkept : applyAll tarGzip (before ++ [run]) d p = some (0 :: c) :=
      h d (0 :: c) rfl (cons_ne_nil 0 c) _ ⟨after, by simp⟩
    rw [applyAll_append] at hkept
    have hleft : applyAll tarGzip [run] (applyAll tarGzip before d) p = some c := hc _
    rw [hleft] at hkept
    simpa using congrArg (Option.map length) hkept
  · intro h d b hd _ done hdone
    exact applyAll_of_not_reaches (fun run hrun => h run (hdone.subset hrun)) hd

namespace Overwritten

def attempt : Attempt where
  kubeconfig := some [1]
  readFile := fun _ => some [2]
  room := 8

def run : Run where
  cwd := "/home/ops"
  opts := { autoApprove := true, manifestFile := "kubeone.yaml" }
  clusterName := some "prod"
  attempts := fun _ _ => attempt

def disk : Disk := fun path => if path = "/home/ops/prod.tar.gz" then some [3, 4, 5] else none

theorem second_run_overwrites_backup :
    disk "/home/ops/prod.tar.gz" = some [3, 4, 5] ∧
      (apply (fun files => files.flatMap (·.2)) run disk).2 = .success ∧
      applyAll (fun files => files.flatMap (·.2)) [run] disk "/home/ops/prod.tar.gz" =
        some [2, 2, 2, 2, 2, 2, 2, 2] := by
  refine ⟨?_, ?_, ?_⟩ <;> decide +kernel

end Overwritten

end KubeOne.Cmd
