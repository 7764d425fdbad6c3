import KubeOne.NativeClient.Object
import KubeOne.State.Cluster
import KubeOne.Tasks.Runner
import KubeOne.Text.Path

/-! The probe of a host. It reads the kernel, containerd and the kubelet, and on an initialized
control plane host the certificates and the authentication configuration. The answers come from
one connection, and the first one that is not as expected ends the probe. -/

namespace KubeOne.Tasks.Probes

open Process State

structure ExecResult where
  stdout : String := ""
  exitcode : ℤ := 0
  err : Option Failure := none

/-- A connection to a host, with its answers to the commands and the ends of validity of the
certificates on it. -/
structure Conn where
  exec : String → ExecResult
  fetchCert : String → Except Failure ℤ

def Conn.output (conn : Conn) (cmd : String) (onError : Failure → Failure) :
    Except Failure String :=
  match (conn.exec cmd).err with
  | some err => .error (onError err)
  | none => .ok (conn.exec cmd).stdout

structure Readers where
  newVersion : String → Except Failure Semver.Version
  unmarshal : String → Except Failure (List (String × String))

def trimSpace (s : String) : String := String.ofList (Text.trimSpace s.toList)

def before (sep : Char) (s : String) : String := String.ofList (s.toList.takeWhile (· ≠ sep))

def moreThen4Dot19Constraint (v : Semver.Version) : Bool :=
  v.pre.isEmpty && 0 ≤ v.compare (.release 4 19 0)

def kernelSemver (r : Readers) (krelease : String) : Except Failure Semver.Version :=
  r.newVersion (before '+' (before '-' krelease))

def kernelReleaseStatus (r : Readers) (conn : Conn) : Except Failure ComponentStatus := do
  let out ← conn.output "uname -r" (.wrapped .ssh "checking kernel release")
  let kver := trimSpace out
  let semverKernel ← (kernelSemver r kver).mapError
    (.wrapped .runtime ("parsing kernel release version: " ++ quote kver))
  return {
    name := "kernel release"
    version := some semverKernel
    status := if moreThen4Dot19Constraint semverKernel then kernelRelease4Dot19Plus else 0 }

def versionCmdGenerator (execPath : String) : String :=
  execPath ++ " --version | awk '\x7bprint $3\x7d' | awk -F - '\x7bprint $1\x7d'" ++
    "  | awk -F , '\x7bprint $1\x7d'"

def kubeletVersionCmdGenerator (execPath : String) : String :=
  execPath ++ " --version | awk '\x7bprint $2\x7d'"

def systemdStatus (r : Readers) (conn : Conn) (service : String) : Except Failure UInt64 := do
  let out ← conn.output ("systemctl show " ++ service ++ " -p LoadState,ActiveState,SubState")
    (.wrapped .runtime ("checking " ++ quote service ++ " systemd service status"))
  let yaml := out.toList.flatMap fun c => if c = '=' then [':', ' '] else [c]
  let m ← (r.unmarshal (String.ofList yaml)).mapError
    (.wrapped .runtime ("unmarshalling systemd status " ++ quote service))
  let state key := (m.lookup key).getD ""
  let installed := if state "LoadState" = "loaded" then componentInstalled else 0
  let active := if state "ActiveState" = "active" ∨ state "ActiveState" = "activating"
    then systemDStatusActive else 0
  let sub := if state "SubState" = "running" then systemDStatusRunning
    else if state "SubState" = "auto-restart" then systemDStatusRestarting
    else if state "SubState" = "dead" then systemdDStatusDead
    else systemDStatusUnknown
  return installed ||| active ||| sub

def pathOf (line : List Char) : Option String :=
  if "path=".toList.isPrefixOf line then
    match Text.split '=' line with
    | [_, path] => some (String.ofList path)
    | _ => none
  else none

def systemdUnitExecStartPath (conn : Conn) (unitName : String) : Except Failure String := do
  let out ← conn.output ("systemctl show " ++ unitName ++ " -p ExecStart") id
  match (Text.split ' ' out.toList).findSome? pathOf with
  | some path => return path
  | none => throw (.new ("ExecStart not found in " ++ quote unitName ++ " systemd unit"))

abbrev SystemdUnitInfoOpt := ComponentStatus → Conn → Except Failure ComponentStatus

def withVersionOf (r : Readers) (component : ComponentStatus) (conn : Conn) (cmd : String) :
    Except Failure ComponentStatus := do
  let out ← conn.output cmd id
  let ver ← (r.newVersion (trimSpace out)).mapError
    (.wrapped .wrap (component.name ++ " version was: " ++ quote out))
  return { component with version := some ver }

def withFlatcarContainerRuntimeVersion (r : Readers) : SystemdUnitInfoOpt := fun component conn =>
  withVersionOf r component conn
    (versionCmdGenerator ("PATH=/run/torcx/bin:$PATH " ++ component.name))

def withComponentVersion (r : Readers) (versionCmd : String → String) : SystemdUnitInfoOpt :=
  fun component conn => do
    let execPath ← systemdUnitExecStartPath conn component.name
    withVersionOf r component conn (versionCmd execPath)

/-- A unit that systemd does not know is not installed, and has no version. -/
def systemdUnitInfo (r : Readers) (name : String) (conn : Conn) (opts : List SystemdUnitInfoOpt) :
    Except Failure ComponentStatus := do
  let status ← systemdStatus r conn name
  let compStatus : ComponentStatus := { name, status }
  if status &&& componentInstalled = 0 then return compStatus
  opts.foldlM (fun component fn => fn component conn) compStatus

/-- An error without an exit code is one of the connection. -/
def Conn.exitcode (conn : Conn) (cmd : String) : Except Failure ℤ :=
  match (conn.exec cmd).err with
  | some err => if (conn.exec cmd).exitcode ≤ 0 then .error err else .ok (conn.exec cmd).exitcode
  | none => .ok (conn.exec cmd).exitcode

def detectKubeletInitialized (host : Host) (conn : Conn) : Except Failure Host := do
  let exitcode ← conn.exitcode "test -f /etc/kubernetes/kubelet.conf"
  if exitcode = 0 then
    return { host with
      kubelet := { host.kubelet with status := host.kubelet.status ||| kubeletInitialized } }
  return host

def timeBefore (t1 t2 : ℤ) : Bool := t2 == 0 || t1 < t2

def certsToCheck : List String :=
  ["/etc/kubernetes/pki/apiserver-etcd-client.crt",
    "/etc/kubernetes/pki/apiserver-kubelet-client.crt",
    "/etc/kubernetes/pki/apiserver.crt",
    "/etc/kubernetes/pki/ca.crt",
    "/etc/kubernetes/pki/etcd/ca.crt",
    "/etc/kubernetes/pki/etcd/healthcheck-client.crt",
    "/etc/kubernetes/pki/etcd/peer.crt",
    "/etc/kubernetes/pki/etcd/server.crt",
    "/etc/kubernetes/pki/front-proxy-ca.crt",
    "/etc/kubernetes/pki/front-proxy-client.crt"]

def earliestCertExpiry (conn : Conn) : Except Failure ℤ :=
  certsToCheck.foldlM (fun earliest certName => do
    let notAfter ← conn.fetchCert certName
    return if timeBefore notAfter earliest then notAfter else earliest) 0

def authenticationConfigChecksum (conn : Conn) : Except Failure String := do
  let cmd := "sudo sha256sum /etc/kubernetes/authentication/config.yaml"
  let exitcode ← conn.exitcode cmd
  -- with another exit code the file does not exist
  if exitcode ≠ 0 then return ""
  return before ' ' (trimSpace (conn.exec cmd).stdout)

def containerRuntimeOpts (r : Readers) (host : Host) : List SystemdUnitInfoOpt :=
  if host.config.operatingSystem = .flatcar then [withFlatcarContainerRuntimeVersion r]
  else [withComponentVersion r versionCmdGenerator]

/-- The part of `investigateHost` between its two looks at the live cluster. -/
def investigate (r : Readers) (conn : Conn) (controlPlane : Bool) (host : Host) :
    Except Failure Host := do
  let kernelRelease ← kernelReleaseStatus r conn
  let containerd ← systemdUnitInfo r "containerd" conn (containerRuntimeOpts r host)
  let kubelet ← systemdUnitInfo r "kubelet" conn
    [withComponentVersion r kubeletVersionCmdGenerator]
  let probed ← detectKubeletInitialized
    { host with kernelRelease, containerRuntimeContainerd := containerd, kubelet } conn
  if probed.initialized && controlPlane then
    let earliestCertExpiry ← earliestCertExpiry conn
    let authenticationConfigChecksum ← authenticationConfigChecksum conn
    return { probed with earliestCertExpiry, authenticationConfigChecksum }
  return probed

variable {r : Readers} {conn : Conn} {controlPlane : Bool} {host h : Host}

theorem kernelReleaseStatus_version {kernel : ComponentStatus}
    (hk : kernelReleaseStatus r conn = .ok kernel) : kernel.version ≠ none := by
  simp only [kernelReleaseStatus, bind_eq_ok] at hk
  obtain ⟨out, -, v, -, hk⟩ := hk
  rw [← Except.ok.inj hk]
  exact Option.some_ne_none v

theorem detectKubeletInitialized_ok (hd : detectKubeletInitialized host conn = .ok h) :
    ∃ bits : UInt64, ∀ host : Host, detectKubeletInitialized host conn = .ok { host with
      kubelet := { host.kubelet with status := host.kubelet.status ||| bits } } := by
  obtain ⟨exitcode, hcode, -⟩ := bind_eq_ok.mp hd
  by_cases hzero : exitcode = 0
  · refine ⟨kubeletInitialized, fun host => bind_eq_ok.mpr ⟨exitcode, hcode, ?_⟩⟩
    rw [if_pos hzero]
    rfl
  · refine ⟨0, fun host => bind_eq_ok.mpr ⟨exitcode, hcode, ?_⟩⟩
    rw [if_neg hzero, UInt64.or_zero]
    rfl

def observed (h : Host) : ComponentStatus × ComponentStatus × ComponentStatus × ℤ × String :=
  (h.kernelRelease, h.containerRuntimeContainerd, h.kubelet, h.earliestCertExpiry,
    h.authenticationConfigChecksum)

theorem investigate_ok_iff : investigate r conn controlPlane host = .ok h ↔
    ∃ kernel containerd kubelet probed, kernelReleaseStatus r conn = .ok kernel ∧
      systemdUnitInfo r "containerd" conn (containerRuntimeOpts r host) = .ok containerd ∧
      systemdUnitInfo r "kubelet" conn [withComponentVersion r kubeletVersionCmdGenerator] =
        .ok kubelet ∧
      detectKubeletInitialized { host with
        kernelRelease := kernel, containerRuntimeContainerd := containerd, kubelet } conn =
          .ok probed ∧
      if (probed.initialized && controlPlane) = true then
        ∃ expiry checksum, earliestCertExpiry conn = .ok expiry ∧
          authenticationConfigChecksum conn = .ok checksum ∧
          h = { probed with
            earliestCertExpiry := expiry, authenticationConfigChecksum := checksum }
      else h = probed := by
  simp only [investigate, bind_eq_ok]
  constructor
  · rintro ⟨kernel, hkernel, containerd, hcontainerd, kubelet, hkubelet, probed, hprobed, hrest⟩
    refine ⟨kernel, containerd, kubelet, probed, hkernel, hcontainerd, hkubelet, hprobed, ?_⟩
    split_ifs at hrest ⊢ with hfiles
    · obtain ⟨expiry, hexpiry, checksum, hchecksum, hrest⟩ := by
        simpa only [bind_eq_ok] using hrest
      exact ⟨expiry, checksum, hexpiry, hchecksum, (Except.ok.inj hrest).symm⟩
    · exact (Except.ok.inj hrest).symm
  · rintro ⟨kernel, containerd, kubelet, probed, hkernel, hcontainerd, hkubelet, hprobed, hrest⟩
    refine ⟨kernel, hkernel, containerd, hcontainerd, kubelet, hkubelet, probed, hprobed, ?_⟩
    split_ifs at hrest ⊢ with hfiles
    · obtain ⟨expiry, checksum, hexpiry, hchecksum, rfl⟩ := hrest
      simp only [bind_eq_ok]
      exact ⟨expiry, hexpiry, checksum, hchecksum, rfl⟩
    · rw [hrest]
      rfl

theorem investigate_keeps (hi : investigate r conn controlPlane host = .ok h) :
    h.config = host.config ∧ h.kernelRelease.version ≠ none := by
  obtain ⟨kernel, containerd, kubelet, probed, hkernel, -, -, hprobed, hrest⟩ :=
    investigate_ok_iff.mp hi
  obtain ⟨bits, hbits⟩ := detectKubeletInitialized_ok hprobed
  rw [hbits] at hprobed
  have hversion := kernelReleaseStatus_version hkernel
  obtain rfl := Except.ok.inj hprobed
  split_ifs at hrest
  · obtain ⟨expiry, checksum, -, -, rfl⟩ := hrest
    exact ⟨rfl, hversion⟩
  · subst hrest
    exact ⟨rfl, hversion⟩

theorem investigate_idem (hi : investigate r conn controlPlane host = .ok h) :
    investigate r conn controlPlane h = .ok h := by
  obtain ⟨kernel, containerd, kubelet, probed, hkernel, hcontainerd, hkubelet, hprobed, hrest⟩ :=
    investigate_ok_iff.mp hi
  have hopts : containerRuntimeOpts r h = containerRuntimeOpts r host := by
    rw [containerRuntimeOpts, containerRuntimeOpts, (investigate_keeps hi).1]
  obtain ⟨bits, hbits⟩ := detectKubeletInitialized_ok hprobed
  rw [hbits] at hprobed
  obtain rfl := Except.ok.inj hprobed
  refine investigate_ok_iff.mpr
    ⟨kernel, containerd, kubelet, _, hkernel, hopts ▸ hcontainerd, hkubelet, hbits _, ?_⟩
  by_cases hfiles : (Host.initialized { host with
      kernelRelease := kernel, containerRuntimeContainerd := containerd,
      kubelet := { kubelet with status := kubelet.status ||| bits } } && controlPlane) = true
  · rw [if_pos hfiles] at hrest
    obtain ⟨expiry, checksum, hexpiry, hchecksum, rfl⟩ := hrest
    exact (if_pos hfiles).mpr ⟨expiry, checksum, hexpiry, hchecksum, rfl⟩
  · rw [if_neg hfiles] at hrest
    subst hrest
    exact (if_neg hfiles).mpr rfl

end KubeOne.Tasks.Probes
