import KubeOne.ContainerRuntime.Registries

/-! The `hosts.toml` files of containerd, from `docker.io`, the insecure registry that replaces
all others, and the registries of the manifest. The settings are kept by name, and the files by
the host part of the name. In a file the mirrors are the entries of a map. -/

namespace KubeOne.ContainerRuntime

open Collections Apis.Validation List

structure RegistryConfiguration where
  overwriteRegistry : String := ""
  insecureRegistry : Bool := false

def validateRegistryConfiguration (r : Option RegistryConfiguration) (fldPath : String) :
    List FieldError :=
  match r with
  | none => []
  | some r =>
    check (r.insecureRegistry && r.overwriteRegistry == "") .invalid
      (child fldPath "insecureRegistry")
      "insecureRegistry requires overwriteRegistry to be configured"

def insecureRegistryAddress (r : Option RegistryConfiguration) : String :=
  match r with
  | none => ""
  | some r => if r.insecureRegistry then r.overwriteRegistry else ""

/-! ### The settings of each registry -/

structure RegistryHostConfig where
  endpoints : List String := []
  overridePath : Bool := false
  insecure : Bool := false
  deriving DecidableEq

/-- The catch-all has another name in containerd. -/
def registryName (name : String) : String := if name = "*" then "_default" else name

def withRegistry (rc : RegistryHostConfig) (registry : ContainerdRegistry) :
    RegistryHostConfig where
  endpoints := if registry.mirrors ≠ [] then registry.mirrors else rc.endpoints
  overridePath := registry.overridePath
  insecure := registry.tlsConfig.getD rc.insecure

def addRegistry (configs : List (String × RegistryHostConfig))
    (entry : String × ContainerdRegistry) : List (String × RegistryHostConfig) :=
  let name := registryName entry.1
  put configs name (withRegistry ((configs.lookup name).getD {}) entry.2)

/-- The settings before those of the manifest. -/
def builtinConfigs (address : String) : List (String × RegistryHostConfig) :=
  let configs := [("docker.io", { endpoints := ["https://registry-1.docker.io"] })]
  if address ≠ "" then
    put configs address { (configs.lookup address).getD {} with insecure := true }
  else configs

def buildRegistryHostConfigs (rc : Option RegistryConfiguration)
    (order : List (String × ContainerdRegistry)) : List (String × RegistryHostConfig) :=
  order.foldl addRegistry (builtinConfigs (insecureRegistryAddress rc))

/-! ### The files -/

structure HostEntryConfig where
  capabilities : List String
  skipVerify : Bool
  overridePath : Bool
  deriving DecidableEq

structure HostsTomlConfig where
  server : String
  host : List (String × HostEntryConfig)
  deriving DecidableEq

def serverURL (name : String) : String :=
  if registryHost name = "_default" then ""
  else if registryHost name = "docker.io" then "https://registry-1.docker.io"
  else name

/-- Without mirrors a registry stands for itself, if there is something to set. -/
def hostsTomlConfig (name : String) (rc : RegistryHostConfig) : HostsTomlConfig :=
  let entry :=
    { capabilities := ["pull", "resolve"], skipVerify := rc.insecure
      overridePath := rc.overridePath }
  let host := rc.endpoints.foldl (fun host endpoint => put host endpoint entry) []
  { server := serverURL name
    host :=
      if rc.endpoints = [] ∧ serverURL name ≠ "" ∧ (rc.insecure ∨ rc.overridePath) then
        put host (if rc.overridePath then name else serverURL name) entry
      else host }

/-- The encoder writes a map in the order of the keys. -/
def HostsTomlConfig.encode (cfg : HostsTomlConfig) : HostsTomlConfig :=
  { cfg with host := cfg.host.insertionSort fun a b => a.1 ≤ b.1 }

/-- A file for containerd: the credentials in its configuration, or the hosts of a registry. -/
inductive ConfigFile
  | containerd (configs : List (String × AuthConfig))
  | hosts (cfg : HostsTomlConfig)
  deriving DecidableEq

def hostsPath (name : String) : String :=
  "/etc/containerd/certs.d/" ++ registryHost name ++ "/hosts.toml"

/-- Whether a file adds something to what containerd does without. -/
def RegistryHostConfig.matters (rc : RegistryHostConfig) : Bool :=
  !(rc.endpoints.isEmpty && !rc.insecure && !rc.overridePath)

/-- The files by path, when the registries are walked in this order. -/
def marshalContainerdConfigs (urlHost : String → Option String)
    (rc : Option RegistryConfiguration) (order : List (String × ContainerdRegistry)) :
    List (String × ConfigFile) :=
  let result := [("/etc/containerd/config.toml",
    .containerd (marshalContainerdConfigToml urlHost order))]
  let configs := buildRegistryHostConfigs rc order
  (configs.insertionSort fun a b => a.1 ≤ b.1).foldl (fun result c =>
    if c.2.matters then put result (hostsPath c.1) (.hosts (hostsTomlConfig c.1 c.2).encode)
    else result) result

/-! ### Names and hosts -/

theorem append_cancel {before after a b : String}
    (h : before ++ a ++ after = before ++ b ++ after) : a = b := by
  have hlist := congrArg String.toList h
  simp only [String.toList_append, append_assoc, append_cancel_left_eq,
    append_cancel_right_eq] at hlist
  exact String.toList_injective hlist

theorem hostsPath_inj {name name' : String} :
    hostsPath name = hostsPath name' ↔ registryHost name = registryHost name' := by
  unfold hostsPath
  constructor
  · intro h
    exact append_cancel h
  · intro h
    rw [h]

variable {entry entry' : String × ContainerdRegistry}

theorem Registries.Accepted.registryName_inj {r : Registries} (haccepted : r.Accepted)
    (h : entry ∈ r.entries) (h' : entry' ∈ r.entries)
    (hname : registryName entry.1 = registryName entry'.1) : entry = entry' := by
  have hdefault := haccepted.no_default entry h
  have hdefault' := haccepted.no_default entry' h'
  refine r.eq_of_name h h' ?_
  unfold registryName at hname
  split_ifs at hname with hstar hstar' hstar'
  · rw [hstar, hstar']
  · exact absurd hname.symm hdefault'
  · exact absurd hname hdefault
  · exact hname

/-! ### The settings of a name -/

section Settings

variable {rc : Option RegistryConfiguration} {r : Registries}
  {order : List (String × ContainerdRegistry)} {name : String}

theorem lookup_foldl_addRegistry (name : String) (configs : List (String × RegistryHostConfig))
    (horder : (order.map fun entry => registryName entry.1).Nodup) :
    (∀ entry ∈ order, registryName entry.1 = name →
        (order.foldl addRegistry configs).lookup name =
          some (withRegistry ((configs.lookup name).getD {}) entry.2)) ∧
      ((∀ entry ∈ order, registryName entry.1 ≠ name) →
        (order.foldl addRegistry configs).lookup name = configs.lookup name) := by
  induction order generalizing configs with
  | nil => simp
  | cons entry order ih =>
    rw [map_cons, nodup_cons] at horder
    obtain ⟨ihsome, ihnone⟩ := ih (addRegistry configs entry) horder.2
    have hlookup : (addRegistry configs entry).lookup name =
        if name = registryName entry.1 then
          some (withRegistry ((configs.lookup (registryName entry.1)).getD {}) entry.2)
        else configs.lookup name := lookup_put _ _ _ _
    rw [foldl_cons]
    constructor
    · intro entry' hentry' hname
      rcases mem_cons.mp hentry' with rfl | hentry'
      · have hrest : ∀ e ∈ order, registryName e.1 ≠ name := by
          intro e he heq
          exact horder.1 (mem_map.mpr ⟨e, he, heq.trans hname.symm⟩)
        rw [ihnone hrest, hlookup, if_pos hname.symm, hname]
      · have hne : name ≠ registryName entry.1 := by
          intro heq
          exact horder.1 (mem_map.mpr ⟨entry', hentry', hname.trans heq⟩)
        rw [ihsome entry' hentry' hname, hlookup, if_neg hne]
    · intro hnone
      rw [forall_mem_cons] at hnone
      rw [ihnone hnone.2, hlookup, if_neg (Ne.symm hnone.1)]

theorem nodup_registryName (haccepted : r.Accepted) (horder : order.Perm r.entries) :
    (order.map fun entry => registryName entry.1).Nodup := by
  have hnodup : order.Nodup := horder.nodup_iff.mpr (List.Nodup.of_map _ r.nodup)
  refine hnodup.map_on fun entry hentry entry' hentry' hname => ?_
  exact haccepted.registryName_inj (horder.mem_iff.mp hentry) (horder.mem_iff.mp hentry') hname

def isInsecure (address name : String) : Bool := address ≠ "" && name == address

theorem lookup_builtinConfigs (address : String) :
    (builtinConfigs address).lookup name =
      if name = "docker.io" then
        some { endpoints := ["https://registry-1.docker.io"], insecure := isInsecure address name }
      else if isInsecure address name then some { insecure := true }
      else none := by
  unfold builtinConfigs
  by_cases haddress : address = ""
  · by_cases hname : name = "docker.io" <;>
      simp [haddress, hname, lookup_cons_pair, isInsecure]
  · rw [if_pos haddress, lookup_put]
    by_cases hname : name = address
    · subst hname
      by_cases hdocker : name = "docker.io" <;>
        simp [haddress, hdocker, lookup_cons_pair, isInsecure]
    · have hno : isInsecure address name = false := by simp [isInsecure, hname]
      rw [if_neg hname, hno, lookup_cons_pair]
      rfl

/-- Whether a registry of the manifest sets something that needs a file. -/
def hasSettings (address : String) (entry : String × ContainerdRegistry) : Bool :=
  !entry.2.mirrors.isEmpty || entry.2.overridePath ||
    entry.2.tlsConfig.getD (isInsecure address (registryName entry.1))

/-- The insecure registry, if the manifest has no registry of its name. -/
def Standalone (address : String) (r : Registries) : Prop :=
  address ≠ "" ∧ ∀ entry ∈ r.entries, registryName entry.1 ≠ address

theorem matters_withRegistry (rc : RegistryHostConfig) (registry : ContainerdRegistry) :
    (withRegistry rc registry).matters = true ↔
      registry.mirrors ≠ [] ∨ rc.endpoints ≠ [] ∨ registry.overridePath = true ∨
        registry.tlsConfig.getD rc.insecure = true := by
  unfold RegistryHostConfig.matters withRegistry
  by_cases hmirrors : registry.mirrors = []
  · cases registry.overridePath <;> cases registry.tlsConfig.getD rc.insecure <;> simp [hmirrors]
  · simp [hmirrors]

theorem hasSettings_iff (address : String) (entry : String × ContainerdRegistry) :
    hasSettings address entry = true ↔
      entry.2.mirrors ≠ [] ∨ entry.2.overridePath = true ∨
        entry.2.tlsConfig.getD (isInsecure address (registryName entry.1)) = true := by
  simp [hasSettings, or_assoc]

theorem matters_iff (haccepted : r.Accepted) (horder : order.Perm r.entries) :
    (∃ c, (buildRegistryHostConfigs rc order).lookup name = some c ∧ c.matters = true) ↔
      name = "docker.io" ∨
        (∃ entry ∈ r.entries, registryName entry.1 = name ∧
          hasSettings (insecureRegistryAddress rc) entry = true) ∨
        (name = insecureRegistryAddress rc ∧ Standalone (insecureRegistryAddress rc) r) := by
  obtain ⟨hsome, hnone⟩ := lookup_foldl_addRegistry name
    (builtinConfigs (insecureRegistryAddress rc)) (nodup_registryName haccepted horder)
  rw [← buildRegistryHostConfigs] at hsome hnone
  generalize insecureRegistryAddress rc = address at *
  by_cases hentry : ∃ entry ∈ order, registryName entry.1 = name
  · obtain ⟨entry, hentry, hname⟩ := hentry
    have hmem := horder.mem_iff.mp hentry
    have hexists : (∃ entry ∈ r.entries, registryName entry.1 = name ∧
        hasSettings address entry = true) ↔ hasSettings address entry = true := by
      constructor
      · rintro ⟨entry', hentry', hname', hsettings⟩
        exact haccepted.registryName_inj hentry' hmem (hname'.trans hname.symm) ▸ hsettings
      · exact fun hsettings => ⟨entry, hmem, hname, hsettings⟩
    have hstandalone : ¬ (name = address ∧ Standalone address r) := by
      rintro ⟨heq, -, hother⟩
      exact hother entry hmem (hname.trans heq)
    rw [hexists, hsome entry hentry hname, lookup_builtinConfigs, hasSettings_iff, hname]
    simp only [Option.some.injEq, exists_eq_left', matters_withRegistry, hstandalone, or_false]
    by_cases hdocker : name = "docker.io"
    · simp [hdocker]
    · cases hinsecure : isInsecure address name <;> simp [hdocker]
  · have hother : ∀ entry ∈ order, registryName entry.1 ≠ name := fun entry hentry' hname =>
      hentry ⟨entry, hentry', hname⟩
    have hnosettings : ¬ ∃ entry ∈ r.entries, registryName entry.1 = name ∧
        hasSettings address entry = true := by
      rintro ⟨entry, hmem, hname, -⟩
      exact hother entry (horder.mem_iff.mpr hmem) hname
    have hstandalone : name = address ∧ Standalone address r ↔ isInsecure address name = true := by
      simp only [isInsecure, Bool.and_eq_true, decide_eq_true_eq, beq_iff_eq]
      constructor
      · exact fun h => ⟨h.2.1, h.1⟩
      · rintro ⟨haddress, rfl⟩
        exact ⟨rfl, haddress, fun entry hmem => hother entry (horder.mem_iff.mpr hmem)⟩
    rw [hnone hother, lookup_builtinConfigs, hstandalone]
    by_cases hdocker : name = "docker.io"
    · simp [hdocker, RegistryHostConfig.matters]
    · cases isInsecure address name <;> simp [hdocker, hnosettings, RegistryHostConfig.matters]

end Settings

/-! ### Files -/

section Files

variable (urlHost : String → Option String) (rc : Option RegistryConfiguration) (r : Registries)

/-- Every registry with something to set has its own file with just that. -/
structure NothingLost (order : List (String × ContainerdRegistry)) : Prop where
  written : ∀ name c, (buildRegistryHostConfigs rc order).lookup name = some c →
    c.matters = true → (marshalContainerdConfigs urlHost rc order).lookup (hostsPath name) =
      some (.hosts (hostsTomlConfig name c).encode)
  apart : ∀ name name' c c', (buildRegistryHostConfigs rc order).lookup name = some c →
    (buildRegistryHostConfigs rc order).lookup name' = some c' → c.matters = true →
    c'.matters = true → name ≠ name' → hostsPath name ≠ hostsPath name'

/-- Hosts that only the manifest as a whole keeps apart: a registry below `docker.io`, the insecure
registry next to one of the manifest, and one with the internal name of the catch-all. -/
structure HostsApart : Prop where
  docker : ∀ entry ∈ r.entries, hasSettings (insecureRegistryAddress rc) entry = true →
    registryName entry.1 ≠ "docker.io" → registryHost (registryName entry.1) ≠ "docker.io"
  docker_overwrite : Standalone (insecureRegistryAddress rc) r →
    insecureRegistryAddress rc ≠ "docker.io" →
    registryHost (insecureRegistryAddress rc) ≠ "docker.io"
  overwrite : Standalone (insecureRegistryAddress rc) r → ∀ entry ∈ r.entries,
    hasSettings (insecureRegistryAddress rc) entry = true →
    registryHost (registryName entry.1) ≠ registryHost (insecureRegistryAddress rc)
  wildcard : ∀ entry ∈ r.entries, ∀ entry' ∈ r.entries, entry.1 = "*" → entry'.1 ≠ "*" →
    hasSettings (insecureRegistryAddress rc) entry = true →
    hasSettings (insecureRegistryAddress rc) entry' = true → registryHost entry'.1 ≠ "_default"

variable {urlHost rc r} {order : List (String × ContainerdRegistry)}

theorem nodup_keys_foldl_addRegistry {configs : List (String × RegistryHostConfig)}
    (h : (configs.map Prod.fst).Nodup) (order : List (String × ContainerdRegistry)) :
    ((order.foldl addRegistry configs).map Prod.fst).Nodup := by
  induction order generalizing configs with
  | nil => exact h
  | cons entry order ih => exact ih (nodup_keys_put h)

theorem nodup_keys_buildRegistryHostConfigs (rc : Option RegistryConfiguration)
    (order : List (String × ContainerdRegistry)) :
    ((buildRegistryHostConfigs rc order).map Prod.fst).Nodup := by
  refine nodup_keys_foldl_addRegistry ?_ order
  unfold builtinConfigs
  split
  · exact nodup_keys_put (nodup_singleton _)
  · exact nodup_singleton _

theorem NothingLost.of_apart
    (hapart : ∀ name name' c c', (buildRegistryHostConfigs rc order).lookup name = some c →
      (buildRegistryHostConfigs rc order).lookup name' = some c' → c.matters = true →
      c'.matters = true → name ≠ name' → hostsPath name ≠ hostsPath name') :
    NothingLost urlHost rc order := by
  refine ⟨fun name c hlookup hmatters => ?_, hapart⟩
  have hnodup := nodup_keys_buildRegistryHostConfigs rc order
  set configs := buildRegistryHostConfigs rc order with hconfigs
  set sorted := configs.insertionSort fun a b => a.1 ≤ b.1 with hsorted
  have hperm : sorted.Perm configs := perm_insertionSort _ _
  let file (c : String × RegistryHostConfig) : String × ConfigFile :=
    (hostsPath c.1, .hosts (hostsTomlConfig c.1 c.2).encode)
  have hwrites : ((((sorted.filter (·.2.matters)).map file).reverse).map Prod.fst).Nodup := by
    rw [map_reverse, nodup_reverse, map_map]
    have hkeys : (sorted.filter (·.2.matters)).Nodup :=
      (hperm.nodup_iff.mpr (List.Nodup.of_map _ hnodup)).filter _
    refine hkeys.map_on fun a ha b hb hpath => ?_
    rw [mem_filter, hperm.mem_iff] at ha hb
    by_contra hne
    have hname : a.1 ≠ b.1 := fun h => hne (inj_on_of_nodup_map hnodup ha.1 hb.1 h)
    exact hapart a.1 b.1 a.2 b.2 ((lookup_eq_some_iff_mem hnodup).mpr ha.1)
      ((lookup_eq_some_iff_mem hnodup).mpr hb.1) ha.2 hb.2 hname hpath
  have hmem : (name, c) ∈ sorted.filter (·.2.matters) :=
    mem_filter.mpr ⟨hperm.mem_iff.mpr (mem_of_lookup_eq_some hlookup), hmatters⟩
  have hfound : (((sorted.filter (·.2.matters)).map file).reverse).lookup (hostsPath name) =
      some (.hosts (hostsTomlConfig name c).encode) :=
    (lookup_eq_some_iff_mem hwrites).mpr
      (mem_reverse.mpr (mem_map.mpr ⟨(name, c), hmem, rfl⟩))
  have hmarshal : marshalContainerdConfigs urlHost rc order =
      ((sorted.filter (·.2.matters)).map file).foldl (fun m w => put m w.1 w.2)
        [("/etc/containerd/config.toml",
          .containerd (marshalContainerdConfigToml urlHost order))] := by
    rw [foldl_map, foldl_filter]
    rfl
  rw [hmarshal, lookup_foldl_put, hfound, Option.some_or]

theorem HostsApart.of_entries (h : HostsApart rc r) (haccepted : r.Accepted)
    (hentry : entry ∈ r.entries) (hentry' : entry' ∈ r.entries)
    (hsettings : hasSettings (insecureRegistryAddress rc) entry = true)
    (hsettings' : hasSettings (insecureRegistryAddress rc) entry' = true) (hne : entry ≠ entry') :
    registryHost (registryName entry.1) ≠ registryHost (registryName entry'.1) := by
  have hdefault : registryHost "_default" = "_default" := by decide
  by_cases hstar : entry.1 = "*"
  · have hstar' : entry'.1 ≠ "*" := fun h' =>
      hne (r.eq_of_name hentry hentry' (hstar.trans h'.symm))
    rw [registryName, if_pos hstar, registryName, if_neg hstar', hdefault]
    exact (h.wildcard entry hentry entry' hentry' hstar hstar' hsettings hsettings').symm
  · by_cases hstar' : entry'.1 = "*"
    · rw [registryName, if_neg hstar, registryName, if_pos hstar', hdefault]
      exact h.wildcard entry' hentry' entry hentry hstar' hstar hsettings' hsettings
    · rw [registryName, if_neg hstar, registryName, if_neg hstar']
      exact fun heq => hne (inj_on_of_nodup_map haccepted.nodup_hosts hentry hentry' heq)

/-- No setting is lost exactly if the hosts are apart where the validation does not look. -/
theorem no_registry_setting_lost_iff (urlHost : String → Option String)
    (rc : Option RegistryConfiguration) (r : Registries)
    {walked : List (String × ContainerdRegistry)} (hwalked : walked.Perm r.entries)
    (hvalid : validateContainerRuntimeConfig walked "containerRuntime" = []) :
    (∀ order : List (String × ContainerdRegistry), order.Perm r.entries →
      NothingLost urlHost rc order) ↔ HostsApart rc r := by
  have haccepted := r.accepted hwalked hvalid
  have hdocker : registryHost "docker.io" = "docker.io" := by decide
  constructor
  · intro h
    have hapart {name name' : String}
        (hname : ∃ c, (buildRegistryHostConfigs rc walked).lookup name = some c ∧ c.matters = true)
        (hname' : ∃ c, (buildRegistryHostConfigs rc walked).lookup name' = some c ∧
          c.matters = true)
        (hne : name ≠ name') : registryHost name ≠ registryHost name' := by
      obtain ⟨c, hc, hmatters⟩ := hname
      obtain ⟨c', hc', hmatters'⟩ := hname'
      exact hostsPath_inj.not.mp ((h walked hwalked).apart _ _ c c' hc hc' hmatters hmatters' hne)
    simp only [matters_iff haccepted hwalked] at hapart
    have hentry {entry : String × ContainerdRegistry} (hmem : entry ∈ r.entries)
        (hsettings : hasSettings (insecureRegistryAddress rc) entry = true) :
        ∃ entry' ∈ r.entries, registryName entry'.1 = registryName entry.1 ∧
          hasSettings (insecureRegistryAddress rc) entry' = true :=
      ⟨entry, hmem, rfl, hsettings⟩
    constructor
    · intro entry hmem hsettings hne
      have hhosts := hapart (.inr (.inl (hentry hmem hsettings))) (.inl rfl) hne
      rwa [hdocker] at hhosts
    · intro hstandalone hne
      have hhosts := hapart (.inr (.inr ⟨rfl, hstandalone⟩)) (.inl rfl) hne
      rwa [hdocker] at hhosts
    · intro hstandalone entry hmem hsettings
      exact hapart (.inr (.inl (hentry hmem hsettings))) (.inr (.inr ⟨rfl, hstandalone⟩))
        (hstandalone.2 entry hmem)
    · intro entry hmem entry' hmem' hstar hstar' hsettings hsettings'
      have hname : registryName entry.1 = "_default" := if_pos hstar
      have hname' : registryName entry'.1 = entry'.1 := if_neg hstar'
      have hhosts := hapart (.inr (.inl (hentry hmem' hsettings')))
        (.inr (.inl (hentry hmem hsettings)))
        (by rw [hname, hname']; exact haccepted.no_default entry' hmem')
      rw [hname, hname'] at hhosts
      exact hhosts
  · intro h order horder
    refine .of_apart fun name name' c c' hc hc' hmatters hmatters' hne => ?_
    rw [Ne, hostsPath_inj]
    have hname := (matters_iff haccepted horder).mp ⟨c, hc, hmatters⟩
    have hname' := (matters_iff haccepted horder).mp ⟨c', hc', hmatters'⟩
    rcases hname with rfl | ⟨entry, hmem, rfl, hsettings⟩ | ⟨rfl, hstandalone⟩ <;>
      rcases hname' with rfl | ⟨entry', hmem', rfl, hsettings'⟩ | ⟨rfl, hstandalone'⟩
    · exact absurd rfl hne
    · exact (h.docker entry' hmem' hsettings' hne.symm).symm
    · exact (h.docker_overwrite hstandalone' hne.symm).symm
    · exact h.docker entry hmem hsettings hne
    · exact h.of_entries haccepted hmem hmem' hsettings hsettings' fun heq => hne (heq ▸ rfl)
    · exact h.overwrite hstandalone' entry hmem hsettings
    · exact h.docker_overwrite hstandalone hne
    · exact (h.overwrite hstandalone entry' hmem' hsettings').symm
    · exact absurd rfl hne

end Files

namespace Overwrite

def registryConfiguration : RegistryConfiguration where
  overwriteRegistry := "registry.example.com/kubeone"
  insecureRegistry := true

def registries : List (String × ContainerdRegistry) :=
  [("registry.example.com", { mirrors := ["https://mirror.example.com"] })]

/-- Both settings go to one file, where the mirror is lost. -/
theorem overwrite_registry_shares_file :
    validateContainerRuntimeConfig registries "containerRuntime" = [] ∧
      validateRegistryConfiguration (some registryConfiguration) "registryConfiguration" = [] ∧
      (buildRegistryHostConfigs (some registryConfiguration) registries).lookup
        "registry.example.com" = some { endpoints := ["https://mirror.example.com"] } ∧
      hostsPath "registry.example.com" = hostsPath "registry.example.com/kubeone" ∧
      (marshalContainerdConfigs (fun _ => none) (some registryConfiguration) registries).lookup
        (hostsPath "registry.example.com") = some (.hosts
          { server := "registry.example.com/kubeone"
            host := [("registry.example.com/kubeone",
              { capabilities := ["pull", "resolve"], skipVerify := true
                overridePath := false })] }) := by
  refine ⟨?_, ?_, ?_, ?_, ?_⟩ <;> decide +kernel

theorem plain_settings_kept :
    validateContainerRuntimeConfig Shared.plain.entries "containerRuntime" = [] ∧
      ∀ order : List (String × ContainerdRegistry), order.Perm Shared.plain.entries →
        NothingLost Shared.urlHost none order := by
  have hvalid : validateContainerRuntimeConfig Shared.plain.entries "containerRuntime" = [] := by
    decide +kernel
  have hapart : HostsApart none Shared.plain :=
    { docker := by decide +kernel
      docker_overwrite := fun h => absurd rfl h.1
      overwrite := fun h => absurd rfl h.1
      wildcard := by decide +kernel }
  exact ⟨hvalid, (no_registry_setting_lost_iff Shared.urlHost none Shared.plain (.refl _)
    hvalid).mpr hapart⟩

end Overwrite

/-! ### Mirrors -/

def HostsTomlConfig.tables (cfg : HostsTomlConfig) : List String := cfg.encode.host.map Prod.fst

theorem tables_hostsTomlConfig (name : String) {rc : RegistryHostConfig} (hne : rc.endpoints ≠ [])
    (hnodup : rc.endpoints.Nodup) :
    (hostsTomlConfig name rc).tables.Perm rc.endpoints ∧
      (hostsTomlConfig name rc).tables.Pairwise (· ≤ ·) := by
  have hkeys : (hostsTomlConfig name rc).host.map Prod.fst = rc.endpoints := by
    simp only [hostsTomlConfig, hne, false_and, if_false]
    simpa using keys_foldl_put _ (m := []) hnodup (by simp)
  constructor
  · have hperm := (perm_insertionSort (fun a b => a.1 ≤ b.1)
      (hostsTomlConfig name rc).host).map Prod.fst
    rwa [hkeys] at hperm
  · exact pairwise_map.mpr (pairwise_insertionSort _ _)

/-- The mirrors of a registry are tried in the order of the manifest exactly if that is the order
of their texts. -/
theorem mirror_order_kept_iff (rc : Option RegistryConfiguration) (r : Registries)
    {order : List (String × ContainerdRegistry)} (horder : order.Perm r.entries)
    (hvalid : validateContainerRuntimeConfig order "containerRuntime" = [])
    {e : String × ContainerdRegistry} (he : e ∈ r.entries)
    (hnodup : e.2.mirrors.Nodup) :
    ∃ c, (buildRegistryHostConfigs rc order).lookup (registryName e.1) = some c ∧
      (e.2.mirrors.Sublist (hostsTomlConfig (registryName e.1) c).tables ↔
        e.2.mirrors.Pairwise (· < ·)) := by
  have haccepted := r.accepted horder hvalid
  have hlookup := (lookup_foldl_addRegistry _ (builtinConfigs (insecureRegistryAddress rc))
    (nodup_registryName haccepted horder)).1 e (horder.mem_iff.mpr he) rfl
  refine ⟨_, hlookup, ?_⟩
  set c := withRegistry _ e.2 with hc
  by_cases hmirrors : e.2.mirrors = []
  · simp [hmirrors]
  · have hendpoints : c.endpoints = e.2.mirrors := by simp [hc, withRegistry, hmirrors]
    obtain ⟨hperm, hsorted⟩ := tables_hostsTomlConfig (registryName e.1)
      (hendpoints ▸ hmirrors) (hendpoints ▸ hnodup)
    rw [hendpoints] at hperm
    constructor
    · intro hsub
      have heq := hsub.eq_of_length hperm.length_eq.symm
      rw [← heq] at hsorted
      exact (hsorted.and hnodup).imp fun hab => lt_of_le_of_ne hab.1 hab.2
    · intro hpairwise
      have heq : (hostsTomlConfig (registryName e.1) c).tables = e.2.mirrors :=
        hperm.eq_of_pairwise (fun _ _ _ _ => le_antisymm) hsorted
          (hpairwise.imp fun hab => le_of_lt hab)
      rw [heq]

namespace Mirrors

def registries (first second : String) : Registries where
  entries := [("docker.io", { mirrors := [first, second] })]
  nodup := by simp

/-- The mirror that is to be tried first comes second. -/
theorem preferred_mirror_second :
    validateContainerRuntimeConfig
        (registries "https://near.example.com" "https://far.example.com").entries
        "containerRuntime" = [] ∧
      ((buildRegistryHostConfigs none
          (registries "https://near.example.com" "https://far.example.com").entries).lookup
        "docker.io").map (fun c => (hostsTomlConfig "docker.io" c).tables) =
          some ["https://far.example.com", "https://near.example.com"] := by
  constructor <;> decide +kernel

theorem sorted_mirrors_kept :
    ∃ c, (buildRegistryHostConfigs none
        (registries "https://a.example.com" "https://b.example.com").entries).lookup
          (registryName "docker.io") = some c ∧
      ["https://a.example.com", "https://b.example.com"].Sublist
        (hostsTomlConfig (registryName "docker.io") c).tables := by
  obtain ⟨c, hc, hiff⟩ := mirror_order_kept_iff none
    (registries "https://a.example.com" "https://b.example.com") (.refl _) (by decide +kernel)
    (e := ("docker.io", _)) (mem_singleton_self _) (by decide +kernel)
  exact ⟨c, hc, hiff.mpr (by decide +kernel)⟩

end Mirrors

end KubeOne.ContainerRuntime
