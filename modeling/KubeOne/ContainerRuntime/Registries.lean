import KubeOne.Apis.Validation
import KubeOne.Collections.Assoc
import Mathlib.Data.List.Sort
import Mathlib.Data.String.Basic

/-! The credentials for container registries. On the control plane they are written for the host
of a registry and the hosts of its mirrors, in any order. For the workers the registries are
sorted by name, the first credentials for a host stay, and the mirrors of the catch-all registry
`*` are not left out. -/

namespace KubeOne.ContainerRuntime

open Collections Apis.Validation List Option

structure AuthConfig where
  username : String := ""
  password : String := ""
  auth : String := ""
  identityToken : String := ""
  deriving DecidableEq

structure ContainerdRegistry where
  mirrors : List String := []
  overridePath : Bool := false
  /-- The `InsecureSkipVerify` of the TLS settings, if there are any. -/
  tlsConfig : Option Bool := none
  auth : Option AuthConfig := none
  deriving DecidableEq

structure Registries where
  entries : List (String × ContainerdRegistry)
  nodup : (entries.map Prod.fst).Nodup

theorem Registries.eq_of_name (r : Registries) {entry entry' : String × ContainerdRegistry}
    (h : entry ∈ r.entries) (h' : entry' ∈ r.entries) (hname : entry.1 = entry'.1) :
    entry = entry' :=
  inj_on_of_nodup_map r.nodup h h' hname

def registryHost (name : String) : String := .ofList (name.toList.takeWhile (· ≠ '/'))

def key (fldPath name : String) : String := fldPath ++ "[" ++ name ++ "]"

/-- The loop that looks for names of one host, with the first name for each host. -/
def registryConflicts (registriesPath : String) :
    List (String × String) → List (String × ContainerdRegistry) → List FieldError
  | _, [] => []
  | hostSeen, (registryName, _) :: rest =>
    let host := registryHost registryName
    match hostSeen.lookup host with
    | some first =>
      if first ≠ registryName then
        ⟨.invalid, key registriesPath registryName,
            "conflicts with \"" ++ first ++ "\": both resolve to the same host \"" ++ host ++ "\""⟩
          :: registryConflicts registriesPath hostSeen rest
      else registryConflicts registriesPath (put hostSeen host registryName) rest
    | none => registryConflicts registriesPath (put hostSeen host registryName) rest

/-- There is only one container runtime, so that not two of them can be activated. -/
def validateContainerRuntimeConfig (registries : List (String × ContainerdRegistry))
    (fldPath : String) : List FieldError :=
  let registriesPath := child (child fldPath "containerd") "registries"
  check (registries.any (·.1 == "_default")) .invalid (key registriesPath "_default")
      ("\"_default\" is not a valid registry name; " ++
        "use \"*\" for the catch-all registry configuration") ++
    registryConflicts registriesPath [] registries

theorem nodup_hosts_of_registryConflicts {path : String} {seen : List (String × String)}
    {entries : List (String × ContainerdRegistry)} (hnodup : (entries.map Prod.fst).Nodup)
    (hseen : ∀ host name, seen.lookup host = some name → name ∉ entries.map Prod.fst)
    (h : registryConflicts path seen entries = []) :
    (entries.map fun e => registryHost e.1).Nodup ∧
      ∀ e ∈ entries, seen.lookup (registryHost e.1) = none := by
  induction entries generalizing seen with
  | nil => simp
  | cons e entries ih =>
    obtain ⟨name, registry⟩ := e
    rw [map_cons, nodup_cons] at hnodup
    rw [registryConflicts] at h
    cases hlookup : seen.lookup (registryHost name) with
    | some first =>
      have hne : first ≠ name := by
        intro heq
        exact hseen _ _ hlookup (by simp [heq])
      simp [hlookup, hne] at h
    | none =>
      simp only [hlookup] at h
      have hseen' : ∀ host name', (put seen (registryHost name) name).lookup host = some name' →
          name' ∉ entries.map Prod.fst := by
        intro host name' hput
        rw [lookup_put] at hput
        split at hput
        · exact some.inj hput ▸ hnodup.1
        · exact fun hmem => hseen host name' hput (mem_cons_of_mem _ hmem)
      obtain ⟨hhosts, hfree⟩ := ih hnodup.2 hseen' h
      have hput : ∀ e ∈ entries, registryHost e.1 ≠ registryHost name ∧
          seen.lookup (registryHost e.1) = none := by
        intro e he
        have hnone := hfree e he
        rw [lookup_put] at hnone
        split at hnone
        · cases hnone
        · next hne => exact ⟨hne, hnone⟩
      constructor
      · rw [map_cons, nodup_cons]
        refine ⟨fun hmem => ?_, hhosts⟩
        obtain ⟨e, he, heq⟩ := mem_map.mp hmem
        exact (hput e he).1 heq
      · rw [forall_mem_cons]
        exact ⟨hlookup, fun e he => (hput e he).2⟩

/-- What the validation excludes: the internal name of the catch-all, and two names of one host. -/
structure Registries.Accepted (r : Registries) : Prop where
  no_default : ∀ e ∈ r.entries, e.1 ≠ "_default"
  nodup_hosts : (r.entries.map fun e => registryHost e.1).Nodup

variable {order : List (String × ContainerdRegistry)}

theorem Registries.accepted (r : Registries) (horder : order.Perm r.entries) {fldPath : String}
    (h : validateContainerRuntimeConfig order fldPath = []) : r.Accepted := by
  rw [validateContainerRuntimeConfig, append_eq_nil_iff, check_eq_nil] at h
  have hnodup : (order.map Prod.fst).Nodup := ((horder.map _).nodup_iff).mpr r.nodup
  have hhosts := (nodup_hosts_of_registryConflicts hnodup (by simp) h.2).1
  constructor
  · intro e he heq
    have hany : order.any (·.1 == "_default") = true :=
      any_eq_true.mpr ⟨e, horder.mem_iff.mpr he, by simpa using heq⟩
    rw [h.1] at hany
    cases hany
  · exact ((horder.map _).nodup_iff).mp hhosts

section Credentials

variable (urlHost : String → Option String)

def mirrorHost (mirror : String) : String :=
  match urlHost mirror with
  | some host => if host ≠ "" then host else registryHost mirror
  | none => registryHost mirror

def addRegistryConfig (configs : List (String × AuthConfig))
    (entry : String × ContainerdRegistry) : List (String × AuthConfig) :=
  if entry.1 = "*" then configs
  else
    match entry.2.auth with
    | none => configs
    | some auth =>
      entry.2.mirrors.foldl (fun configs mirror => put configs (mirrorHost urlHost mirror) auth)
        (put configs (registryHost entry.1) auth)

/-- The credentials in the containerd configuration of the control plane, when the registries are
walked in this order. -/
def marshalContainerdConfigToml (order : List (String × ContainerdRegistry)) :
    List (String × AuthConfig) :=
  order.foldl (addRegistryConfig urlHost) []

def addRegistryCredentials (creds : List (String × AuthConfig))
    (entry : String × ContainerdRegistry) : List (String × AuthConfig) :=
  match entry.2.auth with
  | none => creds
  | some auth =>
    entry.2.mirrors.foldl (fun creds mirror => offer creds (mirrorHost urlHost mirror) auth)
      (if entry.1 ≠ "*" ∧ entry.1 ≠ "_default" then offer creds (registryHost entry.1) auth
        else creds)

def containerdRegistryCredentials (order : List (String × ContainerdRegistry)) :
    List (String × AuthConfig) :=
  (order.insertionSort fun a b => a.1 ≤ b.1).foldl (addRegistryCredentials urlHost) []

def credentialHosts (entry : String × ContainerdRegistry) : List String :=
  (if entry.1 = "*" then [] else [registryHost entry.1]) ++ entry.2.mirrors.map (mirrorHost urlHost)

def credentialsOf (entry : String × ContainerdRegistry) : List (String × AuthConfig) :=
  match entry.2.auth with
  | none => []
  | some auth => (credentialHosts urlHost entry).map (·, auth)

variable {urlHost} {entry : String × ContainerdRegistry} {host : String} {auth : AuthConfig}

theorem lookup_credentialsOf :
    (credentialsOf urlHost entry).lookup host = some auth ↔
      entry.2.auth = some auth ∧ host ∈ credentialHosts urlHost entry := by
  unfold credentialsOf
  cases entry.2.auth with
  | none => simp
  | some auth' =>
    rw [lookup_map_pair, ite_none_right_eq_some, some.injEq]
    exact and_comm

theorem lookup_reverse_credentialsOf :
    (credentialsOf urlHost entry).reverse.lookup host =
      (credentialsOf urlHost entry).lookup host := by
  unfold credentialsOf
  cases entry.2.auth with
  | none => rfl
  | some auth' => simp only [← map_reverse, lookup_map_pair, mem_reverse]

theorem addRegistryConfig_eq (configs : List (String × AuthConfig)) (h : entry.1 ≠ "*") :
    addRegistryConfig urlHost configs entry =
      (credentialsOf urlHost entry).foldl (fun m w => put m w.1 w.2) configs := by
  unfold addRegistryConfig credentialsOf credentialHosts
  cases entry.2.auth <;> simp [h, foldl_map]

theorem addRegistryCredentials_eq (creds : List (String × AuthConfig))
    (h : entry.1 ≠ "_default") :
    addRegistryCredentials urlHost creds entry =
      (credentialsOf urlHost entry).foldl (fun m o => offer m o.1 o.2) creds := by
  unfold addRegistryCredentials credentialsOf credentialHosts
  cases entry.2.auth with
  | none => rfl
  | some auth => by_cases hstar : entry.1 = "*" <;> simp [h, hstar, foldl_map]

theorem lookup_marshalContainerdConfigToml (order : List (String × ContainerdRegistry)) :
    (marshalContainerdConfigToml urlHost order).lookup host =
      ((order.filter (·.1 ≠ "*")).reverse.flatMap (credentialsOf urlHost)).lookup host := by
  have hfrom (m : List (String × AuthConfig)) :
      (order.foldl (addRegistryConfig urlHost) m).lookup host =
        (((order.filter (·.1 ≠ "*")).reverse.flatMap (credentialsOf urlHost)).lookup host).or
          (m.lookup host) := by
    induction order generalizing m with
    | nil => rfl
    | cons entry order ih =>
      rw [foldl_cons, ih]
      by_cases h : entry.1 = "*"
      · simp [addRegistryConfig, h]
      · rw [filter_cons_of_pos (by simpa using h), reverse_cons, flatMap_append,
          flatMap_singleton, lookup_append, Option.or_assoc, addRegistryConfig_eq m h,
          lookup_foldl_put, lookup_reverse_credentialsOf]
  rw [marshalContainerdConfigToml, hfrom, lookup_nil, Option.or_none]

theorem lookup_containerdRegistryCredentials {r : Registries} (h : r.Accepted)
    (horder : order.Perm r.entries) :
    (containerdRegistryCredentials urlHost order).lookup host =
      ((order.insertionSort fun a b => a.1 ≤ b.1).flatMap (credentialsOf urlHost)).lookup host := by
  have hfrom (m : List (String × AuthConfig)) (sorted : List (String × ContainerdRegistry))
      (hsorted : ∀ entry ∈ sorted, entry.1 ≠ "_default") :
      (sorted.foldl (addRegistryCredentials urlHost) m).lookup host =
        (m.lookup host).or ((sorted.flatMap (credentialsOf urlHost)).lookup host) := by
    induction sorted generalizing m with
    | nil => simp
    | cons entry sorted ih =>
      rw [forall_mem_cons] at hsorted
      rw [foldl_cons, ih _ hsorted.2, addRegistryCredentials_eq m hsorted.1,
        lookup_foldl_offer, flatMap_cons, lookup_append, Option.or_assoc]
  rw [containerdRegistryCredentials, hfrom _ _ fun entry hentry => h.no_default entry
    (horder.mem_iff.mp ((mem_insertionSort _).mp hentry)), lookup_nil, Option.none_or]

end Credentials

section Agreement

variable (urlHost : String → Option String) (r : Registries)

/-- The registry has these credentials, and they go to the host. -/
def Grants (entry : String × ContainerdRegistry) (host : String) (auth : AuthConfig) : Prop :=
  entry ∈ r.entries ∧ entry.2.auth = some auth ∧ host ∈ credentialHosts urlHost entry

/-- No host gets different credentials from two registries, and a mirror of the catch-all gets the
same ones from another registry, or from one that is sorted before the catch-all. -/
structure Unambiguous : Prop where
  one_auth : ∀ entry entry' host auth auth', Grants urlHost r entry host auth →
    Grants urlHost r entry' host auth' → entry.1 ≠ "*" → entry'.1 ≠ "*" → auth = auth'
  wildcard : ∀ entry host auth, Grants urlHost r entry host auth → entry.1 = "*" →
    ∃ entry' auth', Grants urlHost r entry' host auth' ∧ entry'.1 ≠ "*" ∧
      (auth' = auth ∨ entry'.1 < "*")

def SameAssignment (m m' : List (String × AuthConfig)) : Prop :=
  ∀ host, m.lookup host = m'.lookup host

variable {urlHost r} {order : List (String × ContainerdRegistry)} {host : String}
  {auth : AuthConfig} {entry : String × ContainerdRegistry}

theorem grants_iff (horder : order.Perm r.entries) : Grants urlHost r entry host auth ↔
      entry ∈ order ∧ (credentialsOf urlHost entry).lookup host = some auth := by
  rw [lookup_credentialsOf, horder.mem_iff]
  rfl

theorem grants_of_lookup_config (horder : order.Perm r.entries)
    (h : (marshalContainerdConfigToml urlHost order).lookup host = some auth) :
    ∃ entry, Grants urlHost r entry host auth ∧ entry.1 ≠ "*" := by
  rw [lookup_marshalContainerdConfigToml, lookup_flatMap_eq_some_iff] at h
  obtain ⟨before, entry, after, hsplit, -, hentry⟩ := h
  have hmem : entry ∈ (order.filter (·.1 ≠ "*")).reverse := by
    rw [hsplit]
    simp
  rw [mem_reverse, mem_filter, decide_eq_true_eq] at hmem
  exact ⟨entry, (grants_iff horder).mpr ⟨hmem.1, hentry⟩, hmem.2⟩

theorem lookup_config_ne_none (horder : order.Perm r.entries) (h : Grants urlHost r entry host auth)
    (hstar : entry.1 ≠ "*") : (marshalContainerdConfigToml urlHost order).lookup host ≠ none := by
  rw [lookup_marshalContainerdConfigToml]
  exact lookup_flatMap_ne_none (mem_reverse.mpr (mem_filter.mpr
    ⟨horder.mem_iff.mpr h.1, by simpa using hstar⟩)) (lookup_credentialsOf.mpr h.2)

theorem exists_order_last (h : Grants urlHost r entry host auth) (hstar : entry.1 ≠ "*") :
    ∃ order : List (String × ContainerdRegistry), order.Perm r.entries ∧
      (marshalContainerdConfigToml urlHost order).lookup host = some auth := by
  refine ⟨r.entries.erase entry ++ [entry], ?_, ?_⟩
  · exact (perm_append_singleton _ _).trans (perm_cons_erase h.1).symm
  · rw [lookup_marshalContainerdConfigToml, filter_append, reverse_append,
      filter_cons_of_pos (by simpa using hstar), filter_nil, reverse_singleton,
      singleton_append, flatMap_cons, lookup_append, lookup_credentialsOf.mpr h.2,
      some_or]

theorem grants_of_lookup_credentials (haccepted : r.Accepted) (horder : order.Perm r.entries)
    (h : (containerdRegistryCredentials urlHost order).lookup host = some auth) :
    ∃ entry, Grants urlHost r entry host auth ∧
      ∀ entry' auth', Grants urlHost r entry' host auth' → entry.1 ≤ entry'.1 := by
  have hsorted := (perm_insertionSort (fun a b => a.1 ≤ b.1) order).trans horder
  have hle := pairwise_insertionSort
    (fun a b : String × ContainerdRegistry => a.1 ≤ b.1) order
  rw [lookup_containerdRegistryCredentials haccepted horder, lookup_flatMap_eq_some_iff] at h
  obtain ⟨before, entry, after, hsplit, hbefore, hentry⟩ := h
  rw [hsplit] at hsorted hle
  refine ⟨entry, (grants_iff hsorted).mpr ⟨by simp, hentry⟩, fun entry' auth' h' => ?_⟩
  obtain ⟨hmem, hlookup⟩ := (grants_iff hsorted).mp h'
  rcases mem_append.mp hmem with hmem | hmem
  · rw [hbefore entry' hmem] at hlookup
    cases hlookup
  · rcases mem_cons.mp hmem with rfl | hmem
    · exact le_rfl
    · exact (pairwise_cons.mp (pairwise_append.mp hle).2.1).1 entry' hmem

theorem lookup_credentials_ne_none (haccepted : r.Accepted) (horder : order.Perm r.entries)
    (h : Grants urlHost r entry host auth) :
    (containerdRegistryCredentials urlHost order).lookup host ≠ none := by
  rw [lookup_containerdRegistryCredentials haccepted horder]
  exact lookup_flatMap_ne_none ((mem_insertionSort _).mpr (horder.mem_iff.mpr h.1))
    (lookup_credentialsOf.mpr h.2)

theorem Unambiguous.lookup_iff (hu : Unambiguous urlHost r) {found : Option AuthConfig}
    (hfrom : ∀ auth, found = some auth → ∃ entry, Grants urlHost r entry host auth ∧ entry.1 ≠ "*")
    (hne : ∀ entry auth, Grants urlHost r entry host auth → entry.1 ≠ "*" → found ≠ none) :
    found = some auth ↔ ∃ entry, Grants urlHost r entry host auth ∧ entry.1 ≠ "*" := by
  constructor
  · exact hfrom auth
  · rintro ⟨entry, hgrants, hstar⟩
    obtain ⟨auth', hauth'⟩ := ne_none_iff_exists'.mp (hne entry auth hgrants hstar)
    obtain ⟨entry', hgrants', hstar'⟩ := hfrom auth' hauth'
    rw [hauth', hu.one_auth _ _ _ _ _ hgrants hgrants' hstar hstar']

theorem Unambiguous.lookup_config (hu : Unambiguous urlHost r) (horder : order.Perm r.entries) :
    (marshalContainerdConfigToml urlHost order).lookup host = some auth ↔
      ∃ entry, Grants urlHost r entry host auth ∧ entry.1 ≠ "*" :=
  hu.lookup_iff (fun _ => grants_of_lookup_config horder) fun _ _ => lookup_config_ne_none horder

theorem Unambiguous.lookup_credentials (hu : Unambiguous urlHost r) (haccepted : r.Accepted)
    (horder : order.Perm r.entries) :
    (containerdRegistryCredentials urlHost order).lookup host = some auth ↔
      ∃ entry, Grants urlHost r entry host auth ∧ entry.1 ≠ "*" := by
  refine hu.lookup_iff (fun auth h => ?_) fun _ _ hgrants _ =>
    lookup_credentials_ne_none haccepted horder hgrants
  obtain ⟨entry, hgrants, hfirst⟩ := grants_of_lookup_credentials haccepted horder h
  by_cases hstar : entry.1 = "*"
  · obtain ⟨entry', auth', hgrants', hstar', hsame | hbefore⟩ :=
      hu.wildcard entry host auth hgrants hstar
    · exact ⟨entry', hsame ▸ hgrants', hstar'⟩
    · exact absurd (hfirst entry' auth' hgrants') (hstar ▸ not_le_of_gt hbefore)
  · exact ⟨entry, hgrants, hstar⟩

/-- Control plane and workers have the same credentials, in whatever order the registries are
walked, exactly if the registries are not ambiguous. -/
theorem registry_credentials_agree_iff (urlHost : String → Option String) (r : Registries)
    {walked : List (String × ContainerdRegistry)} (hwalked : walked.Perm r.entries)
    (hvalid : validateContainerRuntimeConfig walked "containerRuntime" = []) :
    (∀ order order' : List (String × ContainerdRegistry), order.Perm r.entries →
      order'.Perm r.entries →
        SameAssignment (marshalContainerdConfigToml urlHost order)
            (containerdRegistryCredentials urlHost order') ∧
          SameAssignment (marshalContainerdConfigToml urlHost order)
            (marshalContainerdConfigToml urlHost order') ∧
          SameAssignment (containerdRegistryCredentials urlHost order)
            (containerdRegistryCredentials urlHost order')) ↔
      Unambiguous urlHost r := by
  have haccepted := r.accepted hwalked hvalid
  constructor
  · intro hsame
    constructor
    · intro entry entry' host auth auth' hgrants hgrants' hstar hstar'
      obtain ⟨order, horder, hlookup⟩ := exists_order_last hgrants hstar
      obtain ⟨order', horder', hlookup'⟩ := exists_order_last hgrants' hstar'
      have heq := (hsame order order' horder horder').2.1 host
      rw [hlookup, hlookup'] at heq
      exact some.inj heq
    · intro entry host auth hgrants hstar
      have heq := (hsame walked walked hwalked hwalked).1 host
      obtain ⟨auth', hauth'⟩ :=
        ne_none_iff_exists'.mp (lookup_credentials_ne_none haccepted hwalked hgrants)
      obtain ⟨entry', hgrants', hstar'⟩ := grants_of_lookup_config hwalked (heq.trans hauth')
      obtain ⟨first, hfirst, hle⟩ := grants_of_lookup_credentials haccepted hwalked hauth'
      by_cases hstar'' : first.1 = "*"
      · have hentry : first = entry := r.eq_of_name hfirst.1 hgrants.1 (hstar''.trans hstar.symm)
        have hauth : auth' = auth := by
          have := hfirst.2.1.symm.trans (hentry ▸ hgrants.2.1)
          exact some.inj this
        exact ⟨entry', auth', hgrants', hstar', .inl hauth⟩
      · have hlt : first.1 < "*" := lt_of_le_of_ne (hstar ▸ hle entry auth hgrants) hstar''
        exact ⟨first, auth', hfirst, hstar'', .inr hlt⟩
  · intro hu order order' horder horder'
    refine ⟨fun host => ?_, fun host => ?_, fun host => ?_⟩ <;> refine ext fun auth => ?_
    · rw [hu.lookup_config horder, hu.lookup_credentials haccepted horder']
    · rw [hu.lookup_config horder, hu.lookup_config horder']
    · rw [hu.lookup_credentials haccepted horder, hu.lookup_credentials haccepted horder']

end Agreement

namespace Shared

/-- A text without a scheme is a URL without a host. -/
def urlHost : String → Option String := fun _ => some ""

def mirrored (name : String) : String × ContainerdRegistry :=
  (name ++ ".example.com", { mirrors := ["mirror.example.com"], auth := some { username := name } })

/-- The credentials for the shared mirror are those of the registry that is walked last; the
workers get those of the first name. -/
theorem shared_mirror_depends_on_order :
    validateContainerRuntimeConfig [mirrored "a", mirrored "b"] "containerRuntime" = [] ∧
      (marshalContainerdConfigToml urlHost [mirrored "a", mirrored "b"]).lookup
        "mirror.example.com" = some { username := "b" } ∧
      (marshalContainerdConfigToml urlHost [mirrored "b", mirrored "a"]).lookup
        "mirror.example.com" = some { username := "a" } ∧
      (containerdRegistryCredentials urlHost [mirrored "a", mirrored "b"]).lookup
        "mirror.example.com" = some { username := "a" } := by
  refine ⟨?_, ?_, ?_, ?_⟩ <;> decide +kernel

def plain : Registries where
  entries := [mirrored "a", ("b.example.com", {})]
  nodup := by decide

theorem unambiguous_plain : Unambiguous urlHost plain := by
  have hfirst {entry : String × ContainerdRegistry} {host : String} {auth : AuthConfig}
      (h : Grants urlHost plain entry host auth) : entry = mirrored "a" := by
    obtain ⟨hmem, hauth, -⟩ := h
    simp only [plain, mem_cons, not_mem_nil, or_false] at hmem
    rcases hmem with rfl | rfl
    · rfl
    · cases hauth
  constructor
  · intro entry entry' host auth auth' hgrants hgrants' _ _
    have hauth := hgrants.2.1
    rw [hfirst hgrants, ← hfirst hgrants', hgrants'.2.1] at hauth
    exact (some.inj hauth).symm
  · intro entry host auth hgrants hstar
    rw [hfirst hgrants] at hstar
    exact absurd hstar (by decide)

theorem plain_registries_agree :
    validateContainerRuntimeConfig plain.entries "containerRuntime" = [] ∧
      ∀ order order' : List (String × ContainerdRegistry), order.Perm plain.entries →
        order'.Perm plain.entries →
          SameAssignment (marshalContainerdConfigToml urlHost order)
              (containerdRegistryCredentials urlHost order') ∧
            SameAssignment (marshalContainerdConfigToml urlHost order)
              (marshalContainerdConfigToml urlHost order') ∧
            SameAssignment (containerdRegistryCredentials urlHost order)
              (containerdRegistryCredentials urlHost order') := by
  have hvalid : validateContainerRuntimeConfig plain.entries "containerRuntime" = [] := by
    decide +kernel
  exact ⟨hvalid, (registry_credentials_agree_iff urlHost plain (.refl _) hvalid).mpr
    unambiguous_plain⟩

end Shared

end KubeOne.ContainerRuntime
