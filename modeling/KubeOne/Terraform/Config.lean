import KubeOne.Terraform.Decode

/-! The configuration in the output of Terraform. The known outputs are read without a type,
printed, and then decoded strictly; lost is what the first step does not name, and what floating
point cannot hold. -/

namespace KubeOne.Terraform

open List Json Collections

open Config (Schema)
open Config.Types (Version int32 int64 dynamicWorkerConfig proxyConfig)
open Json (goMap reread rereadMembers)

def outputOf (value : Schema) : Schema :=
  .object [("sensitive", .raw), ("type", .raw), ("value", value)]

def apiValue : Schema :=
  .object [("endpoint", .string), ("apiserver_alternative_names", .list .string)]

def kubeletSpec : Schema :=
  .object
    [("system_reserved", .string), ("kube_reserved", .string), ("eviction_hard", .string),
     ("max_pods", .pointer int32), ("image_gc_high_threshold_percent", .pointer int32),
     ("image_gc_low_threshold_percent", .pointer int32), ("image_minimum_gc_age", .duration),
     ("image_maximum_gc_age", .duration)]

def hostsSpecFields : List (String × Schema) :=
  [("public_address", .list .string), ("ipv6_addresses", .list (.list .string)),
   ("private_address", .list .string), ("hostnames", .list .string),
   ("operating_system", .string), ("ssh_user", .string), ("ssh_port", int64),
   ("ssh_private_key_file", .string), ("ssh_cert_file", .string), ("ssh_agent_socket", .string),
   ("ssh_hosts_keys", .list .bytes), ("bastion", .string), ("bastion_port", int64),
   ("bastion_user", .string), ("bastion_host_key", .bytes), ("bastion_private_key_file", .string),
   ("kubelet", kubeletSpec), ("labels", .map .string), ("annotations", .map .string)]

def hostsSpec : Schema := .object hostsSpecFields

/-- The fields of the embedded hosts belong to the control plane. -/
def controlPlane : Schema :=
  .object (
    [("cluster_name", .string), ("cloud_provider", .pointer .string), ("leader_ip", .string),
     ("untaint", .bool), ("network_id", .string), ("vapp_name", .string),
     ("storage_profile", .string)] ++ hostsSpecFields)

def sections (v : Version) : List (String × Schema) :=
  [("kubeone_api", outputOf apiValue),
   ("kubeone_hosts", outputOf (.object [("control_plane", controlPlane)])),
   ("kubeone_workers", outputOf (.map (dynamicWorkerConfig v))),
   ("kubeone_static_workers", outputOf (.map hostsSpec)),
   ("proxy", outputOf proxyConfig)]

def config (v : Version) : Schema := .object (sections v)

/-- The fields of the untyped output. -/
def wholeTFOutput : List String :=
  ["kubeone_api", "kubeone_hosts", "kubeone_workers", "kubeone_static_workers"]

/-- The members that are decoded into one of the fields, by their fields. -/
def outputsFor (names : List String) (members : List (String × Json)) : List (String × Json) :=
  members.filterMap fun m => (resolve names m.1).map fun name => (name, m.2)

/-- The untyped output, printed. A field that is not in the document is null. -/
def strictOutput : Json → Option (List (String × Json))
  | .null => some (wholeTFOutput.map fun name => (name, .null))
  | .obj members => (rereadMembers (outputsFor wholeTFOutput members)).map fun outputs =>
      wholeTFOutput.map fun name => (name, ((goMap outputs).lookup name).getD .null)
  | _ => none

variable (T : Texts) (v : Version)

def newConfigFromJSON (doc : Json) : Option Value :=
  (strictOutput doc).bind fun members => decode T (config v) (.obj members)

def sectionNames : List String := wholeTFOutput ++ ["proxy"]

def outputNamed (doc : Json) (name : String) : Option Json :=
  match doc with
  | .obj members => (outputsFor sectionNames members).lookup name
  | _ => none

/-- The configuration with all sections from the document. Terraform has other outputs as well. -/
def documentConfig (doc : Json) : Option Value :=
  match doc with
  | .obj members =>
    decode T (config v) (.obj (members.filter fun m => (resolve sectionNames m.1).isSome))
  | doc => decode T (config v) doc

variable {T v} {vs : List (String × Value)}

theorem decodeFields_eq_some_iff {fields : List (String × Schema)}
    {members members' : List (String × Json)} (h : decodeFields T fields members = some vs) :
    decodeFields T fields members' = some vs ↔ ∀ field ∈ fields,
      fieldValue T field.2 (members'.lookup field.1) =
        fieldValue T field.2 (members.lookup field.1) := by
  constructor
  · intro h' field hfield
    obtain ⟨x, hx, hx'⟩ := fieldValue_of_decodeFields h h' hfield
    rw [hx, hx']
  · intro hfields
    induction fields generalizing vs with
    | nil => exact h
    | cons field fields ih =>
      obtain ⟨name, s⟩ := field
      rw [forall_mem_cons] at hfields
      simp only [decodeFields, Option.bind_eq_some_iff, Option.map_eq_some_iff] at h ⊢
      obtain ⟨x, hx, rest, hrest, rfl⟩ := h
      exact ⟨x, hfields.1.trans hx, rest, ih hrest hfields.2, rfl⟩

theorem resolve_sectionNames (key : String) :
    resolve sectionNames key = (resolve wholeTFOutput key).or (resolve ["proxy"] key) := by
  by_cases hproxy : key = "proxy"
  · subst hproxy
    decide
  · by_cases hkey : key ∈ wholeTFOutput
    · simp [resolve, sectionNames, hkey]
    · simp [resolve, sectionNames, hkey, hproxy, find?_append]

theorem mem_outputsFor {names : List String} {members : List (String × Json)} {name : String}
    {j : Json} : (name, j) ∈ outputsFor names members ↔
      ∃ key, (key, j) ∈ members ∧ resolve names key = some name := by
  simp [outputsFor, mem_filterMap, and_comm]

theorem outputsFor_wholeTFOutput (members : List (String × Json)) :
    outputsFor wholeTFOutput members =
      (outputsFor sectionNames members).filter fun output => output.1 ≠ "proxy" := by
  induction members with
  | nil => rfl
  | cons m members ih =>
    have hsplit := resolve_sectionNames m.1
    unfold outputsFor at ih ⊢
    cases hwhole : resolve wholeTFOutput m.1 with
    | some name =>
      have hne : name ≠ "proxy" := by
        rintro rfl
        exact absurd (mem_of_resolve hwhole) (by decide)
      rw [hwhole, Option.some_or] at hsplit
      rw [filterMap_cons_some (by rw [hwhole]; rfl),
        filterMap_cons_some (by rw [hsplit]; rfl),
        filter_cons_of_pos (by simpa using hne), ih]
    | none =>
      rw [hwhole, Option.none_or] at hsplit
      rw [filterMap_cons_none (by rw [hwhole]; rfl), ih]
      cases hproxy : resolve ["proxy"] m.1 with
      | none => rw [filterMap_cons_none (by rw [hsplit, hproxy]; rfl)]
      | some name =>
        have heq : name = "proxy" := by simpa using mem_of_resolve hproxy
        rw [filterMap_cons_some (by rw [hsplit, hproxy]; rfl),
          filter_cons_of_neg (by simpa using heq)]

theorem resolveAll_filter {names : List String} {members resolved : List (String × Json)}
    (h : resolveAll names (members.filter fun m => (resolve names m.1).isSome) = some resolved) :
    resolved = outputsFor names members ∧ (resolved.map Prod.fst).Nodup := by
  simp only [resolveAll, Option.bind_eq_some_iff, Option.ite_none_right_eq_some,
    Option.some.injEq] at h
  obtain ⟨r, hr, hnodup, rfl⟩ := h
  refine ⟨?_, hnodup⟩
  clear hnodup
  induction members generalizing r with
  | nil => simpa [each, outputsFor, eq_comm] using hr
  | cons m members ih =>
    cases hresolve : resolve names m.1 with
    | none =>
      rw [filter_cons_of_neg (by simp [hresolve])] at hr
      rw [ih r hr]
      simp [outputsFor, hresolve]
    | some name =>
      rw [filter_cons_of_pos (by simp [hresolve])] at hr
      simp only [each, hresolve, Option.map_some, Option.bind_some, Option.map_eq_some_iff] at hr
      obtain ⟨rest, hrest, rfl⟩ := hr
      rw [ih rest hrest]
      simp [outputsFor, hresolve]

theorem resolveAll_strict (f : String → Json) :
    resolveAll sectionNames (wholeTFOutput.map fun name => (name, f name)) =
      some (wholeTFOutput.map fun name => (name, f name)) := by
  have hself : ∀ name ∈ wholeTFOutput, resolve sectionNames name = some name := by
    decide
  have heach : each (fun m : String × Json => (resolve sectionNames m.1).map fun name =>
      (name, m.2)) (wholeTFOutput.map fun name => (name, f name)) =
      some (wholeTFOutput.map fun name => (name, f name)) := by
    rw [each_eq_some_iff, forall₂_same]
    intro m hm
    obtain ⟨name, hname, rfl⟩ := mem_map.1 hm
    rw [hself name hname]
    rfl
  have hnodup : ((wholeTFOutput.map fun name => (name, f name)).map Prod.fst).Nodup := by
    rw [map_map]
    change (wholeTFOutput.map id).Nodup
    rw [map_id]
    decide
  rw [resolveAll, heach, Option.bind_some, if_pos hnodup]

variable {field : String × Schema}

theorem decode_null_section (h : field ∈ sections v) :
    decode T field.2 .null = some (zero field.2) := by
  simp only [sections, mem_cons, not_mem_nil, or_false] at h
  rcases h with rfl | rfl | rfl | rfl | rfl <;> rfl

theorem exact_section (h : field ∈ sections v) : exact field.2 = true := by
  have hexact : exactFields (sections v) = true := by cases v <;> decide
  exact exactFields_iff.1 hexact field h

theorem decodeFields_nil (fields : List (String × Schema)) :
    decodeFields T fields [] = some (zeroFields fields) := by
  induction fields with
  | nil => rfl
  | cons field fields ih => simp [decodeFields, zeroFields, ih]

section Sections

variable {members : List (String × Json)}

theorem lookup_outputsFor_wholeTFOutput
    (hnodup : ((outputsFor sectionNames members).map Prod.fst).Nodup) {name : String}
    (hname : name ∈ wholeTFOutput) :
    (outputsFor wholeTFOutput members).lookup name =
      (outputsFor sectionNames members).lookup name := by
  have hne : name ≠ "proxy" := by
    rintro rfl
    exact absurd hname (by decide)
  have hnodup' : ((outputsFor wholeTFOutput members).map Prod.fst).Nodup := by
    rw [outputsFor_wholeTFOutput]
    exact hnodup.sublist (filter_sublist.map _)
  refine Option.ext fun j => ?_
  rw [lookup_eq_some_iff_mem hnodup, lookup_eq_some_iff_mem hnodup',
    outputsFor_wholeTFOutput, mem_filter]
  simp [hne]

theorem newConfigFromJSON_obj_iff
    (hnodup : ((outputsFor sectionNames members).map Prod.fst).Nodup)
    (hvs : decodeFields T (sections v) (outputsFor sectionNames members) = some vs) :
    newConfigFromJSON T v (.obj members) = some (.struct vs) ↔
      ∃ outputs, rereadMembers (outputsFor wholeTFOutput members) = some outputs ∧
        ∀ field ∈ sections v, fieldValue T field.2 (if field.1 ∈ wholeTFOutput then
            some (((outputsFor sectionNames members).lookup field.1).bind reread |>.getD .null)
          else none) = fieldValue T field.2 ((outputsFor sectionNames members).lookup field.1) := by
  have hnodup' : ((outputsFor wholeTFOutput members).map Prod.fst).Nodup := by
    rw [outputsFor_wholeTFOutput]
    exact hnodup.sublist (filter_sublist.map _)
  have hstrict : newConfigFromJSON T v (.obj members) =
      (rereadMembers (outputsFor wholeTFOutput members)).bind fun outputs =>
        (decodeFields T (sections v) (wholeTFOutput.map fun name =>
          (name, ((goMap outputs).lookup name).getD .null))).map .struct := by
    rw [newConfigFromJSON, strictOutput, Option.bind_map]
    refine congrArg (Option.bind _) (funext fun outputs => ?_)
    have hresolve := resolveAll_strict fun name => ((goMap outputs).lookup name).getD .null
    rw [Function.comp, config, decode, show (sections v).map Prod.fst = sectionNames from rfl,
      hresolve, Option.bind_some]
  rw [hstrict, Option.bind_eq_some_iff]
  refine exists_congr fun outputs => and_congr_right fun hr => ?_
  have hmap : goMap outputs = outputs := goMap_of_nodup (keys_rereadMembers hr ▸ hnodup')
  rw [Option.map_eq_some_iff, hmap]
  simp only [Value.struct.injEq, exists_eq_right, decodeFields_eq_some_iff hvs, lookup_map_pair,
    lookup_rereadMembers hr]
  refine forall₂_congr fun field hfield => ?_
  by_cases hname : field.1 ∈ wholeTFOutput
  · rw [if_pos hname, if_pos hname, lookup_outputsFor_wholeTFOutput hnodup hname]
  · rw [if_neg hname, if_neg hname]

theorem fieldValue_reread_iff (hfield : field ∈ sections v) {j : Json} {x : Value}
    (hsorted : j.Sorted) (hx : decode T field.2 j = some x) {j' : Json}
    (hr : reread j = some j') : decode T field.2 j' = some x ↔ j' = j :=
  ⟨eq_of_decode_reread (exact_section hfield) hsorted hr hx, fun h => h ▸ hx⟩

theorem config_keeps_members_iff {c : Value} (hsorted : ∀ m ∈ members, m.2.Sorted)
    (hc : documentConfig T v (.obj members) = some c) :
    newConfigFromJSON T v (.obj members) = some c ↔
      (∀ j, (outputsFor sectionNames members).lookup "proxy" = some j →
        decode T (outputOf proxyConfig) j = some (zero (outputOf proxyConfig))) ∧
      ∀ name ∈ wholeTFOutput, ∀ j, (outputsFor sectionNames members).lookup name = some j →
        reread j = some j := by
  have hnames : (sections v).map Prod.fst = sectionNames := rfl
  rw [documentConfig, config, decode, hnames] at hc
  simp only [Option.bind_eq_some_iff, Option.map_eq_some_iff] at hc
  obtain ⟨resolved, hresolved, vs, hvs, rfl⟩ := hc
  obtain ⟨rfl, hnodup⟩ := resolveAll_filter hresolved
  rw [newConfigFromJSON_obj_iff hnodup hvs]
  have hvalue : ∀ {field}, field ∈ sections v → ∀ {j},
      (outputsFor sectionNames members).lookup field.1 = some j →
      j.Sorted ∧ ∃ x, decode T field.2 j = some x := by
    intro field hfield j hj
    obtain ⟨key, hkey, -⟩ := mem_outputsFor.1 (mem_of_lookup_eq_some hj)
    obtain ⟨x, hx, -⟩ := fieldValue_of_decodeFields hvs hvs hfield
    rw [hj] at hx
    exact ⟨hsorted _ hkey, x, hx⟩
  constructor
  · rintro ⟨outputs, hr, hfields⟩
    constructor
    · intro j hj
      have hproxy : ("proxy", outputOf proxyConfig) ∈ sections v := by simp [sections]
      have hzero := hfields _ hproxy
      rw [hj, if_neg (by decide)] at hzero
      exact hzero.symm
    · intro name hname j hj
      obtain ⟨field, hfield, rfl⟩ : ∃ field ∈ sections v, field.1 = name := by
        rw [← mem_map, hnames]
        exact mem_append_left _ hname
      have hj4 := (lookup_outputsFor_wholeTFOutput hnodup hname).trans hj
      obtain ⟨j', hj'⟩ : ∃ j', reread j = some j' := by
        have hlookup := lookup_rereadMembers hr field.1
        rw [hj4, Option.bind_some] at hlookup
        rw [← Option.ne_none_iff_exists', ← hlookup, Ne, lookup_eq_none_iff_keys,
          not_not, keys_rereadMembers hr]
        exact mem_map_of_mem (mem_of_lookup_eq_some hj4)
      obtain ⟨hjsorted, x, hx⟩ := hvalue hfield hj
      have hsame := hfields field hfield
      rw [hj, if_pos hname, Option.bind_some, hj', Option.getD_some, fieldValue, fieldValue,
        hx] at hsame
      rw [hj', (fieldValue_reread_iff hfield hjsorted hx hj').1 hsame]
  · rintro ⟨hproxy, hnumbers⟩
    refine ⟨outputsFor wholeTFOutput members, rereadMembers_eq_self ?_, ?_⟩
    · rintro ⟨name, j⟩ hm
      obtain ⟨key, -, hkey⟩ := mem_outputsFor.1 hm
      rw [outputsFor_wholeTFOutput] at hm
      exact hnumbers name (mem_of_resolve hkey) j
        ((lookup_eq_some_iff_mem hnodup).2 (mem_of_mem_filter hm))
    · intro field hfield
      by_cases hname : field.1 ∈ wholeTFOutput
      · rw [if_pos hname]
        cases hj : (outputsFor sectionNames members).lookup field.1 with
        | none => exact decode_null_section hfield
        | some j => rw [Option.bind_some, hnumbers _ hname j hj, Option.getD_some]
      · rw [if_neg hname]
        obtain rfl : field = ("proxy", outputOf proxyConfig) := by
          simp only [sections, mem_cons, not_mem_nil, or_false] at hfield
          rcases hfield with rfl | rfl | rfl | rfl | rfl
          · simp [wholeTFOutput] at hname
          · simp [wholeTFOutput] at hname
          · simp [wholeTFOutput] at hname
          · simp [wholeTFOutput] at hname
          · rfl
        cases hj : (outputsFor sectionNames members).lookup "proxy" with
        | none => rfl
        | some j => exact (hproxy j hj).symm

end Sections

/-- A configuration is the one with all sections from the document exactly if the proxy has no
settings in the document, and no number in the other sections changes when it is read as floating
point and printed. -/
theorem config_keeps_document_iff (T : Texts) (v : Version) (doc : Json) (c : Value)
    (hsorted : doc.Sorted) (hc : documentConfig T v doc = some c) :
    newConfigFromJSON T v doc = some c ↔
      (∀ j, outputNamed doc "proxy" = some j →
        decode T (outputOf proxyConfig) j = some (zero (outputOf proxyConfig))) ∧
      ∀ name ∈ wholeTFOutput, ∀ j, outputNamed doc name = some j → reread j = some j := by
  cases doc with
  | obj members =>
    rw [Sorted, sortedMembers_iff] at hsorted
    exact config_keeps_members_iff hsorted.2 hc
  | null =>
    -- a document that is null reads as one without members
    have hempty : documentConfig T v (.obj []) = some c := by
      rw [← hc]
      simp only [documentConfig, config, decode, filter_nil, resolveAll, each,
        Option.bind_some, map_nil, nodup_nil, if_true, decodeFields_nil, Option.map_some]
    exact config_keeps_members_iff (by simp) hempty
  | _ => simp [documentConfig, config, decode] at hc

namespace Outputs

def noTexts : Texts := ⟨fun _ => none, fun _ => none⟩

def output (value : Json) : Json :=
  .obj [("sensitive", .bool false), ("type", .str "dynamic"), ("value", value)]

def providerSetting (setting : ℚ) : Json :=
  .obj [("cloudProviderSpec", .obj [("diskSize", .num setting)])]

def workers (setting : ℚ) : Json :=
  output (.obj [("pool1", .obj [("providerSpec", providerSetting setting)])])

def smallDocument : Json :=
  .obj [("bastion_ip", output (.str "192.0.2.1")),
    ("kubeone_api", output (.obj [("endpoint", .str "lb.example.com")])),
    ("kubeone_workers", workers 50)]

theorem reread_single {k : String} {j : Json} (h : reread j = some j) :
    reread (.obj [(k, j)]) = some (.obj [(k, j)]) := by
  rw [reread_obj (by simp), rereadMembers_eq_self (by simpa using h), Option.map_some]

theorem keysSorted_output (value : Json) :
    KeysSorted [("sensitive", .bool false), ("type", .str "dynamic"), ("value", value)] := by
  simp only [KeysSorted, pairwise_cons, forall_mem_cons, not_mem_nil, String.lt_iff_toList_lt]
  simp
  decide

theorem reread_output {value : Json} (h : reread value = some value) :
    reread (output value) = some (output value) := by
  rw [output, reread_obj (keysSorted_output value), rereadMembers_eq_self, Option.map_some]
  simp [reread, h]

/-- A document without a proxy and with small numbers is kept. -/
theorem small_document_kept : ∃ c, documentConfig noTexts .v1beta2 smallDocument = some c ∧
    newConfigFromJSON noTexts .v1beta2 smallDocument = some c := by
  obtain ⟨c, hc⟩ : ∃ c, documentConfig noTexts .v1beta2 smallDocument = some c :=
    Option.isSome_iff_exists.1 (by decide)
  have hsorted : smallDocument.Sorted := by
    simp only [smallDocument, workers, providerSetting, output, Sorted, SortedMembers,
      KeysSorted, pairwise_cons, forall_mem_cons, not_mem_nil,
      String.lt_iff_toList_lt]
    simp
    decide
  refine ⟨c, hc, (config_keeps_document_iff noTexts .v1beta2 smallDocument c hsorted hc).mpr
    ⟨fun _ hj => (by cases hj), ?_⟩⟩
  have hdisk : reread (.num 50) = some (.num 50) := by
    have h50 : Float64.reread 50 = some 50 := by decide +kernel
    rw [reread, h50, Option.map_some]
  have hworkers : reread (workers 50) = some (workers 50) :=
    reread_output (reread_single (reread_single (reread_single (reread_single hdisk))))
  have hapi : reread (.obj [("endpoint", .str "lb.example.com")]) = _ := reread_single rfl
  intro name hname j hj
  simp only [wholeTFOutput, mem_cons, not_mem_nil, or_false] at hname
  rcases hname with rfl | rfl | rfl | rfl <;> cases hj
  · exact reread_output hapi
  · exact hworkers

def proxyMembers : List (String × Json) :=
  [("proxy", output (.obj [("http", .str "http://192.0.2.1:3128")]))]

def largeMembers : List (String × Json) := [("kubeone_workers", workers 9007199254740993)]

theorem sorted_output {value : Json} (h : value.Sorted) : (output value).Sorted := by
  simp only [output, Sorted, SortedMembers]
  exact ⟨keysSorted_output value, trivial, trivial, h, trivial⟩

theorem reread_value {value : Json} (h : reread (output value) = some (output value)) :
    reread value = some value := by
  exact reread_lookup (k := "value") (keysSorted_output value) h rfl

/-- The proxy is lost, and a large number in the spec of a provider changes. -/
theorem proxy_and_number_lost :
    (∃ c, documentConfig noTexts .v1beta2 (.obj proxyMembers) = some c ∧
        newConfigFromJSON noTexts .v1beta2 (.obj proxyMembers) ≠ some c) ∧
      ∃ c, documentConfig noTexts .v1beta2 (.obj largeMembers) = some c ∧
        newConfigFromJSON noTexts .v1beta2 (.obj largeMembers) ≠ some c := by
  constructor
  · obtain ⟨c, hc⟩ : ∃ c, documentConfig noTexts .v1beta2 (.obj proxyMembers) = some c :=
      Option.isSome_iff_exists.1 (by decide)
    refine ⟨c, hc, fun h => ?_⟩
    have hsorted : ∀ m ∈ proxyMembers, m.2.Sorted := by
      simp only [proxyMembers, mem_singleton, forall_eq]
      exact sorted_output (by simp [Sorted, SortedMembers])
    have hzero := ((config_keeps_members_iff hsorted hc).1 h).1 _ rfl
    have hproxy : decode noTexts (outputOf proxyConfig)
        (output (.obj [("http", .str "http://192.0.2.1:3128")])) =
        some (.struct [("sensitive", .raw (.bool false)), ("type", .raw (.str "dynamic")),
          ("value", .struct [("http", .text "http://192.0.2.1:3128"), ("https", .text ""),
            ("noProxy", .text "")])]) := rfl
    rw [hproxy] at hzero
    simp [outputOf, zero, zeroFields] at hzero
  · obtain ⟨c, hc⟩ : ∃ c, documentConfig noTexts .v1beta2 (.obj largeMembers) = some c :=
      Option.isSome_iff_exists.1 (by decide)
    refine ⟨c, hc, fun h => ?_⟩
    have hsorted : ∀ m ∈ largeMembers, m.2.Sorted := by
      simp only [largeMembers, mem_singleton, forall_eq]
      exact sorted_output (by simp [providerSetting, Sorted, SortedMembers])
    have hworkers := ((config_keeps_members_iff hsorted hc).1 h).2 "kubeone_workers"
      (by decide) _ rfl
    have hpool := reread_lookup (k := "pool1") (by simp) (reread_value hworkers) rfl
    have hspec := reread_lookup (k := "providerSpec") (by simp) hpool rfl
    have hraw := reread_lookup (k := "cloudProviderSpec") (by simp) hspec rfl
    have hnum := reread_lookup (k := "diskSize") (by simp) hraw rfl
    have hnumber : Float64.reread 9007199254740993 = some 9007199254740992 := by
      decide +kernel
    simp [reread, hnumber] at hnum

end Outputs

end KubeOne.Terraform
