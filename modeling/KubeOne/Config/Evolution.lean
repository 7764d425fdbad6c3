import KubeOne.Config.Manifest

/-! Manifests of `v1beta2` in the shape of `v1beta3`. Most types have at least the fields that they
had. Three fields are gone, and one holds a truth value where it held a text; a part of a manifest
is accepted in the new version if it uses none of them. -/

namespace KubeOne.Config

open Collections (lookup_eq_some_iff_mem)
open Yamled KubeOne.Config.Types

variable {F : Formats} {n : Node}

theorem canonical_child (h : Canonical n) {k : String} {v : Node}
    (hv : n.child (.key k) = some v) : Canonical v := by
  cases h with
  | scalar s => simp [Node.child] at hv
  | seq _ => simp [Node.child] at hv
  | @ofEntries entries sorted parts =>
    rw [child_ofEntries, lookup_eq_some_iff_mem (nodup_of_sorted sorted)] at hv
    exact parts _ hv

theorem canonical_field (h : Canonical n) (k : String) : Canonical (field n k) := by
  unfold field
  cases hv : n.child (.key k) with
  | none => exact .scalar _
  | some v => exact canonical_child h hv

theorem canonical_elements (h : Canonical n) : ∀ m ∈ elements n, Canonical m := by
  cases h with
  | seq parts => exact parts
  | scalar s => simp [elements]
  | ofEntries _ _ => simp [elements, ofEntries]

theorem forall_child_iff {P : Node → Prop} (hnull : P .null) {k : String} :
    (∀ v, n.child (.key k) = some v → P v) ↔ P (field n k) := by
  unfold field
  cases h : n.child (.key k) with
  | none => simp [hnull]
  | some v => simp

variable {fields : List (String × Schema)}

theorem accepts_field (hn : Canonical n)
    (h : accepts F (.object fields) n = true) {k : String} {s : Schema}
    (hs : fields.lookup k = some s) (hnull : accepts F s .null = true) :
    accepts F s (field n k) = true := by
  refine (forall_child_iff (P := fun v => accepts F s v = true) hnull).mp fun v hv => ?_
  obtain ⟨t, ht, hv⟩ := acceptsField_iff.mp (((accepts_object_iff hn).mp h).2 k v hv)
  rw [hs, Option.some.injEq] at ht
  rwa [ht]

variable {f g : List (String × Schema)}

theorem accepts_changed {name : String} {t : Schema}
    (hle : leFields (f.filter fun field => field.1 ≠ name) g = true)
    (ht : g.lookup name = some t) (hnull : accepts F t .null = true) (hn : Canonical n)
    (hf : accepts F (.object f) n = true) :
    accepts F (.object g) n = true ↔ accepts F t (field n name) = true := by
  rw [accepts_object_of_le hle hn hf, ← forall_child_iff (P := fun v => accepts F t v = true) hnull]
  refine forall₂_congr fun v _ => ?_
  rw [acceptsField_iff, ht]
  simp

theorem accepts_removed {name : String}
    (hle : leFields (f.filter fun field => field.1 ≠ name) g = true)
    (hg : g.lookup name = none) (hn : Canonical n) (hf : accepts F (.object f) n = true) :
    accepts F (.object g) n = true ↔ n.child (.key name) = none := by
  rw [accepts_object_of_le hle hn hf, Option.eq_none_iff_forall_not_mem]
  refine forall_congr' fun v => ?_
  rw [acceptsField_iff, hg]
  simp

theorem accepts_pointer_object :
    accepts F (.pointer (.object fields)) n = accepts F (.object fields) n := by
  by_cases h : n = .null
  · subst h
    simp [accepts, eachMember]
  · simp [accepts, h]

theorem accepts_list_iff {s : Schema} :
    accepts F (.list s) n = true ↔
      accepts F (.list .raw) n = true ∧ ∀ m ∈ elements n, accepts F s m = true := by
  cases n with
  | scalar v => cases v <;> simp [accepts, eachElement, elements]
  | seq items => simp [accepts, eachElement, elements]
  | mapSlice items => simp [accepts, eachElement]
  | goMap items => simp [accepts, eachElement]

theorem accepts_containerRuntime (hn : Canonical n)
    (h : accepts F (containerRuntimeConfig .v1beta2) n = true) :
    accepts F (containerRuntimeConfig .v1beta3) n = true ↔ n.child (.key "docker") = none :=
  accepts_removed (by decide) (by decide) hn h

theorem accepts_features (hn : Canonical n) (h : accepts F (features .v1beta2) n = true) :
    accepts F (features .v1beta3) n = true ↔ n.child (.key "podSecurityPolicy") = none :=
  accepts_removed (by decide) (by decide) hn h

theorem accepts_providerSpec (hn : Canonical n) (h : accepts F (providerSpec .v1beta2) n = true) :
    accepts F (providerSpec .v1beta3) n = true ↔ n.child (.key "machineAnnotations") = none :=
  accepts_removed (by decide) (by decide) hn h

theorem accepts_dynamicWorker (hn : Canonical n)
    (h : accepts F (dynamicWorkerConfig .v1beta2) n = true) :
    accepts F (dynamicWorkerConfig .v1beta3) n = true ↔
      (field n "providerSpec").child (.key "machineAnnotations") = none := by
  have hspec : accepts F (providerSpec .v1beta2) (field n "providerSpec") = true :=
    accepts_field hn h rfl (by simp [providerSpec, accepts, eachMember])
  rw [← accepts_providerSpec (canonical_field hn _) hspec]
  exact accepts_changed (by decide) rfl (by simp [providerSpec, accepts, eachMember]) hn h

theorem isBool_iff_of_isText (h : isText n = true) : isBool n = true ↔ n = .null := by
  cases n with
  | scalar s => cases s <;> simp_all [isText, isBool]
  | _ => simp [isText] at h

theorem accepts_cilium (hn : Canonical n) (h : accepts F (ciliumSpec .v1beta2) n = true) :
    accepts F (ciliumSpec .v1beta3) n = true ↔ field n "kubeProxyReplacement" = .null := by
  have htext : isText (field n "kubeProxyReplacement") = true :=
    accepts_field (s := .string) hn h rfl rfl
  have hbool : accepts F (ciliumSpec .v1beta3) n = true ↔
      isBool (field n "kubeProxyReplacement") = true :=
    accepts_changed (t := .bool) (by decide) rfl rfl hn h
  rw [hbool, isBool_iff_of_isText htext]

theorem accepts_clusterNetwork (hn : Canonical n)
    (h : accepts F (clusterNetworkConfig .v1beta2) n = true) :
    accepts F (clusterNetworkConfig .v1beta3) n = true ↔
      field (field (field n "cni") "cilium") "kubeProxyReplacement" = .null := by
  have hcni : accepts F (cni .v1beta2) (field n "cni") = true := by
    rw [cni, ← accepts_pointer_object]
    exact accepts_field hn h rfl (by simp [accepts])
  have hcilium : accepts F (ciliumSpec .v1beta2) (field (field n "cni") "cilium") = true := by
    rw [ciliumSpec, ← accepts_pointer_object]
    exact accepts_field (canonical_field hn _) hcni rfl (by simp [accepts])
  have hn' := canonical_field (canonical_field hn "cni") "cilium"
  rw [← accepts_cilium hn' hcilium]
  calc accepts F (clusterNetworkConfig .v1beta3) n = true
      ↔ accepts F (.pointer (cni .v1beta3)) (field n "cni") = true :=
        accepts_changed (by decide) rfl (by simp [accepts]) hn h
    _ ↔ accepts F (cni .v1beta3) (field n "cni") = true := by
        rw [cni, accepts_pointer_object]
    _ ↔ accepts F (.pointer (ciliumSpec .v1beta3)) (field (field n "cni") "cilium") = true :=
        accepts_changed (by decide) rfl (by simp [accepts]) (canonical_field hn _) hcni
    _ ↔ accepts F (ciliumSpec .v1beta3) (field (field n "cni") "cilium") = true := by
        rw [ciliumSpec, accepts_pointer_object]

theorem accepts_dynamicWorkers (hn : Canonical n)
    (h : accepts F (.list (dynamicWorkerConfig .v1beta2)) n = true) :
    accepts F (.list (dynamicWorkerConfig .v1beta3)) n = true ↔
      ∀ w ∈ elements n, (field w "providerSpec").child (.key "machineAnnotations") = none := by
  rw [accepts_list_iff] at h ⊢
  rw [and_iff_right h.1]
  exact forall₂_congr fun w hw => accepts_dynamicWorker (canonical_elements hn w hw) (h.2 w hw)

end KubeOne.Config
