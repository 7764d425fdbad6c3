import KubeOne.Config.Edit
import KubeOne.Config.Evolution
import KubeOne.Config.Marshal

/-! The migration of a manifest from `v1beta2` to `v1beta3`, an edit in five steps: the version,
the addons with the Helm releases among them, their cleanup, the Helm releases, and the host of
the API if the old version took it from the first host. -/

namespace KubeOne.Config

open Collections (lookup_cons_pair)
open Yamled KubeOne.Config.Types Option Document
open Apis (V1beta2.KubeOneCluster V1beta3.KubeOneCluster)
open Apis.V1beta2 (withReleases convertAddons convertKubeOneCluster address)
open Apis.V1beta3 (Addons AddonRef Addon HelmRelease HelmValues)

section Steps

variable (F : Formats)

/-- The printed addons, loaded as a document. No addons are printed as null. -/
def loadAddons : Option Addons → Node
  | none => .mapSlice []
  | some a => marshalAddons F a

def setAPIVersion (d : Document) : Document :=
  (d.set [.key "apiVersion"] (.str (groupVersion .v1beta3))).1

def setAddons (c : V1beta2.KubeOneCluster) (d : Document) : Document :=
  if d.has [.key "addons"] || d.has [.key "helmReleases"] then
    (d.set [.key "addons"] (loadAddons F (convertKubeOneCluster c).addons)).1
  else d

def cleanupAddons (d : Document) : Document :=
  Document.walk cleanupFn (depth (.mapSlice d.root)) [.key "addons"] d

def removeHelmReleases (d : Document) : Document := (d.remove [.key "helmReleases"]).1

def setAPIEndpoint (c : V1beta2.KubeOneCluster) (d : Document) : Document :=
  if c.common.apiEndpointHost = "" then
    match c.common.controlPlane.hosts with
    | [] => d
    | first :: _ => (d.set [.key "host", .key "apiEndpoint"] (.str (address first))).1
  else d

def migrateV1beta2V1beta3 (d : Document) : Option Document :=
  (unmarshalStrict F .v1beta2 d).map fun n =>
    let c := readV1beta2 F n
    setAPIEndpoint c (removeHelmReleases (cleanupAddons (setAddons F c (setAPIVersion d))))

end Steps

variable {F : Formats} {n : Node}

theorem sorted_textMap (hn : Canonical n) : (textMap n).Pairwise (·.1 < ·.1) := by
  cases hn with
  | scalar s => simp [textMap, members]
  | seq _ => simp [textMap, members]
  | ofEntries sorted _ =>
    rw [textMap_ofEntries, List.pairwise_map]
    exact sorted

theorem durationText_readDuration (n : Node) :
    F.parseDuration (F.durationText (readDuration F n)) = some (readDuration F n) := by
  unfold readDuration
  cases h : F.parseDuration (text n) with
  | none => exact F.durationText_zero
  | some d => exact F.durationText_parsed _ d h

theorem canonicalField_inline (hn : Canonical n) :
    ∀ v ∈ (readHelmRelease F n).values, CanonicalField v.inline := by
  refine List.forall_mem_map.mpr fun m hm v hv => ?_
  exact canonical_child (canonical_elements (canonical_field hn "values") m hm) hv

theorem mem_newAddons {c : V1beta2.KubeOneCluster} {a : Addons} {ref : AddonRef}
    (ha : (convertKubeOneCluster c).addons = some a) :
    ref ∈ a.addons ↔
      (∃ old, c.addons = some old ∧ ∃ ad ∈ old.addons, ref = { addon := some ad }) ∨
        ∃ r ∈ c.helmReleases, ref = { helmRelease := some r } := by
  simp only [convertKubeOneCluster, withReleases] at ha
  obtain ⟨a', ha', rfl⟩ := map_eq_some_iff.mp ha
  cases hold : c.addons with
  | none =>
    obtain rfl : a' = {} := by
      by_cases hr : c.helmReleases = [] <;> simp_all
    simp [eq_comm]
  | some old =>
    obtain rfl : a' = convertAddons old := by simp_all
    simp [convertAddons, eq_comm]

theorem optional_eq_some_iff {α : Type} {read : Node → α} {x : α} :
    optional read n = some x ↔ n ≠ .null ∧ read n = x := by
  unfold optional
  split <;> simp_all

theorem printable_newAddons (hn : Canonical n) {a : Addons}
    (ha : (convertKubeOneCluster (readV1beta2 F n)).addons = some a) :
    ∀ ref ∈ a.addons, Printable F ref ∧ Ordered ref := by
  intro ref href
  rcases (mem_newAddons ha).mp href with ⟨old, hold, ad, had, rfl⟩ | ⟨r, hr, rfl⟩
  · obtain ⟨-, rfl⟩ := optional_eq_some_iff.mp hold
    obtain ⟨m, hm, rfl⟩ := List.mem_map.mp had
    have hm' := canonical_elements (canonical_field (canonical_field hn _) _) m hm
    have hparams : (readAddon m).params.Pairwise (·.1 < ·.1) :=
      sorted_textMap (canonical_field hm' "params")
    exact ⟨⟨by simp, by simp⟩, ⟨by simpa using hparams, by simp⟩⟩
  · obtain ⟨m, hm, rfl⟩ := List.mem_map.mp hr
    have hm' := canonical_elements (canonical_field hn _) m hm
    have hinline := canonicalField_inline (F := F) hm'
    have htime : F.parseDuration (F.durationText (readHelmRelease F m).waitTimeout) =
        some (readHelmRelease F m).waitTimeout := durationText_readDuration _
    exact ⟨⟨by simp, by simpa using htime⟩, ⟨by simp, by simpa using hinline⟩⟩

theorem canonical_loadAddons (hn : Canonical n) :
    Canonical (loadAddons F (convertKubeOneCluster (readV1beta2 F n)).addons) := by
  cases ha : (convertKubeOneCluster (readV1beta2 F n)).addons with
  | none => exact @Canonical.ofEntries [] .nil (by simp)
  | some a => exact (prints_addons (printable_newAddons hn ha)).canonical _ rfl

theorem Edited.self {n : Node} {k : String} {v : Option Node} (hn : isObject n = true)
    (hv : n.child (.key k) = v) : Edited n n k v := by
  refine ⟨hn, fun j => ?_⟩
  by_cases h : j = k
  · rw [if_pos h, h, hv]
  · rw [if_neg h]

def Json (F : Formats) (d : Document) (n : Node) : Prop :=
  normal F.numberText (.mapSlice d.root) = some n

variable {d : Document}

theorem Json.isObject (h : Json F d n) : isObject n = true := by
  obtain ⟨entries, -, hobject⟩ := bind_eq_some_iff.mp h
  obtain ⟨-, rfl⟩ := object_eq_some_iff.mp hobject
  rfl

theorem Json.has_iff (h : Json F d n) {k : String} (hk : isName k = true) :
    d.has [.key k] = (n.child (.key k)).isSome := by
  have hchild := congrArg isSome (child_normal hk h)
  rw [isSome_map, isSome_map] at hchild
  rw [has, get_root, hchild]

theorem Json.setAPIVersion (h : Json F d n) :
    ∃ n', Json F (setAPIVersion d) n' ∧
      Edited n n' "apiVersion" (some (.str (groupVersion .v1beta3))) := by
  unfold Config.setAPIVersion
  exact normal_setValue (by decide) h rfl

/-- The addons of the migrated manifest, if there are addons or releases to print. -/
def migratedAddons (F : Formats) (n : Node) : Option Node :=
  if (n.child (.key "addons")).isSome || (n.child (.key "helmReleases")).isSome then
    clean (loadAddons F (convertKubeOneCluster (readV1beta2 F n)).addons)
  else none

variable {items : List (Scalar × Node)}

theorem mem_setValue {k : Scalar} {v : Node} : (k, v) ∈ setValueInMapSlice items k v := by
  induction items with
  | nil => simp [setValueInMapSlice]
  | cons item rest ih =>
    by_cases h : item.1 = k
    · simp [setValueInMapSlice, h]
    · simp [setValueInMapSlice, h, ih]

theorem Json.addons {n₀ : Node} (hn₀ : Canonical n₀) (h : Json F d n)
    (haddons : n.child (.key "addons") = n₀.child (.key "addons"))
    (hreleases : n.child (.key "helmReleases") = n₀.child (.key "helmReleases")) :
    ∃ n', Json F (cleanupAddons (setAddons F (readV1beta2 F n₀) d)) n' ∧
      Edited n n' "addons" (migratedAddons F n₀) := by
  unfold setAddons migratedAddons
  rw [h.has_iff (by decide), h.has_iff (by decide), haddons, hreleases]
  split
  · have hcanonical := canonical_loadAddons (F := F) hn₀
    generalize loadAddons F (convertKubeOneCluster (readV1beta2 F n₀)).addons = value at hcanonical
    have hdepth : depth value ≤
        depth (.mapSlice (setValueInMapSlice d.root (.str "addons") value)) := by
      exact Nat.le_succ_of_le (depth_le_depthItems mem_setValue)
    rw [set_root, cleanupAddons, walk_root (by decide) hcanonical.plain hdepth]
    cases hclean : clean value with
    | none => exact normal_removeKey (by decide) h
    | some value' =>
      exact normal_setValue (by decide) h (normal_of_canonical (hcanonical.clean hclean))
  · next hnone =>
    have hget : n.child (.key "addons") = none := by
      rw [haddons]
      cases hc : n₀.child (.key "addons") with
      | none => rfl
      | some v => simp [hc] at hnone
    have hwalk : d.get [.key "addons"] = none := by
      rw [← not_isSome_iff_eq_none, ← has, h.has_iff (by decide), hget]
      simp
    rw [cleanupAddons, walk_root_none hwalk]
    exact ⟨n, h, .self h.isObject hget⟩

theorem Json.removeHelmReleases (h : Json F d n) :
    ∃ n', Json F (removeHelmReleases d) n' ∧ Edited n n' "helmReleases" none := by
  unfold Config.removeHelmReleases
  exact normal_removeKey (by decide) h

theorem setValue_setValue {κ α : Type} [DecidableEq κ] (items : List (κ × α)) (k : κ) (v v' : α) :
    setValueInMapSlice (setValueInMapSlice items k v) k v' = setValueInMapSlice items k v' := by
  induction items with
  | nil => simp [setValueInMapSlice]
  | cons item rest ih => by_cases h : item.1 = k <;> simp [setValueInMapSlice, h, ih]

theorem child_setValue {k : String} (hk : isName k = true)
    (v : Node) : (Node.mapSlice (setValueInMapSlice items (.str k) v)).child (.key k) = some v := by
  obtain ⟨before, after, htext, -, hset⟩ := exists_setValue_eq hk items
  rw [hset, child_item htext]

theorem set_member {k m : String} (hk : isName k = true) (v : Node) :
    (d.set [.key m, .key k] v).1 =
      match d.get [.key k] with
      | none => ⟨setValueInMapSlice d.root (.str k) (.goMap [(m, v)])⟩
      | some (.mapSlice items) =>
        ⟨setValueInMapSlice d.root (.str k) (.mapSlice (setValueInMapSlice items (.str m) v))⟩
      | some (.goMap items) =>
        ⟨setValueInMapSlice d.root (.str k) (.goMap (setValueInMapSlice items m v))⟩
      | some _ => d := by
  have hroot (d : Document) (v : Node) : d.setInternal [.key k] v =
      (⟨setValueInMapSlice d.root (.str k) v⟩, true) := by
    have := set_root (d := d) (k := k) v
    simpa [Document.set] using this
  rw [Document.set, if_neg (by simp), Document.setInternal]
  cases hget : d.get [.key k] with
  | none =>
    have hcreated : get ⟨setValueInMapSlice d.root (.str k) (.goMap [])⟩ [.key k] =
        some (.goMap []) := by
      rw [get_root, child_setValue hk]
    simp [has, hget, hroot, hcreated, place, setValueInMapSlice, setValue_setValue]
  | some value =>
    cases value <;> simp [has, hget, hroot, place]

theorem object_ne_null {entries : List (String × Node)} (h : object entries = some n) :
    n ≠ .null := by
  obtain ⟨-, rfl⟩ := object_eq_some_iff.mp h
  simp [ofEntries]

theorem Json.setEndpoint (h : Json F d n)
    (hobject : ∀ e, n.child (.key "apiEndpoint") = some e → Config.isObject e = true)
    (host : String) :
    ∃ n', Json F (d.set [.key "host", .key "apiEndpoint"] (.str host)).1 n' ∧
      if n.child (.key "apiEndpoint") = some .null then n' = n
      else ∃ e, Edited n n' "apiEndpoint" (some e) ∧
        Edited (field n "apiEndpoint") e "host" (some (.str host)) := by
  have hchild := child_normal (k := "apiEndpoint") (by decide) h
  rw [← get_root] at hchild
  rw [set_member (by decide)]
  cases hget : d.get [.key "apiEndpoint"] with
  | none =>
    have hnone : n.child (.key "apiEndpoint") = none := by simpa [hget] using hchild
    have hnew : normal F.numberText (.goMap [("host", .str host)]) =
        some (ofEntries [("host", .str host)]) := by
      simp [normal, normalEntries, object, sortEntries]
    obtain ⟨n', hn', hedited⟩ := normal_setValue (k := "apiEndpoint") (by decide) h hnew
    refine ⟨n', hn', ?_⟩
    rw [if_neg (by simp [hnone])]
    refine ⟨_, hedited, rfl, fun j => ?_⟩
    rw [child_ofEntries, lookup_cons_pair, field, hnone]
    rfl
  | some value =>
    obtain ⟨e, he⟩ : ∃ e, n.child (.key "apiEndpoint") = some e := by
      rw [hget, map_some] at hchild
      obtain ⟨e, he, -⟩ := map_eq_some_iff.mp hchild.symm
      exact ⟨e, he⟩
    have hvalue : normal F.numberText value = some e := by simpa [hget, he] using hchild
    have hisObject := hobject e he
    have hfield : field n "apiEndpoint" = e := by rw [field, he, getD_some]
    rw [he, hfield]
    -- The document has a mapping here, or a null, which stays.
    cases value with
    | scalar s =>
      obtain rfl : Node.scalar s = e := by simpa [normal] using hvalue
      cases s with
      | null => exact ⟨n, h, by simp⟩
      | _ => simp [Config.isObject] at hisObject
    | seq items =>
      obtain ⟨items', -, rfl⟩ := map_eq_some_iff.mp hvalue
      simp [Config.isObject] at hisObject
    | mapSlice items =>
      obtain ⟨entries, -, hentries⟩ := bind_eq_some_iff.mp hvalue
      obtain ⟨e', he', hedited⟩ := normal_setValue (k := "host") (v := .str host) (by decide)
        hvalue rfl
      obtain ⟨n', hn', hedited'⟩ := normal_setValue (k := "apiEndpoint") (by decide) h he'
      refine ⟨n', hn', ?_⟩
      rw [if_neg (by simpa using object_ne_null hentries)]
      exact ⟨e', hedited', hedited⟩
    | goMap items =>
      obtain ⟨entries, -, hentries⟩ := bind_eq_some_iff.mp hvalue
      obtain ⟨e', he', hedited⟩ := normal_setValue_goMap (k := "host") (v := .str host) hvalue rfl
      obtain ⟨n', hn', hedited'⟩ := normal_setValue (k := "apiEndpoint") (by decide) h he'
      refine ⟨n', hn', ?_⟩
      rw [if_neg (by simpa using object_ne_null hentries)]
      exact ⟨e', hedited', hedited⟩

/-- The host of the API in the migrated manifest. An API endpoint that is null stays without. -/
def migratedHost (F : Formats) (n : Node) : String :=
  let c := readV1beta2 F n
  if c.common.apiEndpointHost = "" then
    match c.common.controlPlane.hosts with
    | [] => ""
    | first :: _ => if n.child (.key "apiEndpoint") = some .null then "" else address first
  else c.common.apiEndpointHost

/-- What the migration makes of a manifest, member by member. -/
structure Migrated (F : Formats) (n n' : Node) : Prop where
  isObject : isObject n' = true
  apiVersion : n'.child (.key "apiVersion") = some (.str (groupVersion .v1beta3))
  addons : n'.child (.key "addons") = migratedAddons F n
  helmReleases : n'.child (.key "helmReleases") = none
  host : text (field (field n' "apiEndpoint") "host") = migratedHost F n
  endpoint : ∀ k, k ≠ "host" → field (field n' "apiEndpoint") k = field (field n "apiEndpoint") k
  endpoint_accepted : ∀ e, n'.child (.key "apiEndpoint") = some e → accepts F apiEndpoint e = true
  others : ∀ k, k ∉ ["apiVersion", "addons", "helmReleases", "apiEndpoint"] →
    n'.child (.key k) = n.child (.key k)

/-- An API endpoint that a manifest can have after the migration. -/
structure MigratedEndpoint (F : Formats) (n : Node) (e : Option Node) : Prop where
  host : text (field (e.getD .null) "host") = migratedHost F n
  others : ∀ k, k ≠ "host" → field (e.getD .null) k = field (field n "apiEndpoint") k
  accepted : ∀ v, e = some v → accepts F apiEndpoint v = true

theorem MigratedEndpoint.same
    (haccepted : ∀ v, n.child (.key "apiEndpoint") = some v → accepts F apiEndpoint v = true)
    (hhost : migratedHost F n = (readV1beta2 F n).common.apiEndpointHost) :
    MigratedEndpoint F n (n.child (.key "apiEndpoint")) where
  host := hhost.symm
  others _ _ := rfl
  accepted := haccepted

theorem MigratedEndpoint.edited {e : Node} {host : String}
    (haccepted : ∀ v, n.child (.key "apiEndpoint") = some v → accepts F apiEndpoint v = true)
    (hn : Canonical n) (he : Canonical e)
    (h : Edited (field n "apiEndpoint") e "host" (some (.str host)))
    (hhost : migratedHost F n = host) : MigratedEndpoint F n (some e) where
  host := by
    rw [hhost, getD_some, field, h.2, if_pos rfl]
    rfl
  others k hk := by rw [getD_some, field, h.2, if_neg hk, ← field]
  accepted v hv := by
    obtain rfl := some.inj hv
    have hold : accepts F apiEndpoint (field n "apiEndpoint") = true :=
      (forall_child_iff (P := fun v => accepts F apiEndpoint v = true) rfl).mp haccepted
    rw [apiEndpoint, accepts_object_iff (canonical_field hn _)] at hold
    rw [apiEndpoint, accepts_object_iff he]
    refine ⟨h.1, fun j v hv => ?_⟩
    rw [h.2] at hv
    by_cases hj : j = "host"
    · rw [if_pos hj, some.injEq] at hv
      subst hv hj
      rfl
    · rw [if_neg hj] at hv
      exact hold.2 j v hv

theorem Json.setAPIEndpoint {n₀ : Node} (hn₀ : Canonical n₀)
    (haccepted : ∀ v, n₀.child (.key "apiEndpoint") = some v → accepts F apiEndpoint v = true)
    (h : Json F d n) (hsame : n.child (.key "apiEndpoint") = n₀.child (.key "apiEndpoint")) :
    ∃ n' e, Json F (setAPIEndpoint (readV1beta2 F n₀) d) n' ∧ Edited n n' "apiEndpoint" e ∧
      MigratedEndpoint F n₀ e := by
  have hself := Edited.self h.isObject hsame
  by_cases hhost : (readV1beta2 F n₀).common.apiEndpointHost = ""
  · cases hhosts : (readV1beta2 F n₀).common.controlPlane.hosts with
    | nil =>
      rw [Config.setAPIEndpoint, if_pos hhost, hhosts]
      exact ⟨n, _, h, hself, .same haccepted (by simp [migratedHost, hhost, hhosts])⟩
    | cons first rest =>
      rw [Config.setAPIEndpoint, if_pos hhost, hhosts]
      have hobject : ∀ e, n.child (.key "apiEndpoint") = some e → Config.isObject e = true := by
        intro e he
        have hcanonical : Canonical e := canonical_child hn₀ (hsame ▸ he)
        exact ((accepts_object_iff hcanonical).mp (haccepted e (hsame ▸ he))).1
      obtain ⟨n', hn', hedited⟩ := h.setEndpoint hobject (address first)
      split at hedited
      · next hnull =>
        subst hedited
        rw [hsame] at hnull
        exact ⟨n', _, hn', hself, .same haccepted (by simp [migratedHost, hhost, hhosts, hnull])⟩
      · next hnull =>
        rw [hsame] at hnull
        obtain ⟨e, hedited, hmember⟩ := hedited
        have he : Canonical e := by
          refine canonical_child (canonical_normal hn') (k := "apiEndpoint") ?_
          rw [hedited.2, if_pos rfl]
        rw [field, hsame, ← field] at hmember
        exact ⟨n', _, hn', hedited, .edited haccepted hn₀ he hmember
          (by simp [migratedHost, hhost, hhosts, hnull])⟩
  · rw [Config.setAPIEndpoint, if_neg hhost]
    exact ⟨n, _, h, hself, .same haccepted (by simp [migratedHost, hhost])⟩

theorem unmarshalStrict_eq_some_iff {v : Version} :
    unmarshalStrict F v d = some n ↔ Json F d n ∧ accepts F (kubeOneCluster v) n = true := by
  rw [unmarshalStrict, filter_eq_some_iff]
  rfl

theorem migrate_spec (h : unmarshalStrict F .v1beta2 d = some n) :
    ∃ d' n', migrateV1beta2V1beta3 F d = some d' ∧ Json F d' n' ∧ Migrated F n n' := by
  obtain ⟨hjson, haccepts⟩ := unmarshalStrict_eq_some_iff.mp h
  have hn : Canonical n := canonical_normal hjson
  have haccepted : ∀ v, n.child (.key "apiEndpoint") = some v → accepts F apiEndpoint v = true := by
    intro v hv
    obtain ⟨s, hs, hv⟩ := acceptsField_iff.mp
      (((accepts_object_iff hn).mp haccepts).2 "apiEndpoint" v hv)
    obtain rfl : apiEndpoint = s := some.inj hs
    exact hv
  obtain ⟨n₁, hjson₁, hedit₁⟩ := hjson.setAPIVersion
  obtain ⟨n₂, hjson₂, hedit₂⟩ := hjson₁.addons hn (hedit₁.2 _) (hedit₁.2 _)
  obtain ⟨n₃, hjson₃, hedit₃⟩ := hjson₂.removeHelmReleases
  have hsame : n₃.child (.key "apiEndpoint") = n.child (.key "apiEndpoint") := by
    simp [hedit₃.2, hedit₂.2, hedit₁.2]
  obtain ⟨n₄, e, hjson₄, hedit₄, hendpoint⟩ := hjson₃.setAPIEndpoint hn haccepted hsame
  have hchild (k : String) : n₄.child (.key k) =
      if k = "apiEndpoint" then e else if k = "helmReleases" then none
      else if k = "addons" then migratedAddons F n
      else if k = "apiVersion" then some (.str (groupVersion .v1beta3))
      else n.child (.key k) := by
    rw [hedit₄.2, hedit₃.2, hedit₂.2, hedit₁.2]
  have hfield : field n₄ "apiEndpoint" = e.getD .null := by simp [field, hchild]
  refine ⟨_, n₄, by rw [migrateV1beta2V1beta3, h]; rfl, hjson₄, ?_⟩
  exact
    { isObject := hedit₄.1
      apiVersion := by simp [hchild]
      addons := by simp [hchild]
      helmReleases := by simp [hchild]
      host := by rw [hfield, hendpoint.host]
      endpoint := fun k hk => by rw [hfield, hendpoint.others k hk]
      endpoint_accepted := fun v hv => hendpoint.accepted v (by simpa [hchild] using hv)
      others := fun k hk => by
        simp only [List.mem_cons, List.not_mem_nil, or_false, not_or] at hk
        simp [hchild, hk] }

end KubeOne.Config
