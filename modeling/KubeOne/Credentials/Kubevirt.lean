import KubeOne.Credentials.Secret

/-! The kubeconfig of a KubeVirt cluster. The credentials may hold it as it is or encoded; the
writer that decodes it stands behind one that defaulting selects for every KubeVirt cluster. -/

namespace KubeOne.Credentials

open Process (Client)
open Text (Base64.encode Base64.decode)
open Text (trimSpace isSpace trim_eq_self)

theorem length_le_length_utf8 (s : String) : s.toList.length ≤ (utf8 s).length := by
  unfold utf8
  induction s.toList with
  | nil => simp
  | cons c cs ih =>
    rw [List.flatMap_cons, List.length_append, List.length_cons, String.length_utf8EncodeChar]
    have := c.utf8Size_pos
    omega

variable {k : String}

theorem length_toList_pos (hk : k ≠ "") : 0 < k.toList.length :=
  List.length_pos_iff.2 fun h => hk (String.toList_eq_nil_iff.1 h)

theorem length_lt_length_encodeToString (hk : k ≠ "") :
    (utf8 k).length < (encodeToString k).toList.length := by
  have hpos := length_toList_pos hk
  have hle := length_le_length_utf8 k
  rw [encodeToString, String.toList_ofList, Text.Base64.length_encode]
  omega

theorem utf8_encodeToString_ne (hk : k ≠ "") : utf8 (encodeToString k) ≠ utf8 k := by
  intro heq
  have hlonger := length_lt_length_encodeToString hk
  have hle := length_le_length_utf8 (encodeToString k)
  rw [heq] at hle
  omega

theorem encodeToString_ne_empty (hk : k ≠ "") : encodeToString k ≠ "" := by
  intro hempty
  have hlonger := length_lt_length_encodeToString hk
  simp [hempty] at hlonger

theorem trimSpace_encodeToString (k : String) :
    trimSpace (encodeToString k).toList = (encodeToString k).toList := by
  rw [encodeToString, String.toList_ofList]
  have hsymbols : Text.Base64.alphabet.all (fun c => !isSpace c) = true := by decide +kernel
  have hsymbol : ∀ c ∈ Text.Base64.alphabet, isSpace c = false := by
    simpa using List.all_eq_true.1 hsymbols
  exact trim_eq_self (Text.Base64.encode_forall (by decide) hsymbol _)

theorem kubevirt_credentials {others : Provider → (String → String) → Except String Creds}
    {cf : Finder} {typ : CredentialsType} {v : String}
    (hget : cf.get typ kubevirtKubeconfigKey = v) (htrim : trimSpace v.toList = v.toList)
    (hv : v ≠ "") :
    providerCredentials others .kubevirt cf typ = .ok [(kubevirtKubeconfigKey, v)] := by
  have hvalue : String.ofList (trimSpace v.toList) = v := by rw [htrim, String.ofList_toList]
  simp [providerCredentials, parseCredentialVariables, defaultValidationFunc, hget, hvalue, hv,
    EnvironmentVariable.target, bind, Except.bind, pure, Except.pure]

/-- After the secrets of a KubeVirt cluster have been ensured, the cloud controller has the
kubeconfig exactly if the credentials hold the kubeconfig itself and not its encoding. -/
theorem kubevirt_kubeconfig_stored_iff
    (others : Provider → (String → String) → Except String Creds)
    (render : String → Creds → Except String String) (st : State) (spec : CloudProviderSpec)
    (cf : Finder) (k : String) (hdefaulted : st.cloudProvider = setDefaultsCloudProvider spec)
    (hkubevirt : spec.provider = .kubevirt) (hfinder : st.finder = .ok cf)
    (htrim : trimSpace k.toList = k.toList) (hplain : Base64.decode k.toList = none)
    (hheld : cf.get .ccm kubevirtKubeconfigKey = k ∨
      cf.get .ccm kubevirtKubeconfigKey = encodeToString k)
    (s t : Cluster) (calls : List (Request × Cluster)) (cloudConfig : String)
    (hrun : Client.Run answers (ensure others render st) s calls t (some (.ok cloudConfig))) :
    (∃ data, t (secretNamespace, secretNameCCM) = some data ∧
        data kubevirtKubeconfigKey = some (utf8 k)) ↔
      cf.get .ccm kubevirtKubeconfigKey = k := by
  have hk : k ≠ "" := by
    rintro rfl
    exact absurd hplain (by decide)
  generalize hv : cf.get .ccm kubevirtKubeconfigKey = v at hheld ⊢
  have hvalue : v ≠ "" ∧ trimSpace v.toList = v.toList := by
    rcases hheld with h | h
    · exact h ▸ ⟨hk, htrim⟩
    · exact h ▸ ⟨encodeToString_ne_empty hk, trimSpace_encodeToString k⟩
  have hspec : st.cloudProvider.provider = .kubevirt ∧ st.cloudProvider.external = true := by
    simp [hdefaulted, setDefaultsCloudProvider, hkubevirt]
  have hcreds : st.credentials others .ccm = .ok [(kubevirtKubeconfigKey, v)] := by
    rw [State.credentials, hfinder, hspec.1]
    exact kubevirt_credentials hv hvalue.2 hvalue.1
  -- the flag of defaulting decides for the writer that takes the credentials as they are
  have hsecret : ccmSecret st.cloudProvider [(kubevirtKubeconfigKey, v)] =
      some (credentialsSecret secretNameCCM [(kubevirtKubeconfigKey, v)]) := by
    simp [ccmSecret, hspec]
  have hstored := (ends_ensure s (by simp [hspec]) hcreds hsecret).run hrun cloudConfig rfl
  have hdata : (credentialsSecret secretNameCCM [(kubevirtKubeconfigKey, v)]).stored
      kubevirtKubeconfigKey = some (utf8 v) := by
    simp [credentialsSecret, Secret.stored]
  constructor
  · rintro ⟨data, ht, hutf8⟩
    obtain rfl := Option.some.inj (hstored.symm.trans ht)
    rcases hheld with h | h
    · exact h
    · rw [hdata, h, Option.some.injEq] at hutf8
      exact absurd hutf8 (utf8_encodeToString_ne hk)
  · intro h
    exact ⟨_, hstored, by rw [hdata, h]⟩

namespace Kubeconfig

def held (v : String) : Finder where
  static name := if name = kubevirtKubeconfigKey then v else ""
  dynamic _ := ""

def kubevirtSpec : CloudProviderSpec where
  provider := .kubevirt

def kubevirtState (v : String) : State where
  cloudProvider := setDefaultsCloudProvider kubevirtSpec
  machineControllerDeploy := true
  operatingSystemManagerDeploy := true
  finder := .ok (held v)

def noOthers : Provider → (String → String) → Except String Creds := fun _ _ => .ok []

def plainText : String → Creds → Except String String := fun text _ => .ok text

def ensured (v : String) : List (Request × Cluster) × Cluster × Except String String :=
  (ensure noOthers plainText (kubevirtState v)).exec answer fun _ => none

theorem run_ensured {v : String} (h : (ensured v).2.2 = .ok "") :
    Client.Run answers (ensure noOthers plainText (kubevirtState v)) (fun _ => none) (ensured v).1
      (ensured v).2.1 (some (.ok "")) := by
  rw [← h]
  exact Client.run_exec answers_answer _ _

/-- A kubeconfig that is held as it is. -/
theorem plain_kubeconfig_stored :
    ∃ data, (ensured "kind: Config").2.1 (secretNamespace, secretNameCCM) = some data ∧
      data kubevirtKubeconfigKey = some (utf8 "kind: Config") :=
  (kubevirt_kubeconfig_stored_iff noOthers plainText (kubevirtState "kind: Config") kubevirtSpec
    (held "kind: Config") "kind: Config" rfl rfl rfl (by decide +kernel) (by decide +kernel)
    (.inl (by decide +kernel)) _ _ _ "" (run_ensured (by decide +kernel))).mpr (by decide +kernel)

/-- The encoded kubeconfig is stored as it is held. -/
theorem encoded_kubeconfig_stored :
    encodeToString "kind: Config" = "a2luZDogQ29uZmln" ∧
      (ensured "a2luZDogQ29uZmln").2.2 = .ok "" ∧
      ∃ data, (ensured "a2luZDogQ29uZmln").2.1 (secretNamespace, secretNameCCM) = some data ∧
        data kubevirtKubeconfigKey = some (utf8 "a2luZDogQ29uZmln") ∧
        utf8 "a2luZDogQ29uZmln" ≠ utf8 "kind: Config" := by
  refine ⟨by decide +kernel, by decide +kernel, _, rfl, by decide +kernel, by decide +kernel⟩

end Kubeconfig

end KubeOne.Credentials
