import KubeOne.Addons.Applier
import KubeOne.Text.Dns

/-! The inventory names of addons. A name that is an object name is kept, but for dots and dashes
at its end; any other one is sanitized, cut, and ends in a digest. So a kept name may coincide
with another kept one, or with one that carries its digest. -/

namespace KubeOne.Addons

open List

open Text (isLowerAlnum DotsBetween isDNS1123Subdomain)

def sanitized (addonName : String) : List Char := replaceInvalid false (addonName.toList.map lower)

/-- The inventory of this addon ends in the digest of the addon's name. -/
def carriesDigest (addonName : String) : Bool :=
  sanitized addonName ≠ addonName.toList ||
    dns1123SubdomainMaxLength < "kubeone-addon-".length + (sanitized addonName).length

def stem (addonName : String) : List Char := addonName.toList.rdropWhile (· ∈ ['.', '-'])

def cut (addonName : String) : List Char :=
  (sanitized addonName).take (dns1123SubdomainMaxLength - 9 - "kubeone-addon-".length)

def isHexDigit (c : Char) : Bool := ('0' ≤ c && c ≤ '9') || ('a' ≤ c && c ≤ 'f')

def IsHexDigest (digest : String → String) : Prop :=
  ∀ addonName, (digest addonName).length = 8 ∧ (digest addonName).toList.all isHexDigit = true

def inventoryBody (digest : String → String) (addonName : String) : List Char :=
  if carriesDigest addonName then cut addonName ++ '-' :: (digest addonName).toList
  else stem addonName

def inventoryName (body : List Char) : List Char :=
  if body = [] then "kubeone-addon".toList else "kubeone-addon-".toList ++ body

variable {c : Char}

theorem isLowerAlnum_of_isHexDigit (h : isHexDigit c = true) : isLowerAlnum c = true := by
  simp only [isHexDigit, isLowerAlnum, Bool.or_eq_true, Bool.and_eq_true, decide_eq_true_eq] at h ⊢
  rcases h with h | h
  · exact .inr h
  · exact .inl ⟨h.1, h.2.trans (by decide)⟩

theorem validInventoryNameChar_iff (c : Char) :
    validInventoryNameChar c = true ↔ isLowerAlnum c = true ∨ c = '-' ∨ c = '.' := by
  simp only [validInventoryNameChar, isLowerAlnum, Bool.or_eq_true, decide_eq_true_eq]
  tauto

theorem not_trimmed_iff (h : validInventoryNameChar c = true) :
    isLowerAlnum c = true ↔ ¬c ∈ ['.', '-'] := by
  have hdot : isLowerAlnum '.' = false := by decide
  have hdash : isLowerAlnum '-' = false := by decide
  rw [validInventoryNameChar_iff] at h
  rcases h with h | rfl | rfl
  · simp only [h, true_iff, mem_cons, not_mem_nil, or_false, not_or]
    constructor <;> (rintro rfl; simp_all)
  · simp [hdash]
  · simp [hdot]

theorem validInventoryNameChar_of_mem_replaceInvalid {inRun : Bool} {cs : List Char}
    (h : c ∈ replaceInvalid inRun cs) : validInventoryNameChar c = true := by
  induction cs generalizing inRun with
  | nil => simp [replaceInvalid] at h
  | cons d cs ih =>
    rw [replaceInvalid] at h
    split at h
    next hd =>
      rcases mem_cons.mp h with rfl | h
      · exact hd
      · exact ih h
    next =>
      split at h
      · exact ih h
      · rcases mem_cons.mp h with rfl | h
        · decide
        · exact ih h

theorem carriesDigest_iff (addonName : String) : carriesDigest addonName = true ↔
    sanitized addonName ≠ addonName.toList ∨
      dns1123SubdomainMaxLength < "kubeone-addon-".length + (sanitized addonName).length := by
  rw [carriesDigest, Bool.or_eq_true, decide_eq_true_eq, decide_eq_true_eq]

theorem toList_eq_sanitized {addonName : String} (h : ¬carriesDigest addonName = true) :
    addonName.toList = sanitized addonName := by
  rw [carriesDigest_iff, not_or, not_not] at h
  exact h.1.symm

variable {digest : String → String} {addonName : String}

section

variable (h : IsHexDigest digest)

include h

theorem IsHexDigest.isLowerAlnum {c : Char}
    (hc : c ∈ (digest addonName).toList) : isLowerAlnum c = true :=
  isLowerAlnum_of_isHexDigit (all_eq_true.mp (h addonName).2 c hc)

theorem IsHexDigest.ne_nil (addonName : String) : (digest addonName).toList ≠ [] := by
  intro hnil
  have hlength := (h addonName).1
  rw [← String.length_toList, hnil] at hlength
  exact absurd hlength (by decide)

theorem validInventoryNameChar_of_mem_body
    (hc : c ∈ inventoryBody digest addonName) : validInventoryNameChar c = true := by
  rw [inventoryBody] at hc
  split at hc
  next =>
    rcases mem_append.mp hc with hc | hc
    · exact validInventoryNameChar_of_mem_replaceInvalid (mem_of_mem_take hc)
    · rcases mem_cons.mp hc with rfl | hc
      · decide
      · exact (validInventoryNameChar_iff c).mpr (.inl (h.isLowerAlnum hc))
  next hplain =>
    have hmem := (List.rdropWhile_prefix _ _).mem hc
    rw [toList_eq_sanitized hplain] at hmem
    exact validInventoryNameChar_of_mem_replaceInvalid hmem

theorem isLowerAlnum_last_body
    (hc : (inventoryBody digest addonName).getLast? = some c) : isLowerAlnum c = true := by
  have hvalid := validInventoryNameChar_of_mem_body h (mem_of_getLast? hc)
  rw [inventoryBody] at hc
  split at hc
  next =>
    have hne := h.ne_nil addonName
    rw [getLast?_append_of_ne_nil _ (by simp), getLast?_cons_of_ne_nil hne] at hc
    exact h.isLowerAlnum (mem_of_getLast? hc)
  next =>
    have hne : stem addonName ≠ [] := fun hnil => by simp [hnil] at hc
    have hlast := rdropWhile_last_not _ _ hne
    rw [getLast?_eq_some_getLast hne] at hc
    rw [not_trimmed_iff hvalid, ← Option.some.inj hc]
    simpa [stem] using hlast

end

theorem rdropWhile_append_eq {α : Type} (p : α → Bool) (a b : List α) :
    (a ++ b).rdropWhile p =
      if b.rdropWhile p = [] then a.rdropWhile p else a ++ b.rdropWhile p := by
  simp only [List.rdropWhile, List.reverse_append, List.dropWhile_append, List.isEmpty_iff,
    List.reverse_eq_nil_iff]
  split <;> simp

theorem trimEnds_append (body : List Char) :
    trimEnds ("kubeone-addon-".toList ++ body) =
      inventoryName (body.rdropWhile (· ∈ ['.', '-'])) := by
  have hhead : "kubeone-addon-".toList = 'k' :: "ubeone-addon-".toList := by decide
  have hdrop : ("kubeone-addon-".toList ++ body).dropWhile (· ∈ ['.', '-']) =
      "kubeone-addon-".toList ++ body := by
    rfl
  have htrim : "kubeone-addon-".toList.rdropWhile (· ∈ ['.', '-']) = "kubeone-addon".toList := by
    decide
  rw [trimEnds, hdrop, rdropWhile_append_eq, htrim]
  rfl

theorem inventoryName_injective : Function.Injective inventoryName := by
  have hlength : "kubeone-addon".toList.length < "kubeone-addon-".toList.length := by decide
  intro a b h
  have hcongr := congrArg length h
  by_cases ha : a = [] <;> by_cases hb : b = []
  · rw [ha, hb]
  · rw [inventoryName, inventoryName, if_pos ha, if_neg hb, length_append] at hcongr
    omega
  · rw [inventoryName, inventoryName, if_neg ha, if_pos hb, length_append] at hcongr
    omega
  · rw [inventoryName, inventoryName, if_neg ha, if_neg hb] at h
    exact append_cancel_left h

theorem addonInventoryKey_root : addonInventoryKey digest "" =
    ⟨"kube-system", "kubeone-addons-root"⟩ :=
  if_pos rfl

theorem untrimmed_eq {start s name d : List Char}
    (hstart : start.length ≤ dns1123SubdomainMaxLength - 9) :
    (if start ++ s ≠ start ++ name ∨ dns1123SubdomainMaxLength < (start ++ s).length then
        (start ++ s).take (min (start ++ s).length (dns1123SubdomainMaxLength - 9)) ++ '-' :: d
      else start ++ s) =
      start ++ (if s ≠ name ∨ dns1123SubdomainMaxLength < start.length + s.length then
        s.take (dns1123SubdomainMaxLength - 9 - start.length) ++ '-' :: d else s) := by
  have htake : (start ++ s).take (min (start ++ s).length (dns1123SubdomainMaxLength - 9)) =
      start ++ s.take (dns1123SubdomainMaxLength - 9 - start.length) := by
    rw [min_comm, ← take_eq_take_min, take_append, take_of_length_le hstart]
  rw [htake]
  simp only [length_append, ne_eq, append_cancel_left_eq]
  split
  · rw [append_assoc]
  · rfl

theorem rdropWhile_body (h : IsHexDigest digest) :
    (if carriesDigest addonName then cut addonName ++ '-' :: (digest addonName).toList
      else addonName.toList).rdropWhile (· ∈ ['.', '-']) = inventoryBody digest addonName := by
  unfold inventoryBody
  split
  next hcarries =>
    rw [rdropWhile_eq_self_iff]
    intro hne
    have hlast : (inventoryBody digest addonName).getLast? =
        some ((cut addonName ++ '-' :: (digest addonName).toList).getLast hne) := by
      rw [inventoryBody, if_pos hcarries, getLast?_eq_some_getLast hne]
    have hvalid := validInventoryNameChar_of_mem_body h (mem_of_getLast? hlast)
    simpa using (not_trimmed_iff hvalid).mp (isLowerAlnum_last_body h hlast)
  next => rfl

theorem addonInventoryKey_eq (h : IsHexDigest digest) (hname : addonName ≠ "") :
    addonInventoryKey digest addonName =
      ⟨"kube-system", String.ofList (inventoryName (inventoryBody digest addonName))⟩ := by
  unfold addonInventoryKey
  rw [if_neg hname]
  dsimp only
  rw [untrimmed_eq (by decide), trimEnds_append, ← rdropWhile_body h]
  have hlength : "kubeone-addon-".toList.length = "kubeone-addon-".length := String.length_toList
  have hsanitized : replaceInvalid false (addonName.toList.map lower) = sanitized addonName := rfl
  rw [hlength, hsanitized]
  by_cases hcarries : carriesDigest addonName
  · rw [if_pos hcarries, if_pos ((carriesDigest_iff _).mp hcarries)]
    rfl
  · rw [if_neg hcarries, if_neg ((carriesDigest_iff _).not.mp hcarries),
      toList_eq_sanitized hcarries]

variable {a b : String}

theorem addonInventoryKey_inj (h : IsHexDigest digest) (ha : a ≠ "") (hb : b ≠ "") :
    (addonInventoryKey digest a).name = (addonInventoryKey digest b).name ↔
      inventoryBody digest a = inventoryBody digest b := by
  rw [addonInventoryKey_eq h ha, addonInventoryKey_eq h hb, String.ofList_inj,
    inventoryName_injective.eq_iff]

theorem addonInventoryKey_ne_root (h : IsHexDigest digest) (ha : a ≠ "") :
    (addonInventoryKey digest a).name ≠ (addonInventoryKey digest "").name := by
  rw [addonInventoryKey_eq h ha, addonInventoryKey_root]
  intro heq
  have hname := congrArg (fun name => name.toList.take 14) heq
  rw [String.toList_ofList, inventoryName] at hname
  split at hname
  · exact absurd hname (by decide)
  · rw [take_left' (by decide)] at hname
    exact absurd hname (by decide)

/-- Where one of two names does not carry its digest, it is not the other one without the dots and
dashes at its end, nor what the other one with its digest becomes. -/
structure KeptApart (digest : String → String) (a b : String) : Prop where
  stems : a ≠ "" → b ≠ "" → ¬carriesDigest a → ¬carriesDigest b → stem a ≠ stem b
  left : carriesDigest a → ¬carriesDigest b → stem b ≠ cut a ++ '-' :: (digest a).toList
  right : carriesDigest b → ¬carriesDigest a → stem a ≠ cut b ++ '-' :: (digest b).toList

theorem keptApart_root (a : String) : KeptApart digest a "" := by
  have hroot : ¬carriesDigest "" := by decide
  have hstem : stem "" = [] := by decide
  constructor
  · intro _ hne
    exact absurd rfl hne
  · intro _ _
    simp [hstem]
  · intro hcarries
    exact absurd hcarries hroot

theorem KeptApart.symm {a b : String} (h : KeptApart digest a b) : KeptApart digest b a :=
  ⟨fun hb ha hplain hplain' => (h.stems ha hb hplain' hplain).symm, h.right, h.left⟩

theorem inventoryBody_ne_iff (h : IsHexDigest digest) (ha : a ≠ "") (hb : b ≠ "")
    (hne : digest a ≠ digest b) :
    inventoryBody digest a ≠ inventoryBody digest b ↔ KeptApart digest a b := by
  unfold inventoryBody
  by_cases hda : carriesDigest a <;> by_cases hdb : carriesDigest b
  · simp only [if_pos hda, if_pos hdb]
    refine iff_of_true (fun heq => hne ?_) ⟨?_, ?_, ?_⟩
    · have hlength : ('-' :: (digest a).toList).length = ('-' :: (digest b).toList).length := by
        rw [length_cons, length_cons, String.length_toList, String.length_toList, (h a).1, (h b).1]
      exact String.toList_inj.mp (cons.inj (append_inj' heq hlength).2).2
    · exact fun _ _ hplain => absurd hda hplain
    · exact fun _ hplain => absurd hdb hplain
    · exact fun _ hplain => absurd hda hplain
  · simp only [if_pos hda, if_neg hdb]
    refine ⟨fun hbody => ⟨?_, ?_, ?_⟩, fun hapart => (hapart.left hda hdb).symm⟩
    · exact fun _ _ hplain => absurd hda hplain
    · exact fun _ _ => hbody.symm
    · exact fun hcarries => absurd hcarries hdb
  · simp only [if_neg hda, if_pos hdb]
    refine ⟨fun hbody => ⟨?_, ?_, ?_⟩, fun hapart => hapart.right hdb hda⟩
    · exact fun _ _ _ hplain => absurd hdb hplain
    · exact fun hcarries => absurd hcarries hda
    · exact fun _ _ => hbody
  · simp only [if_neg hda, if_neg hdb]
    refine ⟨fun hbody => ⟨?_, ?_, ?_⟩, fun hapart => hapart.stems ha hb hda hdb⟩
    · exact fun _ _ _ _ => hbody
    · exact fun hcarries => absurd hcarries hda
    · exact fun hcarries => absurd hcarries hdb

theorem addonInventoryKey_ne_iff (h : IsHexDigest digest) (hab : a ≠ b)
    (hne : digest a ≠ digest b) :
    (addonInventoryKey digest a).name ≠ (addonInventoryKey digest b).name ↔
      KeptApart digest a b := by
  by_cases ha : a = ""
  · subst ha
    exact iff_of_true (addonInventoryKey_ne_root h hab.symm).symm (keptApart_root b).symm
  · by_cases hb : b = ""
    · subst hb
      exact iff_of_true (addonInventoryKey_ne_root h ha) (keptApart_root a)
    · rw [ne_eq, addonInventoryKey_inj h ha hb]
      exact inventoryBody_ne_iff h ha hb hne

theorem length_inventoryName (h : IsHexDigest digest) (addonName : String) :
    (inventoryName (inventoryBody digest addonName)).length ≤ 253 := by
  have hlength : "kubeone-addon-".toList.length = "kubeone-addon-".length := String.length_toList
  have hstart : "kubeone-addon-".length = 14 := by decide
  have hmax : dns1123SubdomainMaxLength = 253 := rfl
  rw [inventoryName]
  split
  · decide
  · rw [length_append, hlength, inventoryBody]
    split
    next =>
      have hcut : (cut addonName).length ≤
          dns1123SubdomainMaxLength - 9 - "kubeone-addon-".length :=
        length_take_le _ _
      rw [length_append, length_cons, String.length_toList, (h addonName).1]
      omega
    next hplain =>
      have hle := (List.rdropWhile_prefix (· ∈ ['.', '-']) addonName.toList).length_le
      rw [carriesDigest_iff, not_or, not_not] at hplain
      rw [hplain.1] at hplain
      have := hplain.2
      rw [stem]
      omega

theorem isDNS1123Subdomain_inventoryName {body : List Char}
    (hvalid : ∀ c ∈ body, validInventoryNameChar c = true)
    (hlast : ∀ c, body.getLast? = some c → isLowerAlnum c = true)
    (hlength : (inventoryName body).length ≤ 253) :
    isDNS1123Subdomain (String.ofList (inventoryName body)) = true ↔
      ('-' :: body).IsChain DotsBetween := by
  rw [isDNS1123Subdomain, String.length_ofList, decide_eq_true hlength, Bool.true_and,
    String.toList_ofList]
  by_cases hbody : body = []
  · subst hbody
    refine iff_of_true (by decide) (by simp)
  · have hsplit : "kubeone-addon-".toList ++ body = "kubeone-addon".toList ++ '-' :: body := by
      rw [show "kubeone-addon-".toList = "kubeone-addon".toList ++ ['-'] by decide, append_assoc]
      rfl
    have hstart : "kubeone-addon".toList.all validInventoryNameChar = true := by decide
    have hall : ∀ c ∈ "kubeone-addon".toList ++ '-' :: body,
        isLowerAlnum c = true ∨ c = '-' ∨ c = '.' := by
      intro c hc
      rw [← validInventoryNameChar_iff]
      rcases mem_append.mp hc with hc | hc
      · exact all_eq_true.mp hstart c hc
      · rcases mem_cons.mp hc with rfl | hc
        · decide
        · exact hvalid c hc
    have hhead : ("kubeone-addon".toList ++ '-' :: body).head? = some 'k' := by
      rw [head?_append_of_ne_nil _ (by decide)]
      decide
    have hend : ("kubeone-addon".toList ++ '-' :: body).getLast?.any isLowerAlnum = true := by
      rw [getLast?_append_of_ne_nil _ (by simp), getLast?_cons_of_ne_nil hbody,
        getLast?_eq_some_getLast hbody]
      exact hlast _ (getLast?_eq_some_getLast hbody)
    have hn : "kubeone-addon".toList.getLast? = some 'n' := by decide
    rw [inventoryName, if_neg hbody, hsplit, Text.all_label_split_iff, hhead, isChain_append, hn]
    have hchain : ("kubeone-addon".toList).IsChain DotsBetween :=
      Text.isChain_dotsBetween_of_notMem (by decide)
    have hdash : DotsBetween 'n' '-' := by
      constructor <;> decide
    constructor
    · intro hdots
      exact hdots.2.2.1
    · intro hdots
      refine ⟨⟨⟨by decide, hend⟩, hall⟩, hchain, hdots, ?_⟩
      simpa using hdash

/-- Dots of a name stand between letters and digits, where its ends are the dashes that are put in
front of it and, with a digest, behind it. -/
def DotsKept (addonName : String) : Prop :=
  if carriesDigest addonName then ('-' :: cut addonName ++ ['-']).IsChain DotsBetween
  else ('-' :: stem addonName).IsChain DotsBetween

theorem isDNS1123Subdomain_addonInventoryKey (h : IsHexDigest digest) (addonName : String) :
    isDNS1123Subdomain (addonInventoryKey digest addonName).name = true ↔ DotsKept addonName := by
  by_cases hname : addonName = ""
  · subst hname
    rw [addonInventoryKey_root]
    have hstem : stem "" = [] := by decide
    have hroot : ¬carriesDigest "" := by decide
    rw [DotsKept, if_neg hroot, hstem]
    exact iff_of_true (by decide) (List.IsChain.singleton _)
  · rw [addonInventoryKey_eq h hname, isDNS1123Subdomain_inventoryName
      (fun _ => validInventoryNameChar_of_mem_body h) (fun _ => isLowerAlnum_last_body h)
      (length_inventoryName h addonName), DotsKept, inventoryBody]
    split
    next =>
      have hdigest : (digest addonName).toList.IsChain DotsBetween :=
        Text.isChain_dotsBetween_of_notMem fun hdot =>
          Text.not_isLowerAlnum_dot (h.isLowerAlnum hdot)
      have hsplit : '-' :: (cut addonName ++ '-' :: (digest addonName).toList) =
          ('-' :: cut addonName ++ ['-']) ++ (digest addonName).toList := by
        simp
      rw [hsplit, isChain_append]
      refine ⟨fun hdots => hdots.1, fun hdots => ⟨hdots, hdigest, ?_⟩⟩
      intro x hx y hy
      have hy : isLowerAlnum y = true := h.isLowerAlnum (mem_of_mem_head? hy)
      rw [getLast?_concat, Option.mem_some_iff] at hx
      exact ⟨fun _ => hy, fun hdot => absurd (hdot ▸ hy) Text.not_isLowerAlnum_dot⟩
    next => rfl

/-- Two addons with different digests have inventories of different names exactly if what does not
carry a digest keeps them apart, and an inventory has the name of an object exactly if the dots of
its addon are between letters and digits. -/
theorem addon_inventories_apart_iff (h : IsHexDigest digest) :
    (∀ a b : String, a ≠ b → digest a ≠ digest b →
      ((addonInventoryKey digest a).name ≠ (addonInventoryKey digest b).name ↔
        KeptApart digest a b)) ∧
      ∀ addonName : String,
        isDNS1123Subdomain (addonInventoryKey digest addonName).name = true ↔ DotsKept addonName :=
  ⟨fun _ _ hab hne => addonInventoryKey_ne_iff h hab hne, isDNS1123Subdomain_addonInventoryKey h⟩

namespace Monitoring

def sum (addonName : String) : String :=
  if addonName = "monitoring" then "14a2326b"
  else if addonName = "monitoring-" then "b39063ed"
  else "1dc83f60"

/-- A dash at the end is trimmed without a trace, and two dots are kept side by side. -/
theorem trailing_dash_shares_inventory :
    sum "monitoring" ≠ sum "monitoring-" ∧
      (addonInventoryKey sum "monitoring").name = (addonInventoryKey sum "monitoring-").name ∧
      isDNS1123Subdomain (addonInventoryKey sum "cert..manager").name = false := by
  decide +kernel

theorem isHexDigest_sum : IsHexDigest sum := by
  intro addonName
  unfold sum
  split
  · decide
  · split <;> decide

/-- A capital letter is told from a small one by the digest. -/
theorem capital_keeps_inventory :
    (addonInventoryKey sum "monitoring").name ≠ (addonInventoryKey sum "Monitoring").name ∧
      isDNS1123Subdomain (addonInventoryKey sum "Monitoring").name = true := by
  have hplain : ¬carriesDigest "monitoring" := by decide
  have hcarries : carriesDigest "Monitoring" := by decide
  have hstem : stem "monitoring" ≠
      cut "Monitoring" ++ '-' :: (sum "Monitoring").toList := by decide +kernel
  refine ⟨((addon_inventories_apart_iff isHexDigest_sum).1 _ _ (by decide) (by decide)).mpr
    ⟨fun _ _ _ h => absurd hcarries h, fun h => absurd h hplain, fun _ _ => hstem⟩,
    ((addon_inventories_apart_iff isHexDigest_sum).2 _).mpr ?_⟩
  rw [DotsKept, if_pos hcarries]
  exact Text.isChain_dotsBetween_of_notMem (by decide)

end Monitoring

end KubeOne.Addons
