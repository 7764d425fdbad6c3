import KubeOne.Collections.Assoc
import KubeOne.Text.Pairs
import Mathlib.Data.List.Sort
import Mathlib.Data.Char
import Mathlib.Data.List.Lex

/-! The flags that kubeadm passes to a kubelet, in the file where they are kept. An update reads the
flags, changes some of them and writes all of them back in order. No flags at all are written as
an empty text, which is not read again. -/

namespace KubeOne.Tasks.KubeletFlags

open Collections Text List

structure RuntimeError where
  op : String
  err : String

abbrev Flags := List (String × String)

def render (f : String × String) : List Char := pair '=' (f.1.toList, f.2.toList)

def kubeletKubeadmArgsEnv : List Char := "KUBELET_KUBEADM_ARGS".toList

def readFlag (flg : List Char) : Option (String × String) :=
  (cut '=' flg).map fun fl => (String.ofList fl.1, String.ofList fl.2)

def unmarshalKubeletFlags (buf : List Char) : Except RuntimeError Flags :=
  match cut '=' buf with
  | none => .error ⟨"splitting kubelet kubeadm args", "can't parse: wrong split length"⟩
  | some s1 =>
    let envValue := trim (· = '"') (trim (· = '\n') s1.2)
    match (envValue.splitOn ' ').mapM readFlag with
    | none => .error ⟨"splitting kubelet args", "wrong split length"⟩
    | some flagsvalues => .ok (flagsvalues.foldl (fun m fl => put m fl.1 fl.2) [])

/-- The flags come in the order of the map. -/
def marshalKubeletFlags (kubeletflags : Flags) : List Char :=
  let kvpairs := (kubeletflags.map render).insertionSort (· ≤ ·)
  kubeletKubeadmArgsEnv ++ '=' :: '"' :: [' '].intercalate kvpairs ++ ['"']

structure KubeletConfig where
  systemReserved : Option (List (String × String)) := none
  kubeReserved : Option (List (String × String)) := none
  evictionHard : Option (List (String × String)) := none
  maxPods : Option ℤ := none

def mapStringStringToString (m1 : List (String × String)) (pairSeparator : String) : String :=
  ",".intercalate ((m1.map fun p => p.1 ++ pairSeparator ++ p.2).insertionSort (· ≤ ·))

def deprecatedFlags : List String := ["--network-plugin", "--container-runtime"]

def removeDeprecatedKubeletFlags (flags : Flags) : Flags :=
  flags.filter fun f => f.1 ∉ deprecatedFlags

def nodeValues (kubelet : KubeletConfig) : List (String × Option String) :=
  [("--system-reserved", kubelet.systemReserved.map (mapStringStringToString · "=")),
   ("--kube-reserved", kubelet.kubeReserved.map (mapStringStringToString · "=")),
   ("--eviction-hard", kubelet.evictionHard.map (mapStringStringToString · "<")),
   ("--max-pods", kubelet.maxPods.map toString)]

def updateKubeletNodeValues (kubelet : KubeletConfig) (flags : Flags) : Flags :=
  (nodeValues kubelet).foldl (fun flags f => f.2.elim flags (put flags f.1)) flags

def modify (kubelet : KubeletConfig) (flags : Flags) : Flags :=
  updateKubeletNodeValues kubelet (removeDeprecatedKubeletFlags flags)

def updateKubeadmFlagsEnv (kubelet : KubeletConfig) (content : List Char) :
    Except RuntimeError (List Char) := do
  let kubeletFlags ← unmarshalKubeletFlags content
  return marshalKubeletFlags (modify kubelet kubeletFlags)

def updates (kubelet : KubeletConfig) : ℕ → List Char → Except RuntimeError (List Char)
  | 0, content => .ok content
  | n + 1, content => updateKubeadmFlagsEnv kubelet content >>= updates kubelet n

def Plain (f : String × String) : Prop := ' ' ∉ render f ∧ '"' ∉ render f ∧ '\n' ∉ render f

instance : DecidablePred Plain := fun _ => inferInstanceAs (Decidable (_ ∧ _ ∧ _))

/-- A map without spaces, quotes and newlines, and without equals signs in its keys. -/
structure WellFormed (m : Flags) : Prop where
  nodup : (m.map Prod.fst).Nodup
  key : ∀ f ∈ m, '=' ∉ f.1.toList
  plain : ∀ f ∈ m, Plain f

theorem mem_intercalate {c sep : Char} {pieces : List (List Char)}
    (h : c ∈ [sep].intercalate pieces) : c = sep ∨ ∃ piece ∈ pieces, c ∈ piece := by
  induction pieces with
  | nil => simp at h
  | cons piece rest ih =>
    cases rest with
    | nil => exact .inr ⟨piece, by simp, by simpa using h⟩
    | cons piece' rest =>
      rw [intercalate_cons_cons, mem_append, mem_append, mem_singleton] at h
      rcases h with (h | h) | h
      · exact .inr ⟨piece, mem_cons_self, h⟩
      · exact .inl h
      · exact (ih h).imp_right fun ⟨p, hp, hc⟩ => ⟨p, mem_cons_of_mem _ hp, hc⟩

theorem mapM_of_forall {α β : Type} {f : α → Option β} {l : List α}
    (h : ∀ a ∈ l, (f a).isSome = true) : l.mapM f = some (l.filterMap f) := by
  induction l with
  | nil => rfl
  | cons a l ih =>
    rw [forall_mem_cons] at h
    obtain ⟨b, hb⟩ := Option.isSome_iff_exists.1 h.1
    simp [hb, ih h.2]

variable {m m' : Flags} {kubelet : KubeletConfig}

theorem unmarshal_marshal (h : WellFormed m) (hne : m ≠ []) :
    ∃ m', unmarshalKubeletFlags (marshalKubeletFlags m) = .ok m' ∧ m'.Perm m := by
  set kvpairs := (m.map render).insertionSort (· ≤ ·) with hkv
  have hperm : kvpairs.Perm (m.map render) := perm_insertionSort _ _
  have hpieces : ∀ piece ∈ kvpairs, ∃ f ∈ m, render f = piece := fun piece hp =>
    mem_map.1 (hperm.mem_iff.1 hp)
  have hcut : ∀ f ∈ m, readFlag (render f) = some f := by
    intro f hf
    rw [readFlag, render, cut_pair (h.key f hf)]
    simp
  -- neither the quotes nor the newlines are part of a pair
  have hchars : ∀ c ∈ [' '].intercalate kvpairs, c ≠ '"' ∧ c ≠ '\n' := by
    intro c hc
    rcases mem_intercalate hc with rfl | ⟨piece, hp, hc⟩
    · decide
    · obtain ⟨f, hf, rfl⟩ := hpieces piece hp
      obtain ⟨-, hquote, hnewline⟩ := h.plain f hf
      exact ⟨fun heq => hquote (heq ▸ hc), fun heq => hnewline (heq ▸ hc)⟩
  have hbuf : marshalKubeletFlags m = pair '=' (kubeletKubeadmArgsEnv,
      ['"'] ++ [' '].intercalate kvpairs ++ ['"']) := by
    simp [marshalKubeletFlags, pair, hkv]
  have henv : '=' ∉ kubeletKubeadmArgsEnv := by decide
  have hlines : trim (· = '\n') (['"'] ++ [' '].intercalate kvpairs ++ ['"']) =
      ['"'] ++ [' '].intercalate kvpairs ++ ['"'] := by
    refine trim_of_forall fun c hc => decide_eq_false ?_
    simp only [mem_append, mem_singleton] at hc
    rcases hc with (rfl | hc) | rfl
    · decide
    · exact (hchars c hc).2
    · decide
  have hquotes : trim (· = '"') (['"'] ++ [' '].intercalate kvpairs ++ ['"']) =
      [' '].intercalate kvpairs :=
    trim_between (by simp) (by simp) fun c hc => decide_eq_false (hchars c hc).1
  have hsplit : ([' '].intercalate kvpairs).splitOn ' ' = kvpairs := by
    refine splitOn_intercalate ' ' (fun piece hp => ?_) fun hnil => hne ?_
    · obtain ⟨f, hf, rfl⟩ := hpieces piece hp
      exact (h.plain f hf).1
    · rw [hnil] at hperm
      exact map_eq_nil_iff.1 hperm.nil_eq.symm
  have hmapM : kvpairs.mapM readFlag = some (kvpairs.filterMap readFlag) := by
    refine mapM_of_forall fun piece hp => ?_
    obtain ⟨f, hf, rfl⟩ := hpieces piece hp
    rw [hcut f hf]
    rfl
  refine ⟨_, ?_, foldl_put_read hperm hcut h.nodup⟩
  rw [unmarshalKubeletFlags, hbuf, cut_pair henv]
  dsimp only
  rw [hlines, hquotes, hsplit, hmapM]

theorem unmarshal_marshal_nil : unmarshalKubeletFlags (marshalKubeletFlags []) =
    .error ⟨"splitting kubelet args", "wrong split length"⟩ := rfl

def nodeFlags (kubelet : KubeletConfig) : Flags :=
  (nodeValues kubelet).filterMap fun f => f.2.map (f.1, ·)

def named (kubelet : KubeletConfig) : List String :=
  deprecatedFlags ++ (nodeFlags kubelet).map Prod.fst

theorem modify_eq (kubelet : KubeletConfig) (m : Flags) :
    modify kubelet m =
      (nodeFlags kubelet).foldl (fun m f => put m f.1 f.2) (removeDeprecatedKubeletFlags m) := by
  rw [modify, updateKubeletNodeValues, nodeFlags, foldl_filterMap]
  congr 1
  funext flags f
  cases f.2 <;> rfl

theorem lookup_modify (kubelet : KubeletConfig) (m : Flags) (k : String) :
    (modify kubelet m).lookup k =
      ((nodeFlags kubelet).reverse.lookup k).or
        (if k ∈ deprecatedFlags then none else m.lookup k) := by
  have hremoved : (removeDeprecatedKubeletFlags m).lookup k =
      if k ∈ deprecatedFlags then none else m.lookup k := by
    unfold removeDeprecatedKubeletFlags
    induction m with
    | nil => simp
    | cons f m ih =>
      by_cases hf : f.1 ∈ deprecatedFlags
      · rw [filter_cons_of_neg (by simpa using hf), ih, lookup_cons_pair]
        split
        · rfl
        · next hk =>
          have hne : k ≠ f.1 := fun heq => hk (heq ▸ hf)
          rw [if_neg hne]
      · rw [filter_cons_of_pos (by simpa using hf), lookup_cons_pair, lookup_cons_pair, ih]
        split
        · next heq => rw [if_neg (heq ▸ hf)]
        · rfl
  rw [modify_eq, lookup_foldl_put, hremoved]

theorem lookup_modify_modify (kubelet : KubeletConfig) (m : Flags) (k : String) :
    (modify kubelet (modify kubelet m)).lookup k = (modify kubelet m).lookup k := by
  rw [lookup_modify, lookup_modify]
  cases (nodeFlags kubelet).reverse.lookup k with
  | some v => rfl
  | none => by_cases hk : k ∈ deprecatedFlags <;> simp [hk]

theorem eq_nil_iff_lookup : m = [] ↔ ∀ k, m.lookup k = none := by
  cases m with
  | nil => simp
  | cons f m => exact iff_of_false (by simp) fun h => by simpa [lookup_cons_pair] using h f.1

theorem WellFormed.modify (h : WellFormed m) (hnode : ∀ f ∈ nodeFlags kubelet, Plain f) :
    WellFormed (modify kubelet m) := by
  have hnodup : ((KubeletFlags.modify kubelet m).map Prod.fst).Nodup := by
    rw [modify_eq]
    exact nodup_keys_foldl_put _ (h.nodup.sublist (filter_sublist.map Prod.fst))
  have hmem : ∀ f ∈ KubeletFlags.modify kubelet m, f ∈ nodeFlags kubelet ∨ f ∈ m := by
    intro f hf
    have hlookup := (lookup_eq_some_iff_mem hnodup).2 hf
    rw [lookup_modify, Option.or_eq_some_iff] at hlookup
    rcases hlookup with hnew | ⟨-, hold⟩
    · exact .inl (mem_reverse.1 (mem_of_lookup_eq_some hnew))
    · split at hold
      · cases hold
      · exact .inr (mem_of_lookup_eq_some hold)
  have hnames : ∀ k ∈ (nodeValues kubelet).map Prod.fst, '=' ∉ k.toList := by
    show ∀ k ∈ ["--system-reserved", "--kube-reserved", "--eviction-hard", "--max-pods"], _
    decide
  have hkeys : ∀ f ∈ nodeFlags kubelet, '=' ∉ f.1.toList := by
    intro f hf
    obtain ⟨g, hg, heq⟩ := mem_filterMap.1 hf
    obtain ⟨v, -, rfl⟩ := Option.map_eq_some_iff.1 heq
    exact hnames g.1 (mem_map_of_mem hg)
  exact ⟨hnodup, fun f hf => (hmem f hf).elim (hkeys f) (h.key f),
    fun f hf => (hmem f hf).elim (hnode f) (h.plain f)⟩

theorem update_marshal (kubelet : KubeletConfig) (h : WellFormed m) (hne : m ≠ []) :
    ∃ m', m'.Perm m ∧ updateKubeadmFlagsEnv kubelet (marshalKubeletFlags m) =
      .ok (marshalKubeletFlags (modify kubelet m')) := by
  obtain ⟨m', hread, hperm⟩ := unmarshal_marshal h hne
  refine ⟨m', hperm, ?_⟩
  rw [updateKubeadmFlagsEnv, hread]
  rfl

theorem lookup_modify_of_perm (h : m'.Perm m) (hnodup : (m.map Prod.fst).Nodup) (k : String) :
    (modify kubelet m').lookup k = (modify kubelet m).lookup k := by
  rw [lookup_modify, lookup_modify, lookup_of_perm h hnodup]

theorem updates_marshal (hnode : ∀ f ∈ nodeFlags kubelet, Plain f) (n : ℕ)
    (h : WellFormed m) (hne : m ≠ []) (hmod : modify kubelet m ≠ []) :
    ∃ m', updates kubelet n (marshalKubeletFlags m) = .ok (marshalKubeletFlags m') ∧
      ∀ k, k ∉ named kubelet → m'.lookup k = m.lookup k := by
  induction n generalizing m with
  | zero => exact ⟨m, rfl, fun _ _ => rfl⟩
  | succ n ih =>
    obtain ⟨read, hperm, hupdate⟩ := update_marshal kubelet h hne
    have hsame : ∀ k, (modify kubelet read).lookup k = (modify kubelet m).lookup k :=
      lookup_modify_of_perm hperm h.nodup
    have hread : WellFormed read :=
      ⟨(hperm.map Prod.fst).nodup_iff.2 h.nodup, fun f hf => h.key f (hperm.mem_iff.1 hf),
        fun f hf => h.plain f (hperm.mem_iff.1 hf)⟩
    have hne' : modify kubelet read ≠ [] := by
      rw [Ne, eq_nil_iff_lookup] at hmod ⊢
      simpa only [hsame] using hmod
    have hagain : modify kubelet (modify kubelet read) ≠ [] := by
      rw [Ne, eq_nil_iff_lookup] at hne' ⊢
      simpa only [lookup_modify_modify] using hne'
    obtain ⟨m', hrest, hkept⟩ := ih (hread.modify hnode) hne' hagain
    refine ⟨m', ?_, fun k hk => ?_⟩
    · rw [updates, hupdate]
      exact hrest
    · rw [named, mem_append, not_or] at hk
      have hnone : (nodeFlags kubelet).reverse.lookup k = none := by
        rw [lookup_eq_none_iff_keys, map_reverse, mem_reverse]
        exact hk.2
      rw [hkept k (by simpa [named] using hk), hsame, lookup_modify, hnone, Option.none_or,
        if_neg hk.1]

/-- Flags that were written are read again, and updates change only the flags that they name and
can be repeated, exactly if there is a flag before and after the update. -/
theorem flags_preserved_iff (kubelet : KubeletConfig) (m : Flags) (h : WellFormed m)
    (hnode : ∀ f ∈ nodeFlags kubelet, Plain f) :
    ((∃ m', unmarshalKubeletFlags (marshalKubeletFlags m) = .ok m' ∧ m'.Perm m) ∧
      ∀ n, ∃ m', updates kubelet n (marshalKubeletFlags m) = .ok (marshalKubeletFlags m') ∧
        ∀ k, k ∉ named kubelet → m'.lookup k = m.lookup k) ↔
      m ≠ [] ∧ modify kubelet m ≠ [] := by
  constructor
  · rintro ⟨⟨m', hread, -⟩, hupdates⟩
    have hne : m ≠ [] := by
      rintro rfl
      rw [unmarshal_marshal_nil] at hread
      cases hread
    refine ⟨hne, fun hmod => ?_⟩
    obtain ⟨read, hperm, hupdate⟩ := update_marshal kubelet h hne
    have hempty : modify kubelet read = [] := by
      rw [eq_nil_iff_lookup] at hmod ⊢
      simpa only [lookup_modify_of_perm hperm h.nodup] using hmod
    obtain ⟨m₂, htwice, -⟩ := hupdates 2
    rw [updates, hupdate, hempty] at htwice
    cases htwice
  · rintro ⟨hne, hmod⟩
    exact ⟨unmarshal_marshal h hne, fun n => updates_marshal hnode n h hne hmod⟩

/-- Two updates for a limit, with two flags of which one is deprecated. -/
theorem limit_kept : ∃ m', updates { maxPods := some 50 } 2 (marshalKubeletFlags
    [("--node-ip", "10.0.0.1"), ("--container-runtime", "remote")]) = .ok (marshalKubeletFlags m') ∧
    ∀ k, k ∉ named { maxPods := some 50 } → m'.lookup k =
      [("--node-ip", "10.0.0.1"), ("--container-runtime", "remote")].lookup k :=
  ((flags_preserved_iff { maxPods := some 50 } _
    ⟨by decide, by decide, by decide⟩ (by decide)).2 ⟨by decide, by decide⟩).2 2

/-- The last flag was deprecated; the update after the next one finds a file without flags. -/
theorem no_flag_left :
    unmarshalKubeletFlags (marshalKubeletFlags []) =
        .error ⟨"splitting kubelet args", "wrong split length"⟩ ∧
      updates {} 2 (marshalKubeletFlags [("--container-runtime", "remote")]) =
        .error ⟨"splitting kubelet args", "wrong split length"⟩ :=
  ⟨unmarshal_marshal_nil, rfl⟩

end KubeOne.Tasks.KubeletFlags
