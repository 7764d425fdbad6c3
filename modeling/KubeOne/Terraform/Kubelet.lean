import KubeOne.Tasks.KubeletFlags

/-! The resources of a kubelet. They are printed as sorted pairs for the flags, and they are read
from such texts in the output of Terraform. -/

namespace KubeOne.Terraform.Kubelet

open Collections List Text Tasks.KubeletFlags

variable {σ : Type} {sep : Char}

structure KubeletSpec (σ : Type) where
  kubeReserved : String
  systemReserved : String
  evictionHard : String
  settings : σ

structure KubeletConfig (σ : Type) where
  kubeReserved : Option (List (String × String)) := none
  systemReserved : Option (List (String × String)) := none
  evictionHard : Option (List (String × String)) := none
  settings : σ

def readPair (sep : Char) (pair : List Char) : Option (String × String) :=
  (cut sep pair).map fun kv => (String.ofList kv.1, String.ofList kv.2)

/-- A pair without the separator is passed over, and nothing is read from an empty text. -/
def parsePairs (sep : Char) (text : String) (m : Option (List (String × String))) :
    Option (List (String × String)) :=
  if text = "" then m
  else some (((text.toList.splitOn ',').filterMap (readPair sep)).foldl
    (fun m kv => put m kv.1 kv.2) [])

/-- The settings are copied as they are. -/
def parseKubeletResourceParams (ks : KubeletSpec σ) (kc : KubeletConfig σ) : KubeletConfig σ where
  kubeReserved := parsePairs '=' ks.kubeReserved kc.kubeReserved
  systemReserved := parsePairs '=' ks.systemReserved kc.systemReserved
  evictionHard := parsePairs '<' ks.evictionHard kc.evictionHard
  settings := ks.settings

/-- A map of resources. -/
structure Resources (sep : Char) where
  entries : List (String × String)
  nodup : (entries.map Prod.fst).Nodup
  keys : ∀ e ∈ entries, ',' ∉ e.1.toList ∧ sep ∉ e.1.toList
  values : ∀ e ∈ entries, ',' ∉ e.2.toList

def Resources.print (m : Resources sep) : String :=
  mapStringStringToString m.entries (String.singleton sep)

theorem readPair_print {e : String × String} (h : sep ∉ e.1.toList) :
    readPair sep (e.1 ++ String.singleton sep ++ e.2).toList = some e := by
  have hcut : cut sep (pair sep (e.1.toList, e.2.toList)) = some (e.1.toList, e.2.toList) :=
    cut_pair h
  simpa [readPair, pair] using ⟨_, _, hcut, by simp⟩

theorem parsePairs_print (hsep : ',' ≠ sep) (m : Resources sep) :
    ((parsePairs sep m.print none).getD []).Perm m.entries := by
  rcases eq_or_ne m.entries [] with hempty | hne
  · simp [Resources.print, mapStringStringToString, parsePairs, hempty]
  set pieces := (m.entries.map fun e => e.1 ++ String.singleton sep ++ e.2).insertionSort (· ≤ ·)
    with hpieces
  have hperm : pieces.Perm (m.entries.map fun e => e.1 ++ String.singleton sep ++ e.2) :=
    perm_insertionSort _ _
  have hpiece : ∀ piece ∈ pieces.map String.toList, ∃ e ∈ m.entries,
      piece = e.1.toList ++ sep :: e.2.toList := by
    intro piece hp
    obtain ⟨text, htext, rfl⟩ := mem_map.1 hp
    obtain ⟨e, he, rfl⟩ := mem_map.1 (hperm.mem_iff.1 htext)
    exact ⟨e, he, by simp⟩
  have hsplit : m.print.toList.splitOn ',' = pieces.map String.toList := by
    rw [Resources.print, mapStringStringToString, ← hpieces, String.toList_intercalate]
    refine splitOn_intercalate ',' (fun piece hp => ?_) fun hnil => hne ?_
    · obtain ⟨e, he, rfl⟩ := hpiece piece hp
      simpa [hsep, m.values e he] using (m.keys e he).1
    · rw [map_eq_nil_iff.1 hnil] at hperm
      exact map_eq_nil_iff.1 hperm.nil_eq.symm
  have hprint : m.print ≠ "" := by
    intro hnil
    obtain ⟨e, -, he⟩ := hpiece [] (by simp [← hsplit, hnil])
    simp at he
  rw [parsePairs, if_neg hprint, hsplit]
  exact foldl_put_read ((hperm.map String.toList).trans (.of_eq (map_map ..)))
    (fun e he => readPair_print (m.keys e he).2) m.nodup

/-- What is printed is read again, with no map for an empty one. -/
theorem kubelet_resources_round_trip (kubeReserved systemReserved : Resources '=')
    (evictionHard : Resources '<') (settings : σ) :
    let kc := parseKubeletResourceParams
      ⟨kubeReserved.print, systemReserved.print, evictionHard.print, settings⟩ { settings }
    (kc.kubeReserved.getD []).Perm kubeReserved.entries ∧
      (kc.systemReserved.getD []).Perm systemReserved.entries ∧
      (kc.evictionHard.getD []).Perm evictionHard.entries :=
  ⟨parsePairs_print (by decide) _, parsePairs_print (by decide) _, parsePairs_print (by decide) _⟩

def reserved : Resources '=' :=
  ⟨[("cpu", "200m"), ("memory", "200Mi")], by decide, by decide, by decide⟩

def eviction : Resources '<' := ⟨[("memory.available", "5%")], by decide, by decide, by decide⟩

theorem reserved_resources_read_again :
    let kc := parseKubeletResourceParams ⟨reserved.print, "", eviction.print, ()⟩
      { settings := () }
    reserved.print = "cpu=200m,memory=200Mi" ∧
      (kc.kubeReserved.getD []).Perm reserved.entries ∧
      (kc.evictionHard.getD []).Perm eviction.entries := by
  obtain ⟨hreserved, -, heviction⟩ :=
    kubelet_resources_round_trip reserved ⟨[], by simp, by simp, by simp⟩ eviction ()
  exact ⟨by decide +kernel, hreserved, heviction⟩

end KubeOne.Terraform.Kubelet
