import KubeOne.Text.Pairs
import Mathlib

/-! Kinds, references and the objects of a manifest, and the text form in which an inventory
records kinds. -/

namespace KubeOne.NativeClient

open Text List

structure GroupKind where
  group : String
  kind : String
  deriving DecidableEq

structure GroupVersionKind where
  group : String
  version : String
  kind : String
  deriving DecidableEq

def GroupVersionKind.groupKind (gvk : GroupVersionKind) : GroupKind := ⟨gvk.group, gvk.kind⟩

def crdGroupKind : GroupKind := ⟨"apiextensions.k8s.io", "CustomResourceDefinition"⟩

def namespaceGroupKind : GroupKind := ⟨"", "Namespace"⟩

/-- An object independently of the version it was read or written with. -/
structure ObjectRef where
  groupKind : GroupKind
  ns : String
  name : String
  deriving DecidableEq

structure ObjectKey where
  ns : String
  name : String
  deriving DecidableEq

abbrev Labels := List (String × String)

abbrev Data := List (String × String)

abbrev Selector := Labels → Bool

structure Unstructured where
  gvk : GroupVersionKind
  ns : String
  name : String
  labels : Labels
  data : Data
  deriving DecidableEq

def refOf (obj : Unstructured) : ObjectRef := ⟨obj.gvk.groupKind, obj.ns, obj.name⟩

@[simp] theorem refOf_groupKind (obj : Unstructured) : (refOf obj).groupKind = obj.gvk.groupKind :=
  rfl

def objectGVKs (objs : List Unstructured) : List GroupVersionKind := objs.map (·.gvk)

def groupKinds (objs : List Unstructured) : List GroupKind := objs.map (·.gvk.groupKind)

def splitPhases (objs : List Unstructured) :
    List Unstructured × List Unstructured × List Unstructured :=
  (objs.filter (·.gvk.groupKind = crdGroupKind),
    objs.filter (·.gvk.groupKind = namespaceGroupKind),
    objs.filter fun obj =>
      obj.gvk.groupKind ≠ crdGroupKind ∧ obj.gvk.groupKind ≠ namespaceGroupKind)

theorem mem_splitPhases {objs : List Unstructured} {obj : Unstructured} :
    obj ∈ (splitPhases objs).1 ∨ obj ∈ (splitPhases objs).2.1 ∨ obj ∈ (splitPhases objs).2.2 ↔
      obj ∈ objs := by
  simp only [splitPhases, mem_filter, decide_eq_true_eq]
  tauto

def isList (kind : String) : Bool := "List".toList.isSuffixOf kind.toList

def listGVK (gvk : GroupVersionKind) : GroupVersionKind :=
  if isList gvk.kind then gvk else { gvk with kind := gvk.kind ++ "List" }

/-- The client asks for the objects of a list kind without the word. -/
def itemGVK (gvk : GroupVersionKind) : GroupVersionKind :=
  { gvk with kind := String.ofList (gvk.kind.toList.take (gvk.kind.toList.length - 4)) }

theorem itemGVK_listGVK {gvk : GroupVersionKind} (h : isList gvk.kind = false) :
    itemGVK (listGVK gvk) = gvk := by
  have htake : (gvk.kind ++ "List").toList.take ((gvk.kind ++ "List").toList.length - 4) =
      gvk.kind.toList := by
    rw [String.toList_append, length_append]
    exact take_left
  simp only [listGVK, h, itemGVK, htake, String.ofList_toList, Bool.false_eq_true, if_false]

def GroupKind.text (gk : GroupKind) : List Char :=
  if gk.group = "" then gk.kind.toList else gk.kind.toList ++ '.' :: gk.group.toList

/-- The kind ends at the first dot. -/
def parseGroupKind (line : List Char) : GroupKind :=
  ⟨String.ofList (line.dropWhile (· ≠ '.')).tail, String.ofList (line.takeWhile (· ≠ '.'))⟩

def renderKinds (kinds : List GroupKind) : String :=
  String.ofList (['\n'].intercalate
    ((kinds.map GroupKind.text).dedup.insertionSort (· ≤ ·)))

def parseKinds (text : String) : List GroupKind :=
  ((text.toList.splitOn '\n').map trimSpace).filterMap fun line =>
    if line = [] then none else some (parseGroupKind line)

/-- A kind that an API server can serve. -/
def GroupKind.wellFormed (gk : GroupKind) : Bool :=
  gk.kind ≠ "" && gk.kind.toList.all (fun c => c ≠ '.' && !isSpace c) &&
    gk.group.toList.all (!isSpace ·)

namespace GroupKind

variable {gk : GroupKind}

theorem wellFormed_iff : gk.wellFormed = true ↔ gk.kind ≠ "" ∧
    (∀ c ∈ gk.kind.toList, c ≠ '.' ∧ isSpace c = false) ∧
    ∀ c ∈ gk.group.toList, isSpace c = false := by
  simp [wellFormed, and_assoc]

theorem text_space (h : gk.wellFormed = true) : ∀ c ∈ gk.text, isSpace c = false := by
  obtain ⟨-, hkind, hgroup⟩ := wellFormed_iff.mp h
  intro c hc
  unfold text at hc
  split_ifs at hc
  · exact (hkind c hc).2
  · rcases mem_append.mp hc with hc | hc
    · exact (hkind c hc).2
    · rcases mem_cons.mp hc with rfl | hc
      · decide
      · exact hgroup c hc

theorem text_ne_nil (h : gk.wellFormed = true) : gk.text ≠ [] := by
  obtain ⟨hne, -, -⟩ := wellFormed_iff.mp h
  have hkind : gk.kind.toList ≠ [] := by
    intro hnil
    exact hne (by rw [← String.ofList_toList (s := gk.kind), hnil])
  unfold text
  split_ifs
  · exact hkind
  · exact append_ne_nil_of_left_ne_nil hkind _

theorem parse_text (h : gk.wellFormed = true) : parseGroupKind gk.text = gk := by
  obtain ⟨-, hkind, -⟩ := wellFormed_iff.mp h
  have hdot : ∀ c ∈ gk.kind.toList, (c ≠ '.' : Bool) = true := fun c hc => by
    simpa using (hkind c hc).1
  unfold text parseGroupKind
  split_ifs with hgroup
  · rw [takeWhile_eq_self_iff.mpr hdot, dropWhile_eq_nil_iff.mpr hdot]
    cases gk
    simp_all
  · rw [takeWhile_append_of_pos hdot, dropWhile_append_of_pos hdot]
    simp

end GroupKind

theorem mem_splitOn_intercalate {sep : Char} {line : List Char} (hline : sep ∉ line)
    {lines : List (List Char)} (hmem : line ∈ lines) :
    line ∈ ([sep].intercalate lines).splitOn sep := by
  induction lines with
  | nil => cases hmem
  | cons first lines ih =>
    cases lines with
    | nil =>
      rw [mem_singleton.mp hmem] at hline ⊢
      simp [splitOn_eq_singleton, hline]
    | cons second lines =>
      rw [intercalate_cons_cons, append_assoc, singleton_append, splitOn_append_cons_self]
      rcases mem_cons.mp hmem with rfl | hmem
      · simp [splitOn_eq_singleton, hline]
      · exact mem_append_right _ (ih hmem)

theorem mem_parseKinds {kinds : List GroupKind} {gk : GroupKind} (hgk : gk.wellFormed = true)
    (hmem : gk ∈ kinds) : gk ∈ parseKinds (renderKinds kinds) := by
  have hspace := gk.text_space hgk
  have hbreak : '\n' ∉ gk.text := fun h => absurd (hspace '\n' h) (by decide)
  have hline : gk.text ∈ (kinds.map GroupKind.text).dedup.insertionSort (· ≤ ·) := by
    rw [mem_insertionSort, mem_dedup]
    exact mem_map_of_mem hmem
  refine mem_filterMap.mpr ⟨gk.text, mem_map.mpr ⟨gk.text, ?_, ?_⟩, ?_⟩
  · rw [renderKinds, String.toList_ofList]
    exact mem_splitOn_intercalate hbreak hline
  · exact trim_eq_self hspace
  · rw [if_neg (gk.text_ne_nil hgk), gk.parse_text hgk]

theorem mem_parseKinds_iff {kinds : List GroupKind} {gk : GroupKind}
    (h : ∀ gk ∈ kinds, gk.wellFormed = true) :
    gk ∈ parseKinds (renderKinds kinds) ↔ gk ∈ kinds := by
  refine ⟨fun hgk => ?_, fun hgk => mem_parseKinds (h gk hgk) hgk⟩
  obtain ⟨line, hline, hparse⟩ := mem_filterMap.mp hgk
  obtain ⟨raw, hraw, rfl⟩ := mem_map.mp hline
  rw [renderKinds, String.toList_ofList] at hraw
  set lines := (kinds.map GroupKind.text).dedup.insertionSort (· ≤ ·) with hlines
  have htext : ∀ line ∈ lines, ∃ k ∈ kinds, k.text = line := by simp [hlines]
  by_cases hnil : lines = []
  · rw [hnil] at hraw
    obtain rfl : raw = [] := by simpa using hraw
    simp [trimSpace, trim] at hparse
  · have hbreak : ∀ line ∈ lines, '\n' ∉ line := by
      intro line hline hmem
      obtain ⟨k, hk, rfl⟩ := htext line hline
      exact absurd (k.text_space (h k hk) '\n' hmem) (by decide)
    rw [splitOn_intercalate '\n' hbreak hnil] at hraw
    obtain ⟨k, hk, rfl⟩ := htext raw hraw
    rw [trimSpace, trim_eq_self (k.text_space (h k hk)), if_neg (k.text_ne_nil (h k hk)),
      k.parse_text (h k hk)] at hparse
    exact Option.some.inj hparse ▸ hk

end KubeOne.NativeClient
