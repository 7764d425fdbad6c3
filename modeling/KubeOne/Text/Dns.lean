import KubeOne.Text.Path
import Mathlib.Data.List.Chain

/-! Names after RFC 1123: subdomains made of labels of lower case letters, digits and dashes
that start and end with a letter or a digit. -/

namespace KubeOne.Text

open List

def isLowerAlnum (c : Char) : Bool := ('a' ≤ c && c ≤ 'z') || ('0' ≤ c && c ≤ '9')

/-- A label of a subdomain; a single label has no bound of its own here. -/
def isDNS1123SubdomainLabel (label : List Char) : Bool :=
  (label.head?.any isLowerAlnum && label.getLast?.any isLowerAlnum) &&
    label.all fun c => isLowerAlnum c || c == '-'

def isDNS1123Subdomain (name : String) : Bool :=
  name.length ≤ 253 && (split '.' name.toList).all isDNS1123SubdomainLabel

/-- Dots stand between letters and digits only. -/
def DotsBetween (a b : Char) : Prop :=
  (a = '.' → isLowerAlnum b = true) ∧ (b = '.' → isLowerAlnum a = true)

theorem not_isLowerAlnum_dot : isLowerAlnum '.' ≠ true := by decide

theorem isChain_dotsBetween_of_notMem {cs : List Char} (h : '.' ∉ cs) : cs.IsChain DotsBetween := by
  apply List.Pairwise.isChain
  apply pairwise_of_forall_mem_list
  intro a ha b hb
  exact ⟨fun heq => absurd (heq ▸ ha) h, fun heq => absurd (heq ▸ hb) h⟩

theorem isDNS1123SubdomainLabel_iff {label : List Char} (h : '.' ∉ label) :
    isDNS1123SubdomainLabel label = true ↔
      (label.head?.any isLowerAlnum = true ∧ label.getLast?.any isLowerAlnum = true) ∧
        ∀ c ∈ label, isLowerAlnum c = true ∨ c = '-' ∨ c = '.' := by
  simp only [isDNS1123SubdomainLabel, Bool.and_eq_true, all_eq_true, Bool.or_eq_true, beq_iff_eq]
  refine and_congr_right fun _ => forall₂_congr fun c hc => ?_
  have hdot : c ≠ '.' := fun heq => h (heq ▸ hc)
  simp [hdot]

/-- The labels of a text are right exactly if it has only letters, digits, dashes and dots, begins
and ends with a letter or a digit, and every dot stands between two of them. -/
theorem all_label_split_iff (cs : List Char) :
    (split '.' cs).all isDNS1123SubdomainLabel = true ↔
      ((cs.head?.any isLowerAlnum = true ∧ cs.getLast?.any isLowerAlnum = true) ∧
        ∀ c ∈ cs, isLowerAlnum c = true ∨ c = '-' ∨ c = '.') ∧ cs.IsChain DotsBetween := by
  induction h : cs.length using Nat.strong_induction_on generalizing cs with
  | _ n ih =>
    by_cases hdot : '.' ∈ cs
    · obtain ⟨a, b, rfl, ha⟩ := eq_append_cons_of_mem hdot
      have hb := ih b.length (by subst h; simp; omega) b rfl
      rw [split_append ha, all_cons, Bool.and_eq_true, isDNS1123SubdomainLabel_iff ha, hb,
        isChain_append, isChain_cons]
      have hchain := isChain_dotsBetween_of_notMem ha
      cases hlast : a.getLast? with
      | none =>
        obtain rfl := getLast?_eq_none_iff.mp hlast
        simp [not_isLowerAlnum_dot]
      | some z =>
        cases b with
        | nil => simp [not_isLowerAlnum_dot]
        | cons d ds =>
          have hhead : (a ++ '.' :: d :: ds).head? = a.head? := by
            cases a <;> simp_all
          have hlast' : (a ++ '.' :: d :: ds).getLast? = (d :: ds).getLast? := by
            simp [getLast?_cons]
          have hz : z ≠ '.' := fun heq => ha (heq ▸ mem_of_getLast? hlast)
          have hd : isLowerAlnum d = true → d ≠ '.' := fun hd heq =>
            not_isLowerAlnum_dot (heq ▸ hd)
          have hall : (∀ c ∈ '.' :: d :: ds, isLowerAlnum c = true ∨ c = '-' ∨ c = '.') ↔
              ∀ c ∈ d :: ds, isLowerAlnum c = true ∨ c = '-' ∨ c = '.' := by
            simp
          rw [hhead, hlast', forall_mem_append, hall]
          simp only [hchain, DotsBetween, Option.any_some, head?_cons, Option.mem_some_iff,
            forall_eq', hz, true_and, forall_true_left, false_imp_iff]
          tauto
    · rw [split_of_notMem hdot]
      simp [isDNS1123SubdomainLabel_iff hdot, isChain_dotsBetween_of_notMem hdot]
end KubeOne.Text
