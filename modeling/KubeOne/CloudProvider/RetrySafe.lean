import KubeOne.CloudProvider.Provision
import Mathlib.Algebra.BigOperators.Group.List.Basic

/-! When the tasks of a managed control plane can be retried. The host of a machine is
appended once exactly when no attempt fails behind the append, and a lookup that goes
machine by machine adds every host once exactly when all instances exist and no attempt
fails behind the first machine. -/

namespace KubeOne.CloudProvider

open Process Stage List Provider Setup
open Apis.V1beta3 (defaultHosts length_defaultHosts)

def Provider.hostFor (p : Provider) (name : String) (found : Machine) (ns : NodeSet) : HostConfig :=
  let h := hostConfigFromMachine found ns
  match p with
  | .gce => { h with hostname := name }
  | .kubevirt =>
    { h with publicAddress := if h.publicAddress = "" then h.privateAddress else h.publicAddress }
  | _ => h

/-- The host is that of the machine, whatever addresses were found. -/
def Setup.HostOf (i : Setup) (m : String × NodeSet) (h : HostConfig) : Prop :=
  ∃ found, h = i.provider.hostFor m.1 found m.2

def Setup.defaulted (i : Setup) (hosts : List HostConfig) : List HostConfig :=
  if i.nodeSets.isEmpty then hosts else defaultHosts hosts

/-- The tasks succeed and add one host for each machine, in the order of the machines. -/
def Setup.OneHostEach (i : Setup) (hosts : List HostConfig)
    (result : List HostConfig × Status Call) : Prop :=
  ∃ added, result = (i.defaulted (hosts ++ added), .success) ∧
    List.Forall₂ i.HostOf i.machines added

/-! ### Calls -/

variable (hosts : List HostConfig)

theorem appends_call (failing : Call → Bool) (c : Call) :
    (callStage failing c).Appends ([], if failing c then .failed [c] else .success) := by
  intro s
  unfold callStage
  split_ifs <;> simp

theorem appends_appendStage : (appendStage hosts).Appends (hosts, .success) := fun _ => rfl

theorem appends_calls (failing : Call → Bool) (cs : List Call) :
    ∃ st, (sequence (cs.map (callStage failing))).Appends ([], st) ∧
      (st = .success ↔ ∀ c ∈ cs, failing c = false) := by
  induction cs with
  | nil => exact ⟨.success, appends_skip, by simp⟩
  | cons c cs ih =>
    have hfirst := appends_call failing c
    by_cases hc : failing c = true
    · rw [if_pos hc] at hfirst
      exact ⟨_, hfirst.andThen_failed (by simp), by simp [hc]⟩
    · rw [if_neg hc] at hfirst
      obtain ⟨st, hrest, hst⟩ := ih
      exact ⟨st, Appends.andThen (p := ([], .success)) hfirst hrest, by simp [hst, hc]⟩

/-! ### Hosts -/

variable {name : String}

theorem hostConfigs_one {p : Provider} {found : Machine} {ns : NodeSet} (h : 0 < ns.replicas) :
    p.hostConfigs [found] [name] [ns] = [p.hostFor name found ns] := by
  cases p <;> simp [hostConfigs, hostFor, gceHostConfigsFromMachines,
    kubevirtHostConfigsFromMachines, hostConfigsFromMachines_one h]

namespace Setup

variable {i : Setup}

theorem replicas_of_mem {m : String × NodeSet} (h : m ∈ i.machines) : 0 < m.2.replicas :=
  replicas_pos (of_mem_zip h).2

theorem length_machines : i.machines.length =
    (i.nodeSets.flatMap fun ns => List.replicate ns.replicas.toNat ns).length := by
  rw [machines, length_zip, length_generateMachines, Nat.min_self]

@[simp] theorem length_defaulted : (i.defaulted hosts).length = hosts.length := by
  unfold defaulted
  split_ifs <;> simp [length_defaultHosts]

@[simp] theorem hostname_defaulted :
    (i.defaulted hosts).map (·.hostname) = hosts.map (·.hostname) := by
  unfold defaulted
  split_ifs <;> simp [hostname_defaultHosts]

end Setup

theorem Setup.length_of_defaulted {i : Setup} {hosts added out : List HostConfig}
    (h : i.defaulted (hosts ++ out) = i.defaulted (hosts ++ added)) :
    out.length = added.length := by
  have hlen := congrArg length h
  simp only [length_defaulted, length_append] at hlen
  omega

theorem length_eq_one_of_flatten {α : Type*} {outs : List (List α)}
    (hpos : ∀ out ∈ outs, 0 < out.length) (hlen : outs.flatten.length ≤ outs.length) :
    ∀ out ∈ outs, out.length = 1 := by
  induction outs with
  | nil => simp
  | cons out outs ih =>
    rw [forall_mem_cons] at hpos ⊢
    have hrest := length_le_sum_of_one_le (outs.map length) (forall_mem_map.mpr hpos.2)
    rw [length_map, ← length_flatten] at hrest
    simp only [length_cons, flatten_cons, length_append] at hlen
    exact ⟨by omega, ih hpos.2 (by omega)⟩

theorem forall₂_flatten {α β : Type*} {R : α → β → Prop} {l : List α} {outs : List (List β)}
    (h : List.Forall₂ (fun a out => ∃ b, out = [b] ∧ R a b) l outs) :
    List.Forall₂ R l outs.flatten := by
  induction h with
  | nil => exact .nil
  | cons hb _ ih =>
    obtain ⟨b, rfl, hb⟩ := hb
    exact .cons hb ih

/-! ### The surroundings -/

/-- The tasks that change no host succeed in one of their attempts. -/
structure Setup.Surrounded (i : Setup) (r : Surroundings) : Prop where
  preflight : (i.hasPreflight && i.enabled) = true →
    ∃ n ≤ preflightAgain, r.preflight n .preflight = false
  loadBalancer : i.hasLoadBalancer = true → ∃ n ≤ taskAgain, r.loadBalancer n .loadBalancer = false
  defaultCluster : i.nodeSets.isEmpty = false →
    ∃ n ≤ taskAgain, r.defaultCluster n .defaultCluster = false

section Surroundings

variable {i : Setup} {r : Surroundings}

theorem appends_retried_call {again : ℕ} {answers : ℕ → Call → Bool} {c : Call}
    (h : ∃ n ≤ again, answers n c = false) :
    (retry again fun n => callStage (answers n) c).Appends ([], .success) := by
  have hrec : Recovers again fun n => (([] : List HostConfig),
      if answers n c then Status.failed [c] else .success) := by
    obtain ⟨n, hn, hok⟩ := h
    exact ⟨n, hn, by simp [hok]⟩
  obtain ⟨k, -, -, happ⟩ := Appends.retry_clean (fun n => appends_call (answers n) c) hrec
    fun _ _ _ => rfl
  exact happ

theorem appends_setupTasks (h : i.Surrounded r) :
    (sequence (setupTasks i r)).Appends ([], .success) := by
  have hone : ∀ f ∈ setupTasks i r, f.Appends ([], .success) := by
    intro f hf
    rcases mem_append.mp hf with hf | hf
    · split_ifs at hf with hpre
      · rw [mem_singleton.mp hf]
        exact appends_retried_call (h.preflight hpre)
      · simp at hf
    · split_ifs at hf with hlb
      · rw [mem_singleton.mp hf]
        exact appends_retried_call (h.loadBalancer hlb)
      · simp at hf
  generalize setupTasks i r = fs at hone
  induction fs with
  | nil => exact appends_skip
  | cons f fs ih =>
    rw [forall_mem_cons] at hone
    exact Appends.andThen (p := ([], .success)) hone.1 (ih hone.2)

theorem defaultTask_eq (h : i.Surrounded r) (hosts : List HostConfig) :
    defaultTask i r hosts = (i.defaulted hosts, .success) := by
  unfold defaultTask defaulted
  split_ifs with hempty
  · rfl
  · obtain ⟨n, hn, hok⟩ := h.defaultCluster (by simpa using hempty)
    refine retry_eq (fun k => ?_) ⟨n, hn, ?_⟩
    · by_cases hfails : r.defaultCluster k .defaultCluster = true
      · exact .inr ⟨.failed [.defaultCluster], by simp,
          by simp [defaultCluster, callStage, hfails, andThen]⟩
      · exact .inl (by simp [defaultCluster, callStage, hfails, andThen])
    · simp [defaultCluster, callStage, hok, andThen]

theorem tasks_eq (h : i.Surrounded r) {fs : List HostStage} {out : List HostConfig}
    (hfs : (sequence fs).Appends (out, .success)) (hosts : List HostConfig) :
    (sequence (setupTasks i r ++ fs)).andThen (defaultTask i r) hosts =
      (i.defaulted (hosts ++ out), .success) := by
  have hfirst : sequence (setupTasks i r ++ fs) hosts = (hosts ++ out, .success) := by
    rw [sequence_append]
    have happ := Appends.andThen (p := ([], .success)) (appends_setupTasks h) hfs
    simpa using happ hosts
  rw [andThen_of_success hfirst, defaultTask_eq h]

theorem tasks_nil (h : i.Surrounded r) (hosts : List HostConfig) :
    (Stage.sequence (setupTasks i r ++ [])).andThen (defaultTask i r) hosts =
      (i.defaulted (hosts ++ []), .success) :=
  tasks_eq h (show (Stage.sequence []).Appends _ from appends_skip) hosts

end Surroundings

/-! ### Ensuring machines -/

section Ensure

variable {i : Setup} {r : Surroundings} {vm : ℕ → ℕ → VMAttempt} {m : String × NodeSet}
  {a : VMAttempt}

def VMAttempt.Succeeds (i : Setup) (m : String × NodeSet) (a : VMAttempt) : Prop :=
  ∀ c ∈ i.provider.callsBefore ++ i.callsAfter m.1 a.found, a.failing c = false

/-- The attempt fails behind the append. -/
def VMAttempt.Late (i : Setup) (m : String × NodeSet) (a : VMAttempt) : Prop :=
  (∀ c ∈ i.provider.callsBefore, a.failing c = false) ∧
    ∃ c ∈ i.callsAfter m.1 a.found, a.failing c = true

section

variable (hm : 0 < m.2.replicas)

include hm

theorem ensureVM_appends : (a.Succeeds i m ∧ (ensureVM i m a).Appends
        ([i.provider.hostFor m.1 a.found m.2], .success)) ∨
      (¬ a.Succeeds i m ∧ a.Late i m ∧ ∃ st ≠ .success, (ensureVM i m a).Appends
        ([i.provider.hostFor m.1 a.found m.2], st)) ∨
      (¬ a.Succeeds i m ∧ ¬ a.Late i m ∧ ∃ st ≠ .success, (ensureVM i m a).Appends ([], st)) := by
  have hseq : ∀ s, ensureVM i m a s =
      (sequence (i.provider.callsBefore.map (callStage a.failing))).andThen
        ((appendStage [i.provider.hostFor m.1 a.found m.2]).andThen
          (sequence ((i.callsAfter m.1 a.found).map (callStage a.failing)))) s := by
    intro s
    rw [ensureVM, sequence_append, hostConfigs_one hm]
    rfl
  simp only [VMAttempt.Succeeds, VMAttempt.Late, forall_mem_append, Appends, hseq]
  obtain ⟨st, hfirst, hst⟩ := appends_calls a.failing i.provider.callsBefore
  obtain ⟨st', hlast, hst'⟩ := appends_calls a.failing (i.callsAfter m.1 a.found)
  by_cases hbefore : ∀ c ∈ i.provider.callsBefore, a.failing c = false
  · obtain rfl := hst.mpr hbefore
    have hboth := Appends.andThen (p := ([], .success)) hfirst
      (Appends.andThen (p := ([i.provider.hostFor m.1 a.found m.2], .success))
        (appends_appendStage _) hlast)
    by_cases hafter : ∀ c ∈ i.callsAfter m.1 a.found, a.failing c = false
    · obtain rfl := hst'.mpr hafter
      exact .inl ⟨⟨hbefore, hafter⟩, hboth⟩
    · exact .inr (.inl ⟨fun h => hafter h.2, ⟨hbefore, by simpa using hafter⟩, st',
        mt hst'.mp hafter, hboth⟩)
  · exact .inr (.inr ⟨fun h => hbefore h.1, fun h => hbefore h.1, st, mt hst.mp hbefore,
      hfirst.andThen_failed (mt hst.mp hbefore)⟩)

theorem ensureVM_self : (ensureVM i m a).Appends (ensureVM i m a []) := by
  rcases ensureVM_appends (i := i) (a := a) hm with
    ⟨-, h⟩ | ⟨-, -, st, -, h⟩ | ⟨-, -, st, -, h⟩ <;> exact h.self

theorem ensureVM_success_iff : (ensureVM i m a []).2 = .success ↔ a.Succeeds i m := by
  rcases ensureVM_appends (i := i) (a := a) hm with
    ⟨hs, h⟩ | ⟨hs, -, st, hst, h⟩ | ⟨hs, -, st, hst, h⟩ <;> rw [h.run_nil]
  · exact iff_of_true rfl hs
  · exact iff_of_false hst hs
  · exact iff_of_false hst hs

theorem ensureVM_of_success (hs : a.Succeeds i m) :
    (ensureVM i m a []).1 = [i.provider.hostFor m.1 a.found m.2] := by
  rcases ensureVM_appends (i := i) (a := a) hm with ⟨-, h⟩ | ⟨hno, -⟩ | ⟨hno, -⟩
  · rw [h.run_nil]
  · exact absurd hs hno
  · exact absurd hs hno

theorem ensureVM_eq_nil_iff (hs : ¬ a.Succeeds i m) :
    (ensureVM i m a []).1 = [] ↔ ¬ a.Late i m := by
  rcases ensureVM_appends (i := i) (a := a) hm with
    ⟨hok, -⟩ | ⟨-, hlate, st, -, h⟩ | ⟨-, hlate, st, -, h⟩
  · exact absurd hok hs
  · rw [h.run_nil]
    exact iff_of_false (by simp) (not_not_intro hlate)
  · rw [h.run_nil]
    exact iff_of_true rfl hlate

/-- No attempt before the first success fails behind the append. -/
def Setup.NeverLate (i : Setup) (m : String × NodeSet) (attempts : ℕ → VMAttempt) : Prop :=
  ∀ n ≤ taskAgain, (∀ j ≤ n, ¬ (attempts j).Succeeds i m) → ¬ (attempts n).Late i m

variable {attempts : ℕ → VMAttempt}

theorem clean_iff_neverLate :
    Clean taskAgain (fun n => ensureVM i m (attempts n) []) ↔ i.NeverLate m attempts := by
  refine forall₂_congr fun n _ => ?_
  simp only [ne_eq, ensureVM_success_iff hm]
  exact forall_congr' fun hfailed => ensureVM_eq_nil_iff hm (hfailed n (Nat.le_refl n))

theorem ensured_machine (hrec : ∃ n ≤ taskAgain, (attempts n).Succeeds i m) :
    ∃ out, (retry taskAgain fun n => ensureVM i m (attempts n)).Appends (out, .success) ∧
      (i.NeverLate m attempts → ∃ h, out = [h] ∧ i.HostOf m h) ∧
      (¬ i.NeverLate m attempts → 1 < out.length) := by
  have hrec' : Recovers taskAgain fun n => ensureVM i m (attempts n) [] := by
    obtain ⟨n, hn, hs⟩ := hrec
    exact ⟨n, hn, (ensureVM_success_iff hm).mpr hs⟩
  have happ := Appends.retry (fun n => ensureVM_self (i := i) (a := attempts n) hm) taskAgain
  obtain ⟨hclean, hdirty⟩ := retried_eq_iff hrec'
  rw [clean_iff_neverLate hm] at hclean hdirty
  refine ⟨(retried taskAgain fun n => ensureVM i m (attempts n) []).1, ?_, fun hnever => ?_,
    fun hlate => ?_⟩
  · rw [← retried_success_iff.mpr hrec']
    exact happ
  · obtain ⟨k, -, hok, hout⟩ := hclean hnever
    rw [hout, ensureVM_of_success hm ((ensureVM_success_iff hm).mp hok)]
    exact ⟨_, rfl, _, rfl⟩
  · obtain ⟨k, -, hok, hlt⟩ := hdirty hlate
    rw [ensureVM_of_success hm ((ensureVM_success_iff hm).mp hok)] at hlt
    exact hlt

end

structure Setup.Ensured (i : Setup) (r : Surroundings) (vm : ℕ → ℕ → VMAttempt) : Prop where
  surrounded : i.Surrounded r
  machines : i.enabled = true → ∀ k m, i.machines[k]? = some m →
    ∃ n ≤ taskAgain, (vm k n).Succeeds i m

theorem ensured_machines (h : i.Ensured r vm) (henabled : i.enabled = true) :
    ∃ outs : List (List HostConfig),
      (∀ hosts, withEnsureControlPlane i r vm hosts =
        (i.defaulted (hosts ++ outs.flatten), .success)) ∧
      outs.length = i.machines.length ∧ (∀ out ∈ outs, 0 < out.length) ∧
      ∀ k m out, i.machines[k]? = some m → outs[k]? = some out →
        (i.NeverLate m (vm k) → ∃ h, out = [h] ∧ i.HostOf m h) ∧
          (¬ i.NeverLate m (vm k) → 1 < out.length) := by
  have hone : ∀ k : Fin i.machines.length, ∃ out, (retry taskAgain fun n =>
      ensureVM i i.machines[k] (vm k n)).Appends (out, .success) ∧
      (i.NeverLate i.machines[k] (vm k) → ∃ h, out = [h] ∧ i.HostOf i.machines[k] h) ∧
      (¬ i.NeverLate i.machines[k] (vm k) → 1 < out.length) := fun k =>
    ensured_machine (replicas_of_mem (getElem_mem k.2))
      (h.machines henabled k _ (getElem?_eq_getElem k.2))
  choose out happ hnever hlate using hone
  have hpos : ∀ k, 0 < (out k).length := by
    intro k
    by_cases h : i.NeverLate i.machines[k] (vm k)
    · obtain ⟨x, hx, -⟩ := hnever k h
      simp [hx]
    · exact Nat.zero_lt_of_lt (hlate k h)
  refine ⟨ofFn out, fun hosts => ?_, by simp, ?_, ?_⟩
  · unfold withEnsureControlPlane
    rw [if_pos henabled]
    refine tasks_eq h.surrounded (appends_sequence ?_) hosts
    rw [forall₂_iff_get]
    refine ⟨by simp, fun k hk hk' => ?_⟩
    have hlt : k < i.machines.length := by simpa using hk
    simpa using happ ⟨k, hlt⟩
  · simpa [mem_ofFn] using hpos
  · intro k m o hm ho
    obtain ⟨hlt, rfl⟩ := List.getElem?_eq_some_iff.mp hm
    have hout : out ⟨k, hlt⟩ = o := by
      simpa [List.getElem?_ofFn, hlt] using ho
    rw [← hout]
    exact ⟨hnever ⟨k, hlt⟩, hlate ⟨k, hlt⟩⟩

theorem ensure_disabled (h : i.Surrounded r) (hdisabled : i.enabled = false)
    (hosts : List HostConfig) :
    withEnsureControlPlane i r vm hosts = (i.defaulted (hosts ++ []), .success) := by
  unfold withEnsureControlPlane
  rw [if_neg (by simp [hdisabled])]
  exact tasks_nil h hosts

theorem oneHostEach_nil_iff :
    i.OneHostEach hosts (i.defaulted (hosts ++ []), .success) ↔ i.machines = [] := by
  constructor
  · rintro ⟨added, heq, hadded⟩
    have hlen := length_of_defaulted (Prod.mk.inj heq).1
    rw [← hadded.length_eq] at hlen
    exact eq_nil_of_length_eq_zero hlen.symm
  · intro hnone
    exact ⟨[], rfl, by rw [hnone]; exact .nil⟩

theorem ensure_oneHostEach_iff (h : i.Ensured r vm) (hosts : List HostConfig) :
    i.OneHostEach hosts (withEnsureControlPlane i r vm hosts) ↔
      i.machines = [] ∨ i.enabled = true ∧
        ∀ k m, i.machines[k]? = some m → i.NeverLate m (vm k) := by
  by_cases henabled : i.enabled = true
  · obtain ⟨outs, hrun, hlen, hpos, houts⟩ := ensured_machines h henabled
    rw [hrun]
    constructor
    · rintro ⟨added, heq, hadded⟩
      refine .inr ⟨henabled, fun k m hm => ?_⟩
      have hflat := length_of_defaulted (Prod.mk.inj heq).1
      have hmachines := hadded.length_eq
      have hone := length_eq_one_of_flatten hpos (by omega)
      obtain ⟨hlt, -⟩ := List.getElem?_eq_some_iff.mp hm
      have hk : k < outs.length := by omega
      by_contra hlate
      have hmore := (houts k m _ hm (getElem?_eq_getElem hk)).2 hlate
      have hexact := hone _ (getElem_mem hk)
      omega
    · intro hcond
      have hnever : ∀ k m, i.machines[k]? = some m → i.NeverLate m (vm k) := by
        rcases hcond with hnone | ⟨-, hnever⟩
        · simp [hnone]
        · exact hnever
      refine ⟨outs.flatten, rfl, forall₂_flatten ?_⟩
      rw [forall₂_iff_get]
      refine ⟨hlen.symm, fun k hk hk' => ?_⟩
      have hm := getElem?_eq_getElem hk
      exact (houts k _ _ hm (getElem?_eq_getElem hk')).1 (hnever k _ hm)
  · rw [ensure_disabled h.surrounded (by simpa using henabled), oneHostEach_nil_iff]
    simp [henabled]

end Ensure

/-! ### Looking machines up -/

section Lookup

variable {i : Setup} {r : Surroundings} {present : String → Bool} {lookup : ℕ → LookupAttempt}
  {a : LookupAttempt}

def LookupAttempt.Passes (present : String → Bool) (a : LookupAttempt) (idx : ℕ) (name : String) :
    Prop :=
  a.failing (.machineLocation idx) = false ∧ a.failing (.getInstance idx) = false ∧
    (present name = true → a.failing (.findMachine idx) = false)

def LookupAttempt.Succeeds (i : Setup) (present : String → Bool) (a : LookupAttempt) : Prop :=
  (∀ c ∈ i.lookupCalls, a.failing c = false) ∧
    (i.byMachine → ∀ k m, i.machines[k]? = some m → a.Passes present k m.1)

def LookupAttempt.Late (i : Setup) (present : String → Bool) (a : LookupAttempt) : Prop :=
  (∀ c ∈ i.lookupCalls, a.failing c = false) ∧ ∃ m, i.machines[0]? = some m ∧ a.Passes present 0 m.1

theorem lookupExistingVMs_of_passes {ns : NodeSet} {idx : ℕ} {rest : List (String × NodeSet)}
    {p : List HostConfig × Status Call} (hns : 0 < ns.replicas)
    (hpass : a.Passes present idx name)
    (hrest : (lookupExistingVMs a present (idx + 1) rest).Appends p) :
    (lookupExistingVMs a present idx ((name, ns) :: rest)).Appends
      ((if present name then [gce.hostFor name (a.found idx) ns] else []) ++ p.1, p.2) := by
  obtain ⟨hlocation, hget, hfind⟩ := hpass
  have hhosts : gceHostConfigsFromMachines [a.found idx] [name] [ns] =
      [gce.hostFor name (a.found idx) ns] := hostConfigs_one (p := .gce) hns
  intro s
  unfold lookupExistingVMs
  by_cases hpresent : present name = true
  · simp [andThen, callStage, appendStage, hlocation, hget, hfind hpresent, hpresent, hhosts,
      hrest (s ++ _)]
  · simp [andThen, callStage, skip, hlocation, hget, hpresent, hrest s]

theorem lookupExistingVMs_of_not_passes (ns : NodeSet) {idx : ℕ}
    (rest : List (String × NodeSet)) (hpass : ¬ a.Passes present idx name) :
    ∃ st ≠ .success, (lookupExistingVMs a present idx ((name, ns) :: rest)).Appends ([], st) := by
  unfold lookupExistingVMs
  by_cases hlocation : a.failing (.machineLocation idx) = true
  · exact ⟨.failed [.machineLocation idx], by simp,
      fun s => by simp [andThen, callStage, hlocation]⟩
  by_cases hget : a.failing (.getInstance idx) = true
  · exact ⟨.failed [.getInstance idx], by simp,
      fun s => by simp [andThen, callStage, hlocation, hget]⟩
  have hfind : present name = true ∧ a.failing (.findMachine idx) = true := by
    by_contra hno
    refine hpass ⟨by simpa using hlocation, by simpa using hget, fun hpresent => ?_⟩
    simpa [hpresent] using hno
  exact ⟨.failed [.findMachine idx], by simp,
    fun s => by simp [andThen, callStage, hlocation, hget, hfind.1, hfind.2]⟩

theorem lookupExistingVMs_appends (a : LookupAttempt) (present : String → Bool)
    (ms : List (String × NodeSet)) (hms : ∀ m ∈ ms, 0 < m.2.replicas) (idx : ℕ) :
    ∃ out st, (lookupExistingVMs a present idx ms).Appends (out, st) ∧
      (st = .success ↔ ∀ k m, ms[k]? = some m → a.Passes present (idx + k) m.1) ∧
      (∀ h ∈ out, present h.hostname = true) ∧
      ((∀ m ∈ ms, present m.1 = true) → st = .success →
        List.Forall₂ (fun m h => ∃ found, h = gce.hostFor m.1 found m.2) ms out) ∧
      ((∀ m ∈ ms, present m.1 = true) →
        (out = [] ↔ ¬ ∃ m, ms[0]? = some m ∧ a.Passes present idx m.1)) := by
  induction ms generalizing idx with
  | nil => exact ⟨[], .success, appends_skip, by simp, by simp, fun _ _ => .nil, by simp⟩
  | cons m ms ih =>
    obtain ⟨name, ns⟩ := m
    rw [forall_mem_cons] at hms
    by_cases hpass : a.Passes present idx name
    · obtain ⟨out, st, happ, hsuccess, hpresent, hall, -⟩ := ih hms.2 (idx + 1)
      refine ⟨_, st, lookupExistingVMs_of_passes hms.1 hpass happ, ?_, ?_, ?_, ?_⟩
      · rw [hsuccess]
        constructor
        · rintro hrest (_ | k) m hm
          · obtain rfl : (name, ns) = m := by simpa using hm
            exact hpass
          · have hk := hrest k m (by simpa using hm)
            rwa [Nat.add_right_comm] at hk
        · intro hfull k m hm
          have hk := hfull (k + 1) m (by simpa using hm)
          rwa [← Nat.add_assoc, Nat.add_right_comm] at hk
      · intro h hh
        rcases mem_append.mp hh with hh | hh
        · split_ifs at hh with hname
          · rw [mem_singleton.mp hh]
            exact hname
          · simp at hh
        · exact hpresent h hh
      · intro hms' hst
        rw [forall_mem_cons] at hms'
        rw [if_pos hms'.1]
        exact .cons ⟨_, rfl⟩ (hall hms'.2 hst)
      · intro hms'
        rw [forall_mem_cons] at hms'
        simp [hms'.1, hpass]
    · obtain ⟨st, hst, happ⟩ := lookupExistingVMs_of_not_passes ns ms hpass
      refine ⟨[], st, happ, ?_, by simp, fun _ hs => absurd hs hst, fun _ => by simp [hpass]⟩
      refine iff_of_false hst fun hfull => hpass ?_
      simpa using hfull 0 (name, ns) rfl

theorem forall₂_hostConfigs (i : Setup) (p : Provider) (found : ℕ → Machine) :
    List.Forall₂ (fun m h => ∃ x, h = p.hostFor m.1 x m.2) i.machines
      (p.hostConfigs ((List.range i.machines.length).map found) (i.machines.map (·.1))
        i.nodeSets) := by
  have hlen := i.length_machines
  have hns : ∀ k (hk : k < i.machines.length) (hk' : k < (i.nodeSets.flatMap fun ns =>
      replicate ns.replicas.toNat ns).length), (i.machines[k]).2 =
        (i.nodeSets.flatMap fun ns => replicate ns.replicas.toNat ns)[k] := by
    intro k hk hk'
    simp [machines]
  cases p <;>
  · rw [forall₂_iff_get]
    refine ⟨by simp [hostConfigs, gceHostConfigsFromMachines,
      kubevirtHostConfigsFromMachines, hostConfigsFromMachines, ← hlen], fun k hk hk' => ?_⟩
    refine ⟨found k, ?_⟩
    have hk₂ := hns k hk (hlen ▸ hk)
    simp [hostConfigs, hostFor, gceHostConfigsFromMachines,
      kubevirtHostConfigsFromMachines, hostConfigsFromMachines, hk₂, hk]

/-- What an attempt appends, and how it ends. -/
structure LookupAttempt.Outcome (i : Setup) (present : String → Bool) (a : LookupAttempt)
    (p : List HostConfig × Status Call) : Prop where
  succeeds : p.2 = .success ↔ a.Succeeds i present
  found : i.byMachine → ∀ h ∈ p.1, present h.hostname = true
  all : (i.byMachine → ∀ m ∈ i.machines, present m.1 = true) →
    (p.2 = .success → List.Forall₂ i.HostOf i.machines p.1) ∧
      (p.2 ≠ .success → (p.1 = [] ↔ ¬ (i.byMachine ∧ a.Late i present)))

theorem lookupVMs_appends (i : Setup) (present : String → Bool) (a : LookupAttempt) :
    ∃ p, (lookupVMs i present a).Appends p ∧ a.Outcome i present p := by
  obtain ⟨st, hfirst, hst⟩ := appends_calls a.failing i.lookupCalls
  by_cases hok : ∀ c ∈ i.lookupCalls, a.failing c = false
  · obtain rfl := hst.mpr hok
    by_cases hby : i.byMachine
    · obtain ⟨out, st, happ, hsuccess, hpresent, hall, hnone⟩ :=
        lookupExistingVMs_appends a present i.machines (fun m => replicas_of_mem) 0
      refine ⟨(out, st), ?_, ?_, fun _ => hpresent, fun hex => ⟨fun hst => ?_, fun hst => ?_⟩⟩
      · unfold lookupVMs
        rw [if_pos hby]
        exact Appends.andThen (p := ([], .success)) hfirst happ
      · simp only [hsuccess, LookupAttempt.Succeeds, Nat.zero_add]
        exact ⟨fun h => ⟨hok, fun _ => h⟩, fun h => h.2 hby⟩
      · have hmachines := hall (hex hby) hst
        unfold HostOf
        rw [hby.1]
        exact hmachines
      · rw [hnone (hex hby)]
        exact not_congr ⟨fun h => ⟨hby, hok, h⟩, fun h => h.2.2⟩
    · refine ⟨(_, .success), ?_, iff_of_true rfl ⟨hok, fun h => absurd h hby⟩,
        fun h => absurd h hby, fun _ => ⟨fun _ => forall₂_hostConfigs i i.provider a.found,
          fun h => absurd rfl h⟩⟩
      unfold lookupVMs
      rw [if_neg hby]
      exact Appends.andThen (p := ([], .success)) hfirst (appends_appendStage _)
  · have hfailed := mt hst.mp hok
    refine ⟨([], st), hfirst.andThen_failed hfailed, iff_of_false hfailed fun h => hok h.1,
      by simp, fun _ => ⟨fun h => absurd h hfailed, fun _ => ?_⟩⟩
    exact iff_of_true rfl fun h => hok h.2.1

structure Setup.Found (i : Setup) (r : Surroundings) (present : String → Bool)
    (lookup : ℕ → LookupAttempt) : Prop where
  surrounded : i.Surrounded r
  lookup : i.enabled = true → ∃ n ≤ taskAgain, (lookup n).Succeeds i present

/-- A lookup machine by machine finds every instance and never fails behind the first one. -/
def Setup.FindsAll (i : Setup) (present : String → Bool) (lookup : ℕ → LookupAttempt) : Prop :=
  (∀ m ∈ i.machines, present m.1 = true) ∧
    ∀ n ≤ taskAgain, (∀ j ≤ n, ¬ (lookup j).Succeeds i present) → ¬ (lookup n).Late i present

theorem lookupVMs_outcome (i : Setup) (present : String → Bool) (a : LookupAttempt) :
    (lookupVMs i present a).Appends (lookupVMs i present a []) ∧
      a.Outcome i present (lookupVMs i present a []) := by
  obtain ⟨p, happ, hp⟩ := lookupVMs_appends i present a
  rw [happ.run_nil]
  exact ⟨happ, hp⟩

theorem clean_lookup_iff (hex : i.byMachine → ∀ m ∈ i.machines, present m.1 = true) :
    Clean taskAgain (fun n => lookupVMs i present (lookup n) []) ↔
      (i.byMachine → i.FindsAll present lookup) := by
  have hrun := fun n => (lookupVMs_outcome i present (lookup n)).2
  have hnil : ∀ n, ¬ (lookup n).Succeeds i present →
      ((lookupVMs i present (lookup n) []).1 = [] ↔ ¬ (i.byMachine ∧ (lookup n).Late i present)) :=
    fun n hfailed => ((hrun n).all hex).2 (mt (hrun n).succeeds.mp hfailed)
  simp only [Clean, ne_eq, (hrun _).succeeds]
  constructor
  · intro hclean hby
    refine ⟨hex hby, fun n hn hfailed hlate => ?_⟩
    exact (hnil n (hfailed n (Nat.le_refl n))).mp (hclean n hn hfailed) ⟨hby, hlate⟩
  · intro hall n hn hfailed
    refine (hnil n (hfailed n (Nat.le_refl n))).mpr fun ⟨hby, hlate⟩ => ?_
    exact (hall hby).2 n hn hfailed hlate

theorem hostname_of_forall₂ (hgce : i.provider = .gce) {added : List HostConfig}
    (h : List.Forall₂ i.HostOf i.machines added) :
    added.map (·.hostname) = i.machines.map (·.1) := by
  have hnames : ∀ m x, i.HostOf m x → x.hostname = m.1 := by
    rintro m x ⟨found, rfl⟩
    rw [hgce]
    rfl
  generalize i.machines = ms at h
  induction h with
  | nil => rfl
  | cons hx _ ih => rw [map_cons, map_cons, hnames _ _ hx, ih]

theorem lookup_oneHostEach_iff (h : i.Found r present lookup) (hosts : List HostConfig) :
    i.OneHostEach hosts (withFindControlPlane i r present lookup hosts) ↔
      i.machines = [] ∨ i.enabled = true ∧ (i.byMachine → i.FindsAll present lookup) := by
  by_cases henabled : i.enabled = true
  · have hout := fun n => (lookupVMs_outcome i present (lookup n)).2
    have hrec : Recovers taskAgain fun n => lookupVMs i present (lookup n) [] := by
      obtain ⟨n, hn, hs⟩ := h.lookup henabled
      exact ⟨n, hn, (hout n).succeeds.mpr hs⟩
    have hretry := Appends.retry (fun n => (lookupVMs_outcome i present (lookup n)).1) taskAgain
    generalize hq : (retried taskAgain fun n => lookupVMs i present (lookup n) []) = q at hretry
    have hq₂ : q.2 = .success := hq ▸ retried_success_iff.mpr hrec
    have hrun : withFindControlPlane i r present lookup hosts =
        (i.defaulted (hosts ++ q.1), .success) := by
      unfold withFindControlPlane
      rw [if_pos henabled]
      refine tasks_eq h.surrounded ?_ hosts
      rw [← hq₂]
      exact fun s => by simp [Stage.sequence, andThen, hretry s, hq₂, skip]
    rw [hrun]
    constructor
    · rintro ⟨added, heq, hadded⟩
      refine .inr ⟨henabled, fun hby => ?_⟩
      have hdefaulted := (Prod.mk.inj heq).1
      have hnames : q.1.map (·.hostname) = i.machines.map (·.1) := by
        have hhost := congrArg (map (·.hostname)) hdefaulted
        simp only [hostname_defaulted, map_append, append_cancel_left_eq] at hhost
        rw [hhost, hostname_of_forall₂ hby.1 hadded]
      have hex : ∀ m ∈ i.machines, present m.1 = true := by
        intro m hm
        have hmem : m.1 ∈ q.1.map (·.hostname) := hnames ▸ mem_map_of_mem hm
        obtain ⟨x, hx, hname⟩ := mem_map.mp hmem
        obtain ⟨n, hn⟩ := mem_retried (hq ▸ hx)
        rw [← hname]
        exact (hout n).found hby x hn
      by_contra hnot
      have hdirty : ¬ Clean taskAgain (fun n => lookupVMs i present (lookup n) []) := fun hclean =>
        hnot ((clean_lookup_iff fun _ => hex).mp hclean hby)
      obtain ⟨k, -, hok, hlt⟩ := (retried_eq_iff hrec).2 hdirty
      have hlen := (((hout k).all fun _ => hex).1 hok).length_eq
      have hsame := length_of_defaulted hdefaulted
      have hmachines := hadded.length_eq
      rw [hq] at hlt
      omega
    · intro hcond
      have hfinds : i.byMachine → i.FindsAll present lookup := by
        rcases hcond with hnone | ⟨-, hfinds⟩
        · exact fun _ => ⟨by simp [hnone], fun n _ _ hlate => by
            obtain ⟨-, m, hm, -⟩ := hlate
            simp [hnone] at hm⟩
        · exact hfinds
      have hex : i.byMachine → ∀ m ∈ i.machines, present m.1 = true := fun hby => (hfinds hby).1
      obtain ⟨k, -, hok, heq⟩ := (retried_eq_iff hrec).1 ((clean_lookup_iff hex).mpr hfinds)
      refine ⟨q.1, rfl, ?_⟩
      rw [← hq, heq]
      exact ((hout k).all hex).1 hok
  · have hrun : withFindControlPlane i r present lookup hosts =
        (i.defaulted (hosts ++ []), .success) := by
      unfold withFindControlPlane
      rw [if_neg henabled]
      exact tasks_nil h.surrounded hosts
    rw [hrun, oneHostEach_nil_iff]
    simp [henabled]

end Lookup

/-- After tasks that are retried until they succeed the control plane hosts have one host for
each machine exactly when no attempt fails behind an append and every instance that is looked
up exists. -/
theorem provisioning_oneHostEach_iff (i : Setup) (r : Surroundings) (vm : ℕ → ℕ → VMAttempt)
    (present : String → Bool) (lookup : ℕ → LookupAttempt) (hosts : List HostConfig)
    (he : i.Ensured r vm) (hf : i.Found r present lookup) :
    (i.OneHostEach hosts (withEnsureControlPlane i r vm hosts) ↔
      i.machines = [] ∨ i.enabled = true ∧ ∀ k m, i.machines[k]? = some m → i.NeverLate m (vm k)) ∧
    (i.OneHostEach hosts (withFindControlPlane i r present lookup hosts) ↔
      i.machines = [] ∨ i.enabled = true ∧ (i.byMachine → i.FindsAll present lookup)) :=
  ⟨ensure_oneHostEach_iff he hosts, lookup_oneHostEach_iff hf hosts⟩

/-! ### A control plane with one machine -/

def oneMachine : Setup :=
  { provider := .aws
    controlPlane := true
    clusterName := "k1"
    nodeSets := [{ name := "pool", replicas := 1 }] }

def quiet : Surroundings :=
  { preflight := fun _ _ => false
    loadBalancer := fun _ _ => false
    defaultCluster := fun _ _ => false }

def failingFirst (n : ℕ) (c : Call) (_ attempt : ℕ) : VMAttempt :=
  { failing := fun x => decide (attempt < n) && decide (x = c)
    found := { privateAddress := "10.0.0.1", hostname := "k1-pool-0" } }

def foundAtOnce (_ : ℕ) : LookupAttempt :=
  { failing := fun _ => false
    found := fun _ => { privateAddress := "10.0.0.1", hostname := "k1-pool-0" } }

theorem surrounded_quiet (i : Setup) : i.Surrounded quiet :=
  ⟨fun _ => ⟨0, Nat.zero_le _, rfl⟩, fun _ => ⟨0, Nat.zero_le _, rfl⟩,
    fun _ => ⟨0, Nat.zero_le _, rfl⟩⟩

theorem ensured_failingFirst (c : Call) : oneMachine.Ensured quiet (failingFirst 1 c) := by
  refine ⟨surrounded_quiet _, fun _ k m _ => ⟨1, by decide, fun x _ => ?_⟩⟩
  simp [failingFirst]

/-- A failure in front of the append is retried without harm, and so is the lookup. -/
theorem oneMachine_provisioned :
    oneMachine.Ensured quiet (failingFirst 1 .findOrCreateMachines) ∧
      oneMachine.Found quiet (fun _ => true) foundAtOnce ∧
      oneMachine.OneHostEach []
        (withEnsureControlPlane oneMachine quiet (failingFirst 1 .findOrCreateMachines) []) ∧
      oneMachine.OneHostEach []
        (withFindControlPlane oneMachine quiet (fun _ => true) foundAtOnce []) := by
  have he := ensured_failingFirst .findOrCreateMachines
  have hf : oneMachine.Found quiet (fun _ => true) foundAtOnce :=
    ⟨surrounded_quiet _, fun _ => ⟨0, Nat.zero_le _, fun _ _ => rfl, fun _ _ _ _ =>
      ⟨rfl, rfl, fun _ => rfl⟩⟩⟩
  have hiff := provisioning_oneHostEach_iff oneMachine quiet
    (failingFirst 1 .findOrCreateMachines) (fun _ => true) foundAtOnce [] he hf
  refine ⟨he, hf, hiff.1.mpr (.inr ⟨rfl, fun k m _ n _ hfailed hlate => ?_⟩),
    hiff.2.mpr (.inr ⟨rfl, fun hby => by cases hby.1⟩)⟩
  obtain ⟨hbefore, c, hc, hfails⟩ := hlate
  simp only [failingFirst, Bool.and_eq_true, decide_eq_true_eq] at hfails
  obtain ⟨-, rfl⟩ := hfails
  simp [callsAfter, oneMachine, failingFirst] at hc

/-- A failure behind the append leaves the machine twice among the hosts. -/
theorem oneMachine_twice :
    oneMachine.Ensured quiet (failingFirst 1 .findTargetGroup) ∧
      ((withEnsureControlPlane oneMachine quiet (failingFirst 1 .findTargetGroup) []).1.map
        (·.hostname)) = ["k1-pool-0", "k1-pool-0"] ∧
      ¬ oneMachine.OneHostEach []
        (withEnsureControlPlane oneMachine quiet (failingFirst 1 .findTargetGroup) []) := by
  have hrun : ((withEnsureControlPlane oneMachine quiet (failingFirst 1 .findTargetGroup) []).1.map
      (·.hostname)) = ["k1-pool-0", "k1-pool-0"] := by decide
  refine ⟨ensured_failingFirst _, hrun, ?_⟩
  rintro ⟨added, heq, hadded⟩
  have hlen := congrArg length hrun
  rw [heq] at hlen
  have hmachines : oneMachine.machines.length = 1 := by decide
  have hsame := hadded.length_eq
  simp at hlen
  omega

end KubeOne.CloudProvider
