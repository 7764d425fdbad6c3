import KubeOne.Etcd.Repair

/-! What a successful repair of the etcd ring removes. The repair keeps its schedule by member
name, and takes a host without a public address for one whose address is the empty text. So it
errs where members to be removed share a name, a member without a name is taken for a host, or a
node bears the name of a member that goes and of one that stays. -/

namespace KubeOne.Etcd

open Quorum State List Client

/-- The member and the host have an identity in common; nothing is identified by an empty text. -/
def Client.shares (cli : Client) (p : Member) (h : HostConfig) : Prop :=
  ∃ identity ∈ cli.peerIdentities p, identity ≠ "" ∧
    (identity = h.hostname ∨ identity = h.publicAddress ∨ identity = h.privateAddress)

/-- The member does not answer, or belongs to no configured host. -/
def Client.Superfluous (cli : Client) (hosts : List HostConfig) (p : Member) : Prop :=
  cli.failsStatus p ∨ ∀ h ∈ hosts, ¬ cli.shares p h

def nodeDeletions (requests : List Request) : List String :=
  requests.filterMap fun
    | .deleteNode name => some name
    | _ => none

/-- The requests remove the superfluous members and no other, and delete the nodes that no
remaining member is named after and no other. -/
structure Exact (cli : Client) (hosts : List HostConfig) (ring : Ring) (nodes : List String)
    (requests : List Request) : Prop where
  members : ∀ id ∈ removals requests, ∃ p ∈ ring.members, p.id = id
  removed : ∀ p ∈ ring.members, p.id ∈ removals requests ↔ cli.Superfluous hosts p
  deleted : ∀ node, node ∈ nodeDeletions requests ↔
    node ∈ nodes ∧ ∀ p ∈ ring.without (removals requests), p.name ≠ node

namespace Client

variable {cli : Client} {known : List String} {p q : Member} {ps : List Member}

theorem scheduled_of_mem_condemned (h : p ∈ cli.condemned known ps) : cli.scheduled known p := by
  induction ps with
  | nil => simp [condemned] at h
  | cons first rest ih =>
    unfold condemned at h
    split at h
    · next hcond =>
      rcases mem_cons.mp h with rfl | h
      · simp only [Bool.and_eq_true] at hcond
        exact hcond.1
      · exact ih h
    · exact ih h

theorem exists_condemned (hp : p ∈ ps) (hs : cli.scheduled known p) :
    ∃ q ∈ cli.condemned known ps, q.name = p.name := by
  induction ps generalizing p with
  | nil => cases hp
  | cons first rest ih =>
    -- a later member of the name, if there is one, takes the place of `p`
    have hlater : ∀ r ∈ rest, cli.scheduled known r → r.name = p.name →
        ∃ q ∈ cli.condemned known (first :: rest), q.name = p.name := by
      intro r hr hsr hname
      obtain ⟨q, hq, hqname⟩ := ih hr hsr
      refine ⟨q, ?_, hqname.trans hname⟩
      unfold condemned
      split
      · exact mem_cons_of_mem first hq
      · exact hq
    rcases mem_cons.mp hp with rfl | hp
    · by_cases hany : rest.any fun q => cli.scheduled known q && q.name = p.name
      · obtain ⟨r, hr, hboth⟩ := any_eq_true.mp hany
        simp only [Bool.and_eq_true, decide_eq_true_eq] at hboth
        exact hlater r hr hboth.1 hboth.2
      · refine ⟨p, ?_, rfl⟩
        unfold condemned
        simp [hs, hany]
    · exact hlater p hp hs rfl

theorem condemned_names_nodup : ((cli.condemned known ps).map Member.name).Nodup := by
  induction ps with
  | nil => simp [condemned]
  | cons first rest ih =>
    unfold condemned
    split
    · next hcond =>
      simp only [Bool.and_eq_true, Bool.not_eq_true', any_eq_false, decide_eq_true_eq,
        not_and] at hcond
      refine nodup_cons.mpr ⟨fun hmem => ?_, ih⟩
      obtain ⟨q, hq, hname⟩ := mem_map.mp hmem
      exact hcond.2 q ((cli.condemned_sublist known rest).subset hq)
        (scheduled_of_mem_condemned hq) hname
    · exact ih

variable {hosts : List HostConfig}

theorem unknown_iff :
    cli.unknown known p ↔ ∀ identity ∈ cli.peerIdentities p, identity ∉ known := by
  simp [unknown]

theorem mem_knownHostsIdentities {identity : String} :
    identity ∈ knownHostsIdentities hosts ↔ ∃ h ∈ hosts,
      identity = h.hostname ∨ identity = h.publicAddress ∨ identity = h.privateAddress := by
  simp [knownHostsIdentities]

theorem superfluous_of_scheduled (h : cli.scheduled (knownHostsIdentities hosts) p) :
    cli.Superfluous hosts p := by
  rcases Bool.or_eq_true _ _ ▸ h with h | h
  · exact .inl h
  · refine .inr ?_
    rintro host hhost ⟨identity, hmem, -, heq⟩
    exact unknown_iff.mp h identity hmem (mem_knownHostsIdentities.mpr ⟨host, hhost, heq⟩)

theorem not_scheduled_iff (hp : cli.Superfluous hosts p) :
    ¬ cli.scheduled (knownHostsIdentities hosts) p ↔
      ¬ cli.failsStatus p ∧ "" ∈ cli.peerIdentities p ∧ "" ∈ knownHostsIdentities hosts := by
  have hsplit : ¬ cli.scheduled (knownHostsIdentities hosts) p ↔
      ¬ cli.failsStatus p ∧ ¬ cli.unknown (knownHostsIdentities hosts) p := by
    simp [scheduled]
  rw [hsplit, unknown_iff]
  refine and_congr_right fun halive => ?_
  constructor
  · intro h
    push Not at h
    obtain ⟨identity, hmem, hknown⟩ := h
    by_cases hempty : identity = ""
    · exact ⟨hempty ▸ hmem, hempty ▸ hknown⟩
    · obtain ⟨host, hhost, heq⟩ := mem_knownHostsIdentities.mp hknown
      exact absurd ⟨identity, hmem, hempty, heq⟩ (hp.resolve_left halive host hhost)
  · exact fun h hall => hall "" h.1 h.2

end Client

theorem requests_of_ok {ring : Ring} {order : Deletions} {answers : Answers} {nodes : List String}
    (hnodes : answers.nodes = some nodes)
    (hok : (repairClusterIfNeeded ring order answers).ok = true) :
    (repairClusterIfNeeded ring order answers).requests =
      (order.map fun e => .memberRemove e.2) ++
        .listNodes :: (nodes.filter (deleteThisNode ring order)).map .deleteNode := by
  obtain ⟨sent, -, hreq, hall⟩ := sendAll_requests
    (fun e : String × UInt64 => Request.memberRemove e.2) (answers.removed ·.2) order
  obtain ⟨names, -, hnames, hallnames⟩ := sendAll_requests Request.deleteNode answers.deleted
    (nodes.filter (deleteThisNode ring order))
  unfold repairClusterIfNeeded at hok ⊢
  simp only [hnodes] at hok ⊢
  split at hok
  · next hremoved =>
    rw [if_pos hremoved]
    simp only [hreq, hall hremoved, hnames, hallnames hok]
  · next hremoved => exact absurd hok hremoved

theorem repair_ok (ring : Ring) (order : Deletions) (nodes : List String) :
    (repairClusterIfNeeded ring order ⟨fun _ => true, some nodes, fun _ => true⟩).ok = true := by
  have hsend {α : Type} (request : α → Request) (xs : List α) :
      (sendAll request (fun _ => true) xs).ok = true := by
    induction xs with
    | nil => rfl
    | cons x xs ih => simpa [sendAll] using ih
  simp [repairClusterIfNeeded, hsend]

section Successful

variable {cli : Client} {hosts : List HostConfig} {ring : Ring} {order : Deletions}
variable {nodes : List String} {requests : List Request}

def Client.gone (cli : Client) (hosts : List HostConfig) (ring : Ring) : List Member :=
  cli.condemned (knownHostsIdentities hosts) ring.members

/-- The requests of a successful repair, over the condemned members. -/
structure Requested (cli : Client) (hosts : List HostConfig) (ring : Ring) (nodes : List String)
    (requests : List Request) : Prop where
  removes : ∀ id, id ∈ removals requests ↔ ∃ p ∈ cli.gone hosts ring, p.id = id
  deletes : ∀ node, node ∈ nodeDeletions requests ↔ node ∈ nodes ∧
    ((∃ p ∈ cli.gone hosts ring, p.name = node) ∨ ∀ p ∈ ring.members, p.name ≠ node)

theorem deleteThisNode_iff (node : String)
    (horder : order.Perm ((cli.gone hosts ring).map fun p => (p.name, p.id))) :
    deleteThisNode ring order node ↔
      (∃ p ∈ cli.gone hosts ring, p.name = node) ∨ ∀ p ∈ ring.members, p.name ≠ node := by
  have hscheduled : (order.any (·.1 = node)) = true ↔ ∃ p ∈ cli.gone hosts ring, p.name = node := by
    simp [horder.mem_iff]
  by_cases h : ∃ p ∈ cli.gone hosts ring, p.name = node
  · simp [deleteThisNode, hscheduled.mpr h, h]
  · have hno : (order.any (·.1 = node)) = false := by
      rw [← Bool.not_eq_true]
      exact fun hany => h (hscheduled.mp hany)
    simp only [deleteThisNode, hno, Bool.false_or, h, false_or, Bool.not_eq_true',
      contains_eq_mem, decide_eq_false_iff_not, mem_filter, mem_map]
    constructor
    · rintro hleft p hp rfl
      exact hleft ⟨⟨p, hp, rfl⟩, by simp⟩
    · rintro hnone ⟨⟨p, hp, rfl⟩, -⟩
      exact hnone p hp rfl

theorem requested_of_ok {answers : Answers} (horder : order.Perm (cli.membersToDelete hosts ring))
    (hnodes : answers.nodes = some nodes)
    (hok : (repairClusterIfNeeded ring order answers).ok = true) :
    Requested cli hosts ring nodes (repairClusterIfNeeded ring order answers).requests := by
  have hperm : order.Perm ((cli.gone hosts ring).map fun p => (p.name, p.id)) :=
    horder.trans (cli.membersToDelete_perm hosts ring)
  rw [requests_of_ok hnodes hok]
  constructor
  · intro id
    rw [removals_append, removals_map_memberRemove]
    have hlist : removals (.listNodes :: (nodes.filter (deleteThisNode ring order)).map
        Request.deleteNode) = [] := removals_map_deleteNode _
    rw [hlist, append_nil, (hperm.map Prod.snd).mem_iff]
    simp
  · intro node
    have hdeletions : nodeDeletions ((order.map fun e => Request.memberRemove e.2) ++
        .listNodes :: (nodes.filter (deleteThisNode ring order)).map .deleteNode) =
        nodes.filter (deleteThisNode ring order) := by
      simp [nodeDeletions, filterMap_map]
    rw [hdeletions, mem_filter, deleteThisNode_iff node hperm]

theorem Requested.exact (h : Requested cli hosts ring nodes requests)
    (hgone : ∀ p ∈ ring.members, p ∈ cli.gone hosts ring ↔ cli.Superfluous hosts p)
    (hnodes : ∀ p ∈ ring.members, ∀ q ∈ ring.members, cli.Superfluous hosts p →
      ¬ cli.Superfluous hosts q → p.name = q.name → p.name ∉ nodes) :
    Exact cli hosts ring nodes requests := by
  have hsub := (cli.condemned_sublist (knownHostsIdentities hosts) ring.members).subset
  have hremoved : ∀ p ∈ ring.members, p.id ∈ removals requests ↔ cli.Superfluous hosts p := by
    intro p hp
    rw [h.removes, ← hgone p hp]
    constructor
    · rintro ⟨q, hq, hid⟩
      exact ring.id_inj (hsub hq) hp hid ▸ hq
    · exact fun hp => ⟨p, hp, rfl⟩
  refine ⟨fun id hid => ?_, hremoved, fun node => ?_⟩
  · obtain ⟨p, hp, hid⟩ := (h.removes id).mp hid
    exact ⟨p, hsub hp, hid⟩
  · rw [h.deletes]
    refine and_congr_right fun hnode => ?_
    simp only [Ring.without, mem_filter, decide_eq_true_eq]
    constructor
    · rintro (⟨p, hp, rfl⟩ | hnone) q ⟨hq, hstays⟩ hname
      · have hkept : ¬ cli.Superfluous hosts q := (hremoved q hq).not.mp hstays
        exact hnodes p (hsub hp) q hq ((hgone p (hsub hp)).mp hp) hkept hname.symm hnode
      · exact hnone q hq hname
    · intro hleft
      by_contra hkeep
      push Not at hkeep
      obtain ⟨hstays, p, hp, rfl⟩ := hkeep
      by_cases hid : p.id ∈ removals requests
      · exact hstays p ((hgone p hp).mpr ((hremoved p hp).mp hid)) rfl
      · exact hleft p ⟨hp, hid⟩ rfl

theorem Exact.mem_gone (h : Exact cli hosts ring nodes requests)
    (hreq : Requested cli hosts ring nodes requests) {p : Member} (hp : p ∈ ring.members)
    (hs : cli.Superfluous hosts p) : p ∈ cli.gone hosts ring := by
  obtain ⟨q, hq, hid⟩ := (hreq.removes p.id).mp ((h.removed p hp).mpr hs)
  have hsub := (cli.condemned_sublist (knownHostsIdentities hosts) ring.members).subset
  exact ring.id_inj (hsub hq) hp hid ▸ hq

/-- A repair that succeeds, in any order of the removals, and the ring it leaves. -/
structure Success (cli : Client) (hosts : List HostConfig) (ring : Ring) where
  order : Deletions
  answers : Answers
  nodes : List String
  scheduled : order.Perm (cli.membersToDelete hosts ring)
  listed : answers.nodes = some nodes
  ok : (repairClusterIfNeeded ring order answers).ok = true
  left : Ring
  removed : left.members =
    ring.without (removals (repairClusterIfNeeded ring order answers).requests)

theorem Success.left_members (run : Success cli hosts ring) :
    run.left.members = ring.members.filter fun p => !decide (p ∈ cli.gone hosts ring) := by
  rw [run.removed]
  refine filter_congr fun p hp => ?_
  have hreq := requested_of_ok run.scheduled run.listed run.ok
  rw [← decide_not, decide_eq_decide, hreq.removes, not_iff_not]
  refine ⟨fun ⟨q, hq, hid⟩ => ?_, fun h => ⟨p, h, rfl⟩⟩
  rwa [← ring.id_inj ((cli.condemned_sublist _ _).subset hq) hp hid]

/-- Each repair takes out at least one of the scheduled members left, and none loses any other. -/
theorem repairs_converge (runs : List (∀ ring, Success cli hosts ring)) (ring : Ring) :
    let scheduled := cli.scheduled (knownHostsIdentities hosts)
    let left := (runs.foldl (fun ring run => (run ring).left) ring).members
    left.filter (!scheduled ·) = ring.members.filter (!scheduled ·) ∧
      left.countP scheduled ≤ ring.members.countP scheduled - runs.length := by
  intro scheduled left
  induction runs generalizing ring with
  | nil => exact ⟨rfl, Nat.le_refl _⟩
  | cons run runs ih =>
    obtain ⟨hkept, hcount⟩ := ih (run ring).left
    rw [(run ring).left_members] at hkept hcount
    have hgone : ∀ p ∈ cli.gone hosts ring, p ∈ ring.members ∧ scheduled p := fun p hp =>
      ⟨(cli.condemned_sublist _ _).subset hp, scheduled_of_mem_condemned hp⟩
    refine ⟨hkept.trans ?_, hcount.trans ?_⟩
    · rw [filter_filter]
      exact filter_congr (by grind)
    · have hsplit := countP_eq_countP_filter_add ring.members scheduled (· ∈ cli.gone hosts ring)
      rw [length_cons]
      by_cases hnone : ring.members.countP scheduled = 0
      · omega
      · obtain ⟨p, hp, hs⟩ := countP_pos_iff.1 (Nat.pos_of_ne_zero hnone)
        obtain ⟨q, hq, -⟩ := exists_condemned hp hs
        have hpos : 0 < (ring.members.filter (· ∈ cli.gone hosts ring)).countP scheduled :=
          countP_pos_iff.2 ⟨q, mem_filter.2 ⟨(hgone q hq).1, decide_eq_true hq⟩, (hgone q hq).2⟩
        omega

end Successful

/-- Every successful repair of a ring removes the superfluous members and deletes the nodes without
a member, and nothing else, exactly if no superfluous member answers while an empty text makes it
known, no two superfluous members share a name, and no node bears the name of both a superfluous
member and another one. -/
theorem repair_exact_iff (cli : Client) (hosts : List HostConfig) (ring : Ring)
    (nodes : List String) :
    (∀ order answers, order.Perm (cli.membersToDelete hosts ring) → answers.nodes = some nodes →
      (repairClusterIfNeeded ring order answers).ok = true →
      Exact cli hosts ring nodes (repairClusterIfNeeded ring order answers).requests) ↔
      (∀ p ∈ ring.members, cli.Superfluous hosts p → ¬ cli.failsStatus p →
        "" ∈ cli.peerIdentities p → "" ∉ knownHostsIdentities hosts) ∧
      (∀ p ∈ ring.members, ∀ q ∈ ring.members, cli.Superfluous hosts p →
        cli.Superfluous hosts q → p.name = q.name → p = q) ∧
      ∀ p ∈ ring.members, ∀ q ∈ ring.members, cli.Superfluous hosts p →
        ¬ cli.Superfluous hosts q → p.name = q.name → p.name ∉ nodes := by
  constructor
  · intro h
    have hok := repair_ok ring (cli.membersToDelete hosts ring) nodes
    have hexact := h _ _ (List.Perm.refl _) rfl hok
    have hreq := requested_of_ok (List.Perm.refl (cli.membersToDelete hosts ring)) rfl hok
    have hgone (p : Member) (hp : p ∈ ring.members) (hs : cli.Superfluous hosts p) :
        p ∈ cli.gone hosts ring := hexact.mem_gone hreq hp hs
    refine ⟨fun p hp hs halive hempty hknown => ?_, fun p hp q hq hsp hsq hname => ?_,
      fun p hp q hq hsp hsq hname hnode => ?_⟩
    · exact (not_scheduled_iff hs).mpr ⟨halive, hempty, hknown⟩
        (scheduled_of_mem_condemned (hgone p hp hs))
    · exact inj_on_of_nodup_map condemned_names_nodup (hgone p hp hsp)
        (hgone q hq hsq) hname
    · -- the node is deleted with `p`, while `q` stays
      have hdeleted := (hreq.deletes p.name).mpr ⟨hnode, .inl ⟨p, hgone p hp hsp, rfl⟩⟩
      have hstays : q ∈ ring.without (removals (repairClusterIfNeeded ring
          (cli.membersToDelete hosts ring) ⟨fun _ => true, some nodes, fun _ => true⟩).requests) :=
        mem_filter.mpr ⟨hq, decide_eq_true ((hexact.removed q hq).not.mpr hsq)⟩
      exact ((hexact.deleted p.name).mp hdeleted).2 q hstays hname.symm
  · rintro ⟨hempty, hnames, hnodes⟩ order answers horder hlisted hok
    refine (requested_of_ok horder hlisted hok).exact
      (fun p hp => ⟨fun h => ?_, fun h => ?_⟩) hnodes
    · exact superfluous_of_scheduled (scheduled_of_mem_condemned h)
    · have hs : cli.scheduled (knownHostsIdentities hosts) p := by
        by_contra hno
        obtain ⟨halive, hself, hknown⟩ := (not_scheduled_iff h).mp hno
        exact hempty p hp h halive hself hknown
      obtain ⟨q, hq, hname⟩ := exists_condemned hp hs
      have hqmem := (cli.condemned_sublist (knownHostsIdentities hosts) ring.members).subset hq
      have hqs := superfluous_of_scheduled (scheduled_of_mem_condemned hq)
      exact hnames q hqmem p hp hqs h hname ▸ hq

def answering : Client := ⟨fun s => some ⟨s, s⟩, fun _ => true⟩

def unstartedRing : Ring := ⟨[⟨1, "a", ["a"]⟩, ⟨2, "", []⟩, ⟨3, "", []⟩], by decide⟩

def Success.inTurn {cli : Client} {hosts : List HostConfig} (nodes : List String) (ring : Ring) :
    Success cli hosts ring where
  order := cli.membersToDelete hosts ring
  answers := ⟨fun _ => true, some nodes, fun _ => true⟩
  nodes
  scheduled := .refl _
  listed := rfl
  ok := repair_ok ring _ nodes
  left := ⟨ring.without _, ring.ids_nodup.sublist (filter_sublist.map _)⟩
  removed := rfl

def onlyHost : List HostConfig := [{ hostname := "a", publicAddress := "a", privateAddress := "a" }]

/-- One of the two stays in the ring. -/
theorem unstarted_member_stays :
    repairClusterIfNeeded unstartedRing (answering.membersToDelete onlyHost unstartedRing)
        ⟨fun _ => true, some ["a"], fun _ => true⟩ = ⟨[.memberRemove 3, .listNodes], true⟩ ∧
      ¬ Exact answering onlyHost unstartedRing ["a"] [.memberRemove 3, .listNodes] := by
  refine ⟨by decide, fun h => ?_⟩
  have hsuperfluous : answering.Superfluous onlyHost ⟨2, "", []⟩ := by
    refine .inr ?_
    rintro host - ⟨identity, hmem, hne, -⟩
    simp [peerIdentities] at hmem
    exact hne hmem
  have hremoved := (h.removed ⟨2, "", []⟩ (by decide)).mpr hsuperfluous
  exact absurd hremoved (by decide)

/-- A second repair takes it out. -/
theorem unstarted_members_go :
    let repair : ∀ ring, Success answering onlyHost ring := .inTurn ["a"]
    ((repair unstartedRing).left.members.length = 2 ∧
      (repair (repair unstartedRing).left).left.members.countP
        (answering.scheduled (knownHostsIdentities onlyHost)) = 0) := by
  intro repair
  have hcount := (repairs_converge [repair, repair] unstartedRing).2
  have hscheduled : unstartedRing.members.countP
      (answering.scheduled (knownHostsIdentities onlyHost)) = 2 := by decide
  exact ⟨by decide, by simpa [hscheduled] using hcount⟩

end KubeOne.Etcd
