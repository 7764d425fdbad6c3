import KubeOne.Quorum.Majority
import KubeOne.State.Cluster

/-! The repair of the etcd ring. A member is scheduled for removal when one of its client URLs
fails, or when it belongs to no configured host. The schedule is a map from names to IDs, and the
removals follow its iteration order. Parsing a client URL is a parameter. -/

namespace KubeOne.Etcd

open Quorum State List

structure Member where
  id : UInt64
  name : String
  clientURLs : List String
  deriving DecidableEq

/-- The members of a ring have different IDs. -/
structure Ring where
  members : List Member
  ids_nodup : (members.map Member.id).Nodup

/-- The parts of a parsed client URL that the repair uses. -/
structure Endpoint where
  hostname : String
  host : String

/-- What the etcd client sees: parsed client URLs and the status call on a host. -/
structure Client where
  parse : String → Option Endpoint
  status : String → Bool

abbrev Deletions := List (String × UInt64)

def Deletions.put (d : Deletions) (name : String) (id : UInt64) : Deletions :=
  (name, id) :: d.filter (fun e => e.1 ≠ name)

def knownHostsIdentities (hosts : List HostConfig) : List String :=
  hosts.flatMap fun h => [h.hostname, h.publicAddress, h.privateAddress]

namespace Client

variable (cli : Client)

/-- One client URL of a peer; a URL that does not parse is skipped. -/
def visitEndpoint (peer : Member) (acc : List String × Deletions) (endpoint : String) :
    List String × Deletions :=
  match cli.parse endpoint with
  | none => acc
  | some url =>
    (acc.1 ++ [url.hostname],
      if cli.status url.host then acc.2 else acc.2.put peer.name peer.id)

def visitPeer (known : List String) (membersToDelete : Deletions) (peer : Member) : Deletions :=
  let visited := peer.clientURLs.foldl (cli.visitEndpoint peer) ([peer.name], membersToDelete)
  if visited.1.any (known.contains ·) then visited.2 else visited.2.put peer.name peer.id

def membersToDelete (hosts : List HostConfig) (ring : Ring) : Deletions :=
  ring.members.foldl (cli.visitPeer (knownHostsIdentities hosts)) []

end Client

inductive Request where
  | memberRemove (id : UInt64)
  | listNodes
  | deleteNode (name : String)
  deriving DecidableEq

/-- How the servers answer the requests that can fail; `nodes` is the list of
control plane nodes, or nothing when listing them fails. -/
structure Answers where
  removed : UInt64 → Bool
  nodes : Option (List String)
  deleted : String → Bool

structure Repair where
  requests : List Request
  ok : Bool
  deriving DecidableEq

def sendAll {α : Type*} (request : α → Request) (ok : α → Bool) : List α → Repair
  | [] => ⟨[], true⟩
  | x :: xs =>
    if ok x then
      let rest := sendAll request ok xs
      ⟨request x :: rest.requests, rest.ok⟩
    else ⟨[request x], false⟩

/-- A node is deleted when it is scheduled for deletion, or when its name is not one
of the member names left once the scheduled names are taken out. -/
def deleteThisNode (ring : Ring) (scheduled : Deletions) (node : String) : Bool :=
  let knownEtcdMembersIdentities :=
    (ring.members.map Member.name).filter fun name => !scheduled.any (·.1 = name)
  scheduled.any (·.1 = node) || !knownEtcdMembersIdentities.contains node

/-- The repair, with the deletions in the order in which the map is iterated. -/
def repairClusterIfNeeded (ring : Ring) (order : Deletions) (answers : Answers) : Repair :=
  let removal := sendAll (fun e : String × UInt64 => .memberRemove e.2) (answers.removed ·.2) order
  if removal.ok then
    match answers.nodes with
    | none => ⟨removal.requests ++ [.listNodes], false⟩
    | some nodes =>
      let deletion := sendAll .deleteNode answers.deleted (nodes.filter (deleteThisNode ring order))
      ⟨removal.requests ++ .listNodes :: deletion.requests, deletion.ok⟩
  else removal

def removals (requests : List Request) : List UInt64 :=
  requests.filterMap fun
    | .memberRemove id => some id
    | _ => none

def Ring.without (ring : Ring) (ids : List UInt64) : List Member :=
  ring.members.filter (fun p => p.id ∉ ids)

variable (ring : Ring) (d : Deletions)

namespace Client

variable (cli : Client) (known : List String)

/-- Alive: every client URL answers the status call. -/
def alive (p : Member) : Bool :=
  p.clientURLs.all fun endpoint =>
    match cli.parse endpoint with
    | none => false
    | some url => cli.status url.host

def peerIdentities (p : Member) : List String :=
  p.name :: p.clientURLs.filterMap fun endpoint => (cli.parse endpoint).map Endpoint.hostname

def failsStatus (p : Member) : Bool :=
  p.clientURLs.any fun endpoint =>
    match cli.parse endpoint with
    | none => false
    | some url => !cli.status url.host

def unknown (p : Member) : Bool := !(cli.peerIdentities p).any (known.contains ·)

def scheduled (p : Member) : Bool := cli.failsStatus p || cli.unknown known p

/-- The members that are removed: the scheduled ones, and of those that share a
name only the last. -/
def condemned : List Member → List Member
  | [] => []
  | p :: rest =>
    if cli.scheduled known p && !rest.any (fun q => cli.scheduled known q && q.name = p.name) then
      p :: condemned rest
    else condemned rest

@[simp] theorem put_put (name : String) (id : UInt64) :
    (d.put name id).put name id = d.put name id := by
  simp [Deletions.put]

theorem foldl_visitEndpoint (peer : Member) (urls : List String) (ids : List String)
    (d : Deletions) :
    urls.foldl (cli.visitEndpoint peer) (ids, d) =
      (ids ++ urls.filterMap (fun endpoint => (cli.parse endpoint).map Endpoint.hostname),
        if urls.any (fun endpoint =>
          match cli.parse endpoint with
          | none => false
          | some url => !cli.status url.host) then d.put peer.name peer.id else d) := by
  induction urls generalizing ids d with
  | nil => simp
  | cons endpoint rest ih =>
    rw [foldl_cons, visitEndpoint]
    cases hp : cli.parse endpoint with
    | none => simp [ih, hp]
    | some url =>
      cases hs : cli.status url.host <;> simp [ih, hp, hs]

theorem visitPeer_eq (p : Member) :
    cli.visitPeer known d p = if cli.scheduled known p then d.put p.name p.id else d := by
  have hvisit : cli.visitPeer known d p =
      if (cli.peerIdentities p).any (known.contains ·) then
        if cli.failsStatus p then d.put p.name p.id else d
      else (if cli.failsStatus p then d.put p.name p.id else d).put p.name p.id := by
    unfold visitPeer
    rw [foldl_visitEndpoint]
    rfl
  rw [hvisit]
  unfold scheduled unknown
  cases cli.failsStatus p <;> cases (cli.peerIdentities p).any (known.contains ·) <;> simp

theorem foldl_visitPeer_perm (ps : List Member) (d : Deletions) :
    (ps.foldl (cli.visitPeer known) d).Perm
      ((cli.condemned known ps).map (fun p => (p.name, p.id)) ++
        d.filter fun e => !ps.any fun q => cli.scheduled known q && q.name = e.1) := by
  induction ps generalizing d with
  | nil => simp [condemned]
  | cons p rest ih =>
    rw [foldl_cons, visitPeer_eq]
    refine (ih _).trans ?_
    cases hs : cli.scheduled known p with
    | false => simp [condemned, hs]
    | true =>
      -- the entries of `d` under the name of `p` are gone already
      have hfilter : (d.filter fun e => e.1 ≠ p.name).filter
            (fun e => !rest.any fun q => cli.scheduled known q && q.name = e.1) =
          d.filter fun e => !(p :: rest).any fun q => cli.scheduled known q && q.name = e.1 := by
        rw [filter_filter]
        refine filter_congr fun e _ => ?_
        by_cases he : e.1 = p.name
        · simp [he, hs]
        · simp [he, hs, Ne.symm he]
      simp only [if_true, Deletions.put, filter_cons, condemned, hs, Bool.true_and, hfilter]
      split_ifs
      · simp only [map_cons, cons_append]
        exact perm_middle
      · exact List.Perm.refl _

theorem membersToDelete_perm (hosts : List HostConfig) (ring : Ring) :
    (cli.membersToDelete hosts ring).Perm
      ((cli.condemned (knownHostsIdentities hosts) ring.members).map fun p => (p.name, p.id)) := by
  simpa [membersToDelete] using
    cli.foldl_visitPeer_perm (knownHostsIdentities hosts) ring.members []

theorem condemned_sublist (ps : List Member) : (cli.condemned known ps).Sublist ps := by
  induction ps with
  | nil => exact List.Sublist.refl _
  | cons p rest ih =>
    simp only [condemned]
    split_ifs
    · exact ih.cons_cons p
    · exact ih.cons p

end Client

theorem sendAll_requests {α : Type*} (request : α → Request) (ok : α → Bool) (xs : List α) :
    ∃ sent, sent <+: xs ∧ (sendAll request ok xs).requests = sent.map request ∧
      ((sendAll request ok xs).ok = true → sent = xs) := by
  induction xs with
  | nil => exact ⟨[], prefix_rfl, rfl, fun _ => rfl⟩
  | cons x xs ih =>
    obtain ⟨sent, hpre, hreq, hok⟩ := ih
    by_cases hx : ok x = true
    · refine ⟨x :: sent, cons_prefix_cons.mpr ⟨rfl, hpre⟩, ?_, ?_⟩
      · simp [sendAll, hx, hreq]
      · intro h
        simp only [sendAll, hx, if_true] at h
        rw [hok h]
    · exact ⟨[x], by simp, by simp [sendAll, hx], by simp [sendAll, hx]⟩

theorem removals_append (a b : List Request) : removals (a ++ b) = removals a ++ removals b :=
  filterMap_append

theorem removals_map_memberRemove (es : Deletions) :
    removals (es.map fun e => .memberRemove e.2) = es.map (·.2) := by
  simp [removals, filterMap_map]

theorem removals_map_deleteNode (names : List String) : removals (names.map .deleteNode) = [] := by
  simp [removals, filterMap_map]

open Request

theorem removals_repair (order : Deletions) (answers : Answers) :
    removals (repairClusterIfNeeded ring order answers).requests <+: order.map (·.2) := by
  obtain ⟨sent, hpre, hreq, -⟩ := sendAll_requests
    (fun e : String × UInt64 => memberRemove e.2) (answers.removed ·.2) order
  have hsent : removals (sendAll (fun e : String × UInt64 => memberRemove e.2)
      (answers.removed ·.2) order).requests <+: order.map (·.2) := by
    rw [hreq, removals_map_memberRemove]
    exact hpre.map _
  unfold repairClusterIfNeeded
  dsimp only
  split_ifs
  · cases answers.nodes with
    | none => simpa [removals_append, removals] using hsent
    | some nodes =>
      obtain ⟨names, -, hnames, -⟩ := sendAll_requests deleteNode answers.deleted
        (nodes.filter (deleteThisNode ring order))
      simp only [removals_append, hnames]
      have hlist : removals (listNodes :: names.map deleteNode) = [] := by
        rw [← removals_map_deleteNode names]
        rfl
      simpa [hlist] using hsent
  · exact hsent

theorem removals_repair_all (order : Deletions) :
    removals (repairClusterIfNeeded ring order
      ⟨fun _ => true, none, fun _ => true⟩).requests = order.map (·.2) := by
  obtain ⟨sent, -, hreq, hall⟩ := sendAll_requests
    (fun e : String × UInt64 => memberRemove e.2) (fun _ => true) order
  have hok : ∀ es : Deletions,
      (sendAll (fun e : String × UInt64 => memberRemove e.2) (fun _ => true) es).ok = true := by
    intro es
    induction es with
    | nil => rfl
    | cons e es ih => simpa [sendAll] using ih
  have hlist : removals [listNodes] = [] := rfl
  simp only [repairClusterIfNeeded, hok, if_true, removals_append, hreq, hall (hok order),
    removals_map_memberRemove, hlist, append_nil]

namespace Ring

theorem id_inj {p q : Member} (hp : p ∈ ring.members) (hq : q ∈ ring.members) (h : p.id = q.id) :
    p = q :=
  inj_on_of_nodup_map ring.ids_nodup hp hq h

theorem without_perm {first later rest : List Member}
    (hall : (first ++ (later ++ rest)).Perm ring.members) :
    (ring.without (first.map Member.id)).Perm (later ++ rest) := by
  refine (hall.filter _).symm.trans ?_
  have hnd : ((first ++ (later ++ rest)).map Member.id).Nodup :=
    (hall.map Member.id).nodup_iff.mpr ring.ids_nodup
  rw [map_append, nodup_append] at hnd
  rw [filter_append]
  have hfirst : first.filter (fun p => p.id ∉ first.map Member.id) = [] := by
    rw [filter_eq_nil_iff]
    intro p hp
    simpa using ⟨p, hp, rfl⟩
  have hlater : (later ++ rest).filter (fun p => p.id ∉ first.map Member.id) = later ++ rest := by
    rw [filter_eq_self]
    intro p hp
    have hne : p.id ∉ first.map Member.id := fun hm =>
      hnd.2.2 p.id hm p.id (mem_map_of_mem hp) rfl
    exact decide_eq_true hne
  rw [hfirst, hlater, nil_append]

end Ring

/-- After each removal that a repair requests, in any iteration order and whatever
the answers are, the alive members left are a majority of the ring left. -/
def RemovalsKeepQuorum (cli : Client) (hosts : List HostConfig) (ring : Ring) : Prop :=
  ∀ order answers, order.Perm (cli.membersToDelete hosts ring) →
    ∀ ids, ids <+: removals (repairClusterIfNeeded ring order answers).requests → ids ≠ [] →
      Quorate cli.alive (ring.without ids)

/-- A quorate ring keeps its quorum through every repair exactly when the alive
members among the condemned are fewer than twice the alive members less the ring. -/
theorem removalsKeepQuorum_iff (cli : Client) (hosts : List HostConfig) (ring : Ring)
    (hq : Quorate cli.alive ring.members) :
    RemovalsKeepQuorum cli hosts ring ↔
      ring.members.length +
          (cli.condemned (knownHostsIdentities hosts) ring.members).countP cli.alive <
        2 * ring.members.countP cli.alive := by
  set gone := cli.condemned (knownHostsIdentities hosts) ring.members with hgone
  obtain ⟨rest, hrest⟩ :=
    (cli.condemned_sublist (knownHostsIdentities hosts) ring.members).exists_perm_append
  rw [← hgone] at hrest
  have hmap := cli.membersToDelete_perm hosts ring
  rw [← hgone] at hmap
  have hkeep := keepsQuorum_iff cli.alive gone rest (hq.perm hrest)
  rw [← hrest.length_eq, ← hrest.countP_eq] at hkeep
  rw [← hkeep]
  constructor
  · intro h first later hperm hne
    -- iterate the map in the given order of the members
    have horder : ((first ++ later).map fun p => (p.name, p.id)).Perm
        (cli.membersToDelete hosts ring) :=
      (hperm.map _).trans hmap.symm
    have hquorate := h _ _ horder (first.map Member.id)
      (by
        rw [removals_repair_all, map_map, map_append]
        exact prefix_append _ _)
      (by simpa using hne)
    have hall : (first ++ (later ++ rest)).Perm ring.members := by
      rw [← append_assoc]
      exact (hperm.append_right rest).trans hrest.symm
    exact hquorate.perm (ring.without_perm hall)
  · intro h order answers horder ids hids hne
    obtain ⟨tail, htail⟩ := hids.trans (removals_repair ring order answers)
    -- the order of the map is an order of the condemned members
    obtain ⟨ps, rfl, hps⟩ : ∃ ps, order = map (fun p : Member => (p.name, p.id)) ps ∧
        ps.Perm gone := by
      have hcomp := congrFun₂ (eq_map_comp_perm fun p : Member => (p.name, p.id)) order gone
      exact hcomp.mpr (horder.trans hmap)
    rw [map_map] at htail
    obtain ⟨first, later, rfl, hfirst, -⟩ := map_eq_append_iff.mp htail.symm
    have hids : ids = first.map Member.id := hfirst.symm
    have hall : (first ++ (later ++ rest)).Perm ring.members := by
      rw [← append_assoc]
      exact (hps.append_right rest).trans hrest.symm
    rw [hids]
    have hnonempty : first ≠ [] := fun he => hne (by rw [hids, he, map_nil])
    exact (h first later hps hnonempty).perm (ring.without_perm hall).symm

def threeClient : Client := ⟨fun s => some ⟨s, s⟩, fun host => host ≠ "c"⟩

def threeRing : Ring := ⟨[⟨1, "a", ["a"]⟩, ⟨2, "b", ["b"]⟩, ⟨3, "c", ["c"]⟩], by decide⟩

/-- With `b` replaced in the configuration, the map order that removes `b` before
the dead `c` leaves one alive member of two. -/
theorem threeRing_loses_quorum :
    Quorate threeClient.alive threeRing.members ∧
      ¬ RemovalsKeepQuorum threeClient [{ hostname := "a" }, { hostname := "c" }] threeRing := by
  refine ⟨by decide, fun h => ?_⟩
  have hquorate := h [("b", 2), ("c", 3)] ⟨fun _ => true, some [], fun _ => true⟩ (by decide) [2]
    (by decide) (by decide)
  exact absurd hquorate (by decide)

/-- With all three configured, only the dead member goes. -/
theorem threeRing_keeps_quorum :
    RemovalsKeepQuorum threeClient
      [{ hostname := "a" }, { hostname := "b" }, { hostname := "c" }] threeRing :=
  (removalsKeepQuorum_iff threeClient _ threeRing (by decide)).mpr (by decide)

end KubeOne.Etcd
