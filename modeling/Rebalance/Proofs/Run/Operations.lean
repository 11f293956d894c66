import Rebalance.Proofs.Run.Session
import Rebalance.Proofs.Storage.Located

/-!
# Operations on the cluster of a session, in any order

* `Operation`: finding a node, choosing the scope, giving a node its paths or asking it for them,
  planning, and writing the document.
* `Session.history`: the path maps that were given in a run of operations, each with the place of
  its node; `latest` is the path that the last of them gives a volume.
* `run_operations`: a run changes nothing of a cluster but the paths, which are the latest ones, and
  the scope, which shows the nodes as they are now.
-/

namespace Rebalance
namespace Run

open Session

/-! ## Operations -/

/-- An operation on the cluster of a session. -/
inductive Operation
  | find (name : String)
  | choose (names : List String)
  | locate (place : Nat) (m : Net.PathMap)
  | fetch (place : Nat) (c : Net.Client)
  | plan (threshold : Float)
  | write

/-- What an operation answers. -/
inductive Reply
  | nothing
  | node (n : Option Storage.Node)
  | plans (plans : List Move.Plan)
  | document (text : String)

/-- Gives the node at a place the paths that an action finds for it. -/
def populate (place : Nat) (x : Storage.Node → Act World Storage.Node) : Act Session Reply := do
  let s ← Act.get
  match s.cluster.nodes[place]? with
  | none => return .nothing
  | some n =>
    let n ← inWorld (x n)
    keep (s.cluster.updateNode place fun _ => n)
    return .nothing

/-- Carries an operation out. -/
def Operation.act : Operation → Act Session Reply
  | .find name => do
    let s ← Act.get
    return .node (s.cluster.node? name)
  | .choose names => do
    let s ← Act.get
    keep (s.cluster.withScope (names.filterMap s.cluster.find?))
    return .nothing
  | .locate place m => populate place fun n => n.locate m
  | .fetch place c => populate place fun n => n.fetchPaths c
  | .plan threshold => do
    let s ← Act.get
    let plans ← Act.ofExcept (Move.Planner.widestGap.plans s.world.now s.cluster threshold)
    return .plans plans
  | .write => do
    let s ← Act.get
    let text ← Act.ofExcept s.cluster.document
    return .document text

/-- A session after an operation, whether it failed or not. -/
def Session.after (s : Session) (x : Operation) : Session :=
  (x.act s).2

/-- A session after operations, one after the other. -/
def Session.run (s : Session) (xs : List Operation) : Session :=
  xs.foldl Session.after s

/-- The map that an operation gives to the node at a place, if it succeeds. -/
def Operation.given? (s : Session) : Operation → Option (Nat × Net.PathMap)
  | .locate place m => s.cluster.nodes[place]?.map fun _ => (place, m)
  | .fetch place c =>
    s.cluster.nodes[place]?.bind fun n =>
      (n.answer c s.world.link).toOption.map fun m => (place, m)
  | _ => none

/-- The maps that operations give, in order, each with the place of its node. -/
def Session.history : Session → List Operation → List (Nat × Net.PathMap)
  | _, [] => []
  | s, x :: xs => (x.given? s).toList ++ history (s.after x) xs

/-- The path that the latest map for a place gives a volume. -/
def latest (history : List (Nat × Net.PathMap)) (place : Nat) (uuid : String) : Option String :=
  history.reverse.findSome? fun e => if e.1 = place then e.2.get? uuid else none

/-- The names that an operation chooses the scope by. -/
def Operation.choice? : Operation → Option (List String)
  | .choose names => some names
  | _ => none

/-- The names that the last choice of the scope was made by. -/
def lastChoice? (xs : List Operation) : Option (List String) :=
  xs.reverse.findSome? Operation.choice?

/-! ## What an operation does -/

theorem latest_append
    (h g : List (Nat × Net.PathMap))
    (place : Nat)
    (uuid : String) :
    latest (h ++ g) place uuid = (latest g place uuid).or (latest h place uuid) := by
  unfold latest
  rw [List.reverse_append, List.findSome?_append]

theorem lastChoice?_cons
    (x : Operation)
    (xs : List Operation) :
    lastChoice? (x :: xs) = (lastChoice? xs).or x.choice? := by
  unfold lastChoice?
  rw [List.reverse_cons, List.findSome?_append, List.findSome?_singleton]

theorem latest_singleton
    (place : Nat)
    (m : Net.PathMap) :
    latest [(place, m)] = fun i uuid => if i = place then m.get? uuid else none := by
  funext i uuid
  unfold latest
  rw [List.reverse_singleton, List.findSome?_singleton]
  simp only [eq_comm]

/-- What an operation that finds nothing to give leaves of a cluster: all of it. -/
theorem withPaths_latest_nil
    (k : Storage.Cluster) :
    k.withPaths (latest []) = k :=
  Storage.Cluster.withPaths_none k

/-- Giving a node its paths changes the paths of this node, by the map that was found. -/
theorem populate_meets
    (s : Session)
    (place : Nat)
    (x : Storage.Node → Act World Storage.Node)
    (r : Storage.Node → Except Failure Net.PathMap)
    (hx : ∀ n, (x n s.world).1 = (r n).map n.located) :
    Act.Meets Session.cluster (populate place x) s fun _ k =>
      k = s.cluster.withPaths (latest (s.cluster.nodes[place]?.bind fun n =>
        (r n).toOption.map fun m => (place, m)).toList) := by
  unfold populate
  refine Act.Meets.of_get ?_
  cases hn : s.cluster.nodes[place]? with
  | none => exact (withPaths_latest_nil s.cluster).symm
  | some n =>
    rw [Option.bind_some]
    have hin : Act.Shows Session.cluster (inWorld (x n)) s ((r n).map n.located) s.cluster :=
      ⟨hx n, rfl⟩
    cases hr : r n with
    | error f =>
      rw [hr] at hin
      exact hin.stop (withPaths_latest_nil s.cluster).symm
    | ok m =>
      rw [hr] at hin
      refine hin.next ?_
      intro u hu
      show (s.cluster.updateNode place fun _ => n.located m) =
        s.cluster.withPaths (latest [(place, m)])
      rw [Storage.Cluster.updateNode_located m hn, latest_singleton]

/-- A result that is only answered leaves the cluster alone. -/
theorem ofExcept_meets
    {α : Type}
    (s : Session)
    (x : Except Failure α)
    (reply : α → Reply) :
    Act.Meets Session.cluster (Act.ofExcept x >>= fun a => pure (reply a)) s fun _ k =>
      k = s.cluster := by
  have hx := Act.ofExcept_shows Session.cluster x s
  cases x with
  | error f => exact hx.stop rfl
  | ok a => exact hx.next fun u hu => hu

/-- An operation changes nothing of a cluster but the paths, when it gives some, and the scope, when
it chooses one. -/
theorem cluster_after
    (s : Session)
    (x : Operation) :
    (s.after x).cluster =
      (s.cluster.withPaths (latest (x.given? s).toList)).chosen x.choice? := by
  show Act.Meets Session.cluster x.act s fun _ k => k = _
  cases x with
  | find name => exact (withPaths_latest_nil s.cluster).symm
  | choose names =>
    show s.cluster.chosen (some names) = (s.cluster.withPaths (latest [])).chosen (some names)
    rw [withPaths_latest_nil]
  | locate place m =>
    have hlocate := populate_meets s place (fun n => n.locate m) (fun _ => .ok m) fun n => rfl
    have hgiven : (Operation.locate place m).given? s = s.cluster.nodes[place]?.bind fun _ =>
        some (place, m) := by
      cases h : s.cluster.nodes[place]? <;> simp [Operation.given?, h]
    rw [hgiven]
    exact hlocate
  | fetch place c =>
    exact populate_meets s place _ (fun n => n.answer c s.world.link) fun n => by
      rw [Storage.Node.fetchPaths_eq]
  | plan threshold => exact (ofExcept_meets s _ _).trans (withPaths_latest_nil s.cluster).symm
  | write => exact (ofExcept_meets s _ _).trans (withPaths_latest_nil s.cluster).symm

/-- A run of operations changes nothing of a cluster but the paths, which are the latest ones, and
the scope, which is the one chosen last. -/
theorem cluster_run
    (s : Session)
    (xs : List Operation) :
    (s.run xs).cluster = (s.cluster.withPaths (latest (s.history xs))).chosen (lastChoice? xs) := by
  induction xs generalizing s with
  | nil => exact (Storage.Cluster.withPaths_none s.cluster).symm
  | cons x xs ih =>
    have hstep : s.run (x :: xs) = (s.after x).run xs := rfl
    have hlatest : latest (s.history (x :: xs)) = fun i uuid =>
        (latest ((s.after x).history xs) i uuid).or (latest (x.given? s).toList i uuid) := by
      funext i uuid
      exact latest_append _ _ i uuid
    rw [hstep, ih, cluster_after, Storage.Cluster.chosen_withPaths, Storage.Cluster.chosen_chosen,
      Storage.Cluster.withPaths_withPaths, hlatest, lastChoice?_cons]

/-- After any run of operations a cluster is still valid, each volume has the path of the latest map
that its own node was given and that names it, or else its first one, every name leads to the same
node as before, and the scope shows the nodes of its names as they are now. -/
theorem run_operations
    (s : Session)
    (xs : List Operation)
    (hvalid : s.cluster.Valid) :
    (s.run xs).cluster.Valid ∧
      (∀ place : Nat, (s.run xs).cluster.nodes[place]? =
        s.cluster.nodes[place]?.map fun n => n.withPaths (latest (s.history xs) place)) ∧
      (∀ name, (s.run xs).cluster.find? name = s.cluster.find? name) ∧
      (∀ names, lastChoice? xs = some names →
        (s.run xs).cluster.scopeNodes = names.filterMap (s.run xs).cluster.node?) ∧
      (lastChoice? xs = none → (s.run xs).cluster.scope = s.cluster.scope) := by
  have hnodes : (s.run xs).cluster.nodes = (s.cluster.withPaths (latest (s.history xs))).nodes := by
    rw [cluster_run, Storage.Cluster.nodes_chosen]
  refine ⟨?_, ?_, ?_, ?_, ?_⟩
  · have hpaths := hvalid.withPaths (latest (s.history xs))
    exact ⟨hnodes ▸ hpaths.nodes, hnodes ▸ hpaths.distinct⟩
  · intro place
    rw [hnodes, Storage.Cluster.nodes_withPaths]
  · intro name
    unfold Storage.Cluster.find?
    rw [hnodes]
    exact Storage.Cluster.find?_withPaths _ _ _
  · intro names h
    rw [cluster_run, h, Storage.Cluster.scopeNodes_chosen]
  · intro h
    rw [cluster_run, h]
    rfl

/-- Two nodes whose volumes share an identity: each has its own path, the scope follows the node
that was chosen before it got its path, and a node that does not answer changes nothing. -/
theorem run_operations_shared_identity :
    let volume : Storage.Volume := ⟨"v", "DISK", 10, 1, 0, false, false, false, false, ""⟩
    let node (uuid : String) (ip : Nat) : Storage.Node :=
      ⟨uuid, .v4 ip, 9867, "", 0.0, [("DISK", ⟨"DISK", [volume]⟩)]⟩
    let s : Session :=
      ⟨⟨⟨[], []⟩, ⟨[.broke ⟨"ConnectionError", []⟩], []⟩, ⟨2024, 1, 1, 0, 0, 0, 0, none⟩, []⟩,
        .init, ⟨[node "a" 1, node "b" 2], []⟩, []⟩
    let xs : List Operation :=
      [.choose ["a"], .locate 0 [("v", some "/x")], .fetch 1 ⟨"S", "http", 10⟩, .write]
    s.cluster.Valid ∧ (s.run xs).cluster.Valid ∧
      (s.run xs).cluster.nodes.map (fun n => n.volumes.map Storage.Volume.path) = [["/x"], [""]] ∧
      (s.run xs).cluster.scopeNodes = ["a"].filterMap (s.run xs).cluster.node? := by
  intro volume node s xs
  have hvalid : s.cluster.Valid := by decide +kernel
  obtain ⟨hrun, hnodes, _, hscope, _⟩ := run_operations s xs hvalid
  exact ⟨hvalid, hrun, by decide +kernel, hscope ["a"] rfl⟩

end Run
end Rebalance
