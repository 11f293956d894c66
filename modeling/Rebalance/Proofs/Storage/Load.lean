import Rebalance.Proofs.Net.Client
import Rebalance.Run.Kind
import Rebalance.Storage.Paths
import Rebalance.Storage.Snapshot

/-!
# What loading a cluster and asking a node for its paths come to

* `Snapshot.load_eq`: loading reads the files of the world and changes nothing but the log.
* `Snapshot.isLoadFailure_of_loaded`: a failed load is no failure of a later stage.
* `Node.fetchPaths_eq`: asking a node makes one request and locates the volumes by its answer.
-/

namespace Rebalance
namespace Storage

namespace Snapshot

/-- The cluster that the files hold, or why they hold none. -/
def loaded (files : Files.Tree) : Option Files.Path → Except Failure Cluster
  | none => .error .noSnapshot
  | some p => value files p >>= clusterOf

/-- What is logged about a failure to load. -/
def refusalRecords (f : Failure) : List Log.Record :=
  if isExpected f then [⟨.error, f.message⟩] else []

/-- What is logged about the end of loading. -/
def endRecords : Except Failure Cluster → List Log.Record
  | .error f => refusalRecords f
  | .ok c => [⟨.info, "Cluster snapshot loaded. Nodes: " ++ Decimal.intText c.nodes.length⟩]

/-- What is logged about loading. -/
def records (files : Files.Tree) (uri : Option Files.Path) : List Log.Record :=
  (uri.toList.map fun p => ⟨.info, "Loading cluster snapshot from file: " ++ p.text⟩)
    ++ endRecords (loaded files uri)

theorem refuse_eq
    {α : Type}
    (f : Failure)
    (w : World) :
    (refuse f : Act World α) w = (.error f, w.tell (refusalRecords f)) := by
  unfold refuse refusalRecords
  cases isExpected f with
  | true => exact Act.abort_eq f w
  | false => simp

/-- Loading answers what the files hold, and changes nothing but the log. -/
theorem load_eq
    (uri : Option Files.Path)
    (w : World) :
    load uri w = (loaded w.files uri, w.tell (records w.files uri)) := by
  cases uri with
  | none => exact refuse_eq .noSnapshot w
  | some p =>
    unfold load
    simp only [Act.bind_apply, Act.log_eq, Act.get, World.tell_files, records, loaded]
    cases value w.files p >>= clusterOf with
    | error f => simp [refuse_eq, endRecords]
    | ok c => simp [Act.bind_apply, Act.log_eq, endRecords]

/-- None of what is logged tells of a change of stage. -/
theorem quiet_records
    (files : Files.Tree)
    (uri : Option Files.Path) :
    Log.Quiet (records files uri) := by
  refine Log.quiet_append ?_ ?_
  · intro r hr
    obtain ⟨p, _, rfl⟩ := List.mem_map.mp hr
    exact Log.isMove_of_severity _ (by decide)
  · cases loaded files uri with
    | ok c =>
      unfold endRecords
      exact Log.quiet_cons (Log.isMove_of_severity _ (by decide)) Log.quiet_nil
    | error f =>
      simp only [endRecords, refusalRecords]
      cases isExpected f with
      | true => exact Log.quiet_cons (Log.isMove_of_severity _ (by decide)) Log.quiet_nil
      | false => exact Log.quiet_nil

/-! ## Failures to load -/

/-- Whether a failure is of a kind that loading may have. -/
def IsLoadFailure (f : Failure) : Prop :=
  f.kind? = none ∨ f.kind? = some .aborted ∨ f.kind? = some .invalidCluster

theorem isLoadFailure_of_content
    {files : Files.Tree}
    {p : Files.Path}
    {f : Failure}
    (h : content files p = .error f) :
    IsLoadFailure f := by
  unfold content Files.Path.check at h
  split at h
  · next heq =>
    split at heq
    · cases heq
      cases h
      exact .inl rfl
    · split at heq
      · cases heq
        cases h
        exact .inl rfl
      · cases heq
  · split at h
    · cases h
    · cases h
      exact .inr (.inl rfl)
    · cases h
      exact .inr (.inl rfl)
    · cases h
      exact .inl rfl

theorem isLoadFailure_of_parse
    {p : Files.Path}
    {format : Format}
    {bytes : List Nat}
    {f : Failure}
    (h : parse p format bytes = .error f) :
    IsLoadFailure f := by
  cases format with
  | json =>
    simp only [parse, parseJson] at h
    split at h
    · cases h
      exact .inl rfl
    · split at h
      · cases h
      · cases h
        exact .inr (.inr rfl)
      · cases h
        exact .inl rfl
  | yaml =>
    change parseYaml p bytes = .error f at h
    unfold parseYaml at h
    split at h
    · cases h
    · cases h
      exact .inr (.inr rfl)
    · cases h
      exact .inl rfl

theorem isLoadFailure_of_value
    {files : Files.Tree}
    {p : Files.Path}
    {f : Failure}
    (h : value files p = .error f) :
    IsLoadFailure f := by
  unfold value at h
  split at h
  · cases h
    exact .inr (.inr rfl)
  · rcases Failure.bind_error h with hc | ⟨bytes, _, h⟩
    · exact isLoadFailure_of_content hc
    · rcases Failure.bind_error h with hp | ⟨d, _, h⟩
      · exact isLoadFailure_of_parse hp
      · split at h
        · cases h
        · cases h
          exact .inr (.inr rfl)

theorem isLoadFailure_of_clusterOf
    {d : Data}
    {f : Failure}
    (h : clusterOf d = .error f) :
    IsLoadFailure f := by
  unfold clusterOf at h
  dsimp only at h
  split at h
  · next heq =>
    cases h
    split at heq
    · split at heq
      · cases heq
      · cases heq
        exact .inl rfl
    · cases heq
  · cases h
  · cases h
    exact .inr (.inr rfl)

/-- A failed load is no failure of a later stage. -/
theorem isLoadFailure_of_loaded
    {files : Files.Tree}
    {uri : Option Files.Path}
    {f : Failure}
    (h : loaded files uri = .error f) :
    IsLoadFailure f := by
  cases uri with
  | none =>
    cases h
    exact .inr (.inl rfl)
  | some p =>
    rcases Failure.bind_error h with hv | ⟨d, _, h⟩
    · exact isLoadFailure_of_value hv
    · exact isLoadFailure_of_clusterOf h

end Snapshot

theorem Cluster.node?_eq_none_iff
    {c : Cluster}
    {name : String} :
    c.node? name = none ↔ c.find? name = none := by
  unfold Cluster.node? Cluster.find?
  rw [List.find?_eq_none, List.findIdx?_eq_none_iff]
  simp

theorem Cluster.node?_of_find?
    {c : Cluster}
    {name : String}
    {place : Nat}
    {n : Node}
    (h : c.find? name = some place)
    (hn : c.nodes[place]? = some n) :
    c.node? name = some n := by
  obtain ⟨hlt, hnamed, hfirst⟩ := List.findIdx?_eq_some_iff_getElem.mp h
  obtain ⟨hlt', rfl⟩ := List.getElem?_eq_some_iff.mp hn
  refine List.find?_eq_some_iff_getElem.mpr ⟨hnamed, place, hlt, rfl, ?_⟩
  intro j hj
  simpa using hfirst j hj

/-! ## Asking a node -/

namespace Node

/-- The paths that the network's next outcome gives for a node. -/
def answer (n : Node) (c : Net.Client) (l : Net.Link) : Except Failure Net.PathMap :=
  Net.Client.understood n.address (l.send (c.request n.address)).1

/-- What is logged about asking a node. -/
def fetchRecords (n : Node) (c : Net.Client) (l : Net.Link) : List Log.Record :=
  c.records n.address (l.send (c.request n.address)).1
    ++ match n.answer c l with
      | .ok m => n.locatedRecords m
      | .error _ => []

/-- Asking a node makes one request and locates its volumes by the answer; nothing but the link and
the log of the world changes. -/
theorem fetchPaths_eq
    (n : Node)
    (c : Net.Client)
    (w : World) :
    n.fetchPaths c w =
      ((n.answer c w.link).map n.located,
        World.tell { w with link := (w.link.send (c.request n.address)).2 } (n.fetchRecords c w.link)) := by
  unfold fetchPaths locate fetchRecords answer
  rw [Act.bind_apply, Net.Client.volumePaths_eq]
  cases Net.Client.understood n.address (w.link.send (c.request n.address)).1 with
  | error f => simp [Except.map]
  | ok m => simp [Except.map, Act.bind_apply, Act.logAll_eq]

theorem quiet_locatedRecords
    (n : Node)
    (m : Net.PathMap) :
    Log.Quiet (n.locatedRecords m) := by
  refine Log.quiet_cons (Log.isMove_of_word _ _ _ fun _ => rfl) ?_
  intro r hr
  obtain ⟨v, _, rfl⟩ := List.mem_map.mp hr
  exact Log.isMove_of_word _ _ _ fun _ => rfl

/-- None of what is logged tells of a change of stage. -/
theorem quiet_fetchRecords
    (n : Node)
    (c : Net.Client)
    (l : Net.Link) :
    Log.Quiet (n.fetchRecords c l) := by
  refine Log.quiet_append (Net.Client.quiet_records c _ _) ?_
  cases n.answer c l with
  | ok m => exact quiet_locatedRecords n m
  | error f => exact Log.quiet_nil

end Node
end Storage
end Rebalance
