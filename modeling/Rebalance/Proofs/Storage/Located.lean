import Rebalance.Proofs.Storage.Load
import Rebalance.Proofs.Storage.Valid

/-!
# Clusters with other paths and another scope

* `Node.withPaths`, `Cluster.withPaths`: every volume with a path from a look-up, or its own.
* `Cluster.Valid.withPaths`: other paths leave a cluster valid.
* `Cluster.scopeNodes_chosen`: a scope chosen by names shows the nodes as those names find them now.
-/

namespace Rebalance
namespace Storage

/-! ## Nodes with other paths -/

/-- A volume with a path from a look-up, or with its own. -/
def Volume.withPath (path? : String → Option String) (v : Volume) : Volume :=
  { v with path := (path? v.uuid).getD v.path }

/-- A node whose volumes have their paths from a look-up, or their own. -/
def Node.withPaths (path? : String → Option String) (n : Node) : Node :=
  n.mapVolumes (Volume.withPath path?)

theorem Node.located_eq
    (m : Net.PathMap)
    (n : Node) :
    n.located m = n.withPaths m.get? := by
  have h : Volume.located m = Volume.withPath m.get? := by
    funext v
    unfold Volume.located Volume.withPath
    cases m.get? v.uuid <;> rfl
  rw [located, withPaths, h]

theorem Node.withPaths_none
    (n : Node) :
    n.withPaths (fun _ => none) = n := by
  have h : Volume.withPath (fun _ => none) = id := rfl
  have hset : (fun e : String × VolumeSet =>
      (e.1, { e.2 with volumes := e.2.volumes.map id })) = id := by
    funext e
    rw [List.map_id]
    rfl
  rw [withPaths, mapVolumes, h, hset, List.map_id]

theorem Node.withPaths_withPaths
    (f g : String → Option String)
    (n : Node) :
    (n.withPaths f).withPaths g = n.withPaths fun uuid => (g uuid).or (f uuid) := by
  have h : Volume.withPath g ∘ Volume.withPath f =
      Volume.withPath fun uuid => (g uuid).or (f uuid) := by
    funext v
    unfold Volume.withPath
    dsimp only [Function.comp]
    cases g v.uuid <;> rfl
  unfold withPaths mapVolumes
  dsimp only
  rw [List.map_map, ← h]
  congr 1
  refine List.map_congr_left ?_
  intro e _
  dsimp only [Function.comp]
  rw [List.map_map]

/-- Look-ups that find the same paths for the volumes of a node give it the same paths. -/
theorem Node.withPaths_congr
    {f g : String → Option String}
    {n : Node}
    (h : ∀ v ∈ n.volumes, f v.uuid = g v.uuid) :
    n.withPaths f = n.withPaths g := by
  have hsets : ∀ e ∈ n.volumeSets,
      e.2.volumes.map (Volume.withPath f) = e.2.volumes.map (Volume.withPath g) := by
    intro e he
    refine List.map_congr_left ?_
    intro v hv
    unfold Volume.withPath
    rw [h v (List.mem_flatMap.mpr ⟨e, he, hv⟩)]
  unfold withPaths mapVolumes
  congr 1
  exact List.map_congr_left fun e he => by rw [hsets e he]

theorem Node.volumes_withPaths
    (f : String → Option String)
    (n : Node) :
    (n.withPaths f).volumes = n.volumes.map (Volume.withPath f) := by
  unfold volumes withPaths mapVolumes
  rw [List.flatMap_map, List.map_flatMap]

theorem Node.uuids_withPaths
    (f : String → Option String)
    (n : Node) :
    (n.withPaths f).volumes.map Volume.uuid = n.volumes.map Volume.uuid := by
  rw [volumes_withPaths, List.map_map]
  rfl

/-- Other paths leave a node valid. -/
theorem Node.Valid.withPaths
    {n : Node}
    (h : n.Valid)
    (f : String → Option String) :
    (n.withPaths f).Valid where
  identity := h.identity
  address := h.address
  port := h.port
  sets := by
    intro e' he'
    obtain ⟨e, he, rfl⟩ := List.mem_map.mp he'
    have hset := h.sets e he
    constructor
    · intro v' hv'
      obtain ⟨v, hv, rfl⟩ := List.mem_map.mp hv'
      exact ⟨(hset.volumes v hv).identity⟩
    · intro v' hv'
      obtain ⟨v, hv, rfl⟩ := List.mem_map.mp hv'
      exact hset.types v hv
  keys := by
    intro e' he'
    obtain ⟨e, he, rfl⟩ := List.mem_map.mp he'
    exact h.keys e he
  distinct := by
    have hkeys : (n.withPaths f).volumeSets.map Prod.fst = n.volumeSets.map Prod.fst := by
      unfold Node.withPaths mapVolumes
      rw [List.map_map]
      rfl
    rw [hkeys]
    exact h.distinct
  volumes := by
    rw [uuids_withPaths]
    exact h.volumes

/-! ## Clusters with other paths -/

namespace Cluster

/-- A cluster whose volumes have their paths from a look-up by the place of the node and the
identity of the volume, or their own. -/
def withPaths (path? : Nat → String → Option String) (c : Cluster) : Cluster :=
  { c with nodes := c.nodes.mapIdx fun place n => n.withPaths (path? place) }

theorem nodes_withPaths
    (path? : Nat → String → Option String)
    (c : Cluster)
    (i : Nat) :
    (c.withPaths path?).nodes[i]? = c.nodes[i]?.map fun n => n.withPaths (path? i) :=
  List.getElem?_mapIdx

theorem mem_withPaths
    {path? : Nat → String → Option String}
    {c : Cluster}
    {n' : Node}
    (h : n' ∈ (c.withPaths path?).nodes) :
    ∃ n ∈ c.nodes, ∃ i, n.withPaths (path? i) = n' := by
  obtain ⟨i, hi⟩ := List.mem_iff_getElem?.mp h
  rw [nodes_withPaths] at hi
  obtain ⟨n, hn, hn'⟩ := Option.map_eq_some_iff.mp hi
  exact ⟨n, List.mem_of_getElem? hn, i, hn'⟩

theorem ext_nodes
    {c d : Cluster}
    (hnodes : ∀ i : Nat, c.nodes[i]? = d.nodes[i]?)
    (hscope : c.scope = d.scope) :
    c = d := by
  cases c
  cases d
  rw [mk.injEq]
  exact ⟨List.ext_getElem? hnodes, hscope⟩

theorem withPaths_none
    (c : Cluster) :
    (c.withPaths fun _ _ => none) = c := by
  refine ext_nodes ?_ rfl
  intro i
  rw [nodes_withPaths]
  simp only [Node.withPaths_none, Option.map_id']

theorem withPaths_withPaths
    (f g : Nat → String → Option String)
    (c : Cluster) :
    (c.withPaths f).withPaths g = c.withPaths fun i uuid => (g i uuid).or (f i uuid) := by
  refine ext_nodes ?_ rfl
  intro i
  rw [nodes_withPaths, nodes_withPaths, nodes_withPaths, Option.map_map]
  congr 1
  funext n
  exact Node.withPaths_withPaths (f i) (g i) n

/-- Giving one node paths from a map touches no other node. -/
theorem updateNode_located
    {c : Cluster}
    {place : Nat}
    {n : Node}
    (m : Net.PathMap)
    (h : c.nodes[place]? = some n) :
    (c.updateNode place fun _ => n.located m) =
      c.withPaths fun i uuid => if i = place then m.get? uuid else none := by
  refine ext_nodes ?_ rfl
  intro i
  rw [nodes_withPaths]
  unfold updateNode
  rw [List.getElem?_modify]
  by_cases hi : place = i
  · subst hi
    simp [h, Node.located_eq]
  · simp [hi, Ne.symm hi, Node.withPaths_none]

theorem nodes_updateNode_self
    {c : Cluster}
    {place : Nat}
    {n m : Node}
    (h : c.nodes[place]? = some n) :
    (c.updateNode place fun _ => m).nodes[place]? = some m := by
  simp [updateNode, h]

/-- Giving a node the same paths again changes nothing. -/
theorem updateNode_located_again
    {c : Cluster}
    {place : Nat}
    {n : Node}
    (m : Net.PathMap)
    (h : c.nodes[place]? = some n) :
    ((c.updateNode place fun _ => n.located m).updateNode place fun _ =>
        (n.located m).located m) =
      c.updateNode place fun _ => n.located m := by
  rw [updateNode_located m (nodes_updateNode_self h), updateNode_located m h, withPaths_withPaths]
  simp only [Option.or_self]

theorem find?_withPaths
    (f : Nat → String → Option String)
    (c : Cluster)
    (name : String) :
    (c.withPaths f).find? name = c.find? name := by
  have hnamed : (c.withPaths f).nodes.map (fun n => n.isNamed name) =
      c.nodes.map fun n => n.isNamed name := by
    refine List.ext_getElem? ?_
    intro i
    rw [List.getElem?_map, List.getElem?_map, nodes_withPaths, Option.map_map]
    rfl
  have hfind (d : Cluster) : d.find? name = (d.nodes.map fun n => n.isNamed name).findIdx? id := by
    rw [List.findIdx?_map]
    rfl
  rw [hfind, hfind, hnamed]

theorem node?_eq
    (c : Cluster)
    (name : String) :
    c.node? name = (c.find? name).bind fun i => c.nodes[i]? := by
  cases h : c.find? name with
  | none => exact node?_eq_none_iff.mpr h
  | some i =>
    obtain ⟨hi, _⟩ := List.findIdx?_eq_some_iff_getElem.mp h
    have hn : c.nodes[i]? = some c.nodes[i] := List.getElem?_eq_getElem hi
    rw [node?_of_find? h hn, Option.bind_some, hn]

/-- Other paths leave a cluster valid. -/
theorem Valid.withPaths
    {c : Cluster}
    (h : c.Valid)
    (f : Nat → String → Option String) :
    (c.withPaths f).Valid := by
  constructor
  · intro n' hn'
    obtain ⟨n, hn, i, rfl⟩ := mem_withPaths hn'
    exact (h.nodes n hn).withPaths (f i)
  · have huuids : (c.withPaths f).nodes.map Node.uuid = c.nodes.map Node.uuid := by
      refine List.ext_getElem? ?_
      intro i
      rw [List.getElem?_map, List.getElem?_map, nodes_withPaths, Option.map_map]
      rfl
    rw [huuids]
    exact h.distinct

/-! ## The scope by names -/

/-- A cluster with the nodes of some names as its scope, or with its own scope. -/
def chosen : Option (List String) → Cluster → Cluster
  | none, c => c
  | some names, c => c.withScope (names.filterMap c.find?)

theorem nodes_chosen
    (names? : Option (List String))
    (c : Cluster) :
    (c.chosen names?).nodes = c.nodes := by
  cases names? <;> rfl

theorem chosen_withPaths
    (names? : Option (List String))
    (f : Nat → String → Option String)
    (c : Cluster) :
    (c.chosen names?).withPaths f = (c.withPaths f).chosen names? := by
  cases names? with
  | none => rfl
  | some names =>
    have h : (c.withPaths f).find? = c.find? := funext (find?_withPaths f c)
    show _ = (c.withPaths f).withScope (names.filterMap (c.withPaths f).find?)
    rw [h]
    rfl

theorem chosen_chosen
    (a b : Option (List String))
    (c : Cluster) :
    (c.chosen a).chosen b = c.chosen (b.or a) := by
  cases b with
  | none => rfl
  | some names => cases a <;> rfl

/-- The scope shows the nodes as they are found by their names now. -/
theorem scopeNodes_chosen
    (names : List String)
    (c : Cluster) :
    (c.chosen (some names)).scopeNodes = names.filterMap (c.chosen (some names)).node? := by
  have hnode : (c.chosen (some names)).node? = fun name =>
      (c.find? name).bind fun i => c.nodes[i]? :=
    funext (node?_eq (c.chosen (some names)))
  rw [hnode]
  show ((names.filterMap c.find?).map InScope.member).filterMap _ = _
  rw [List.filterMap_map, List.filterMap_filterMap]
  rfl

end Cluster
end Storage
end Rebalance
