import Rebalance.Proofs.Net.Decoding
import Rebalance.Proofs.Run.Operations
import Rebalance.Proofs.Schema.Entries

/-!
# Maps of paths as actions on nodes

* `Net.TextMap`: a map from texts to texts.  `TextMap.updated` is one map updated by another, and
  `get?_updated` says what it gives.
* `Storage.Node.Repathed`: a node beside the same one with paths from a map; `eq_located_iff` says
  that `Node.located` makes the second one of the first.
* `Run.populateBy`: gives a node the paths that a fetcher finds at its address; `act_fetch_eq` says
  that asking the node is one way of it.
* `populate_acts`: what that does to a node, with which records, and that maps given one after the
  other come to one.
-/

namespace Rebalance

/-! ## Maps from texts to texts -/

namespace Net

/-- A map from texts to texts: no two entries have one key. -/
structure TextMap where
  entries : List (String × String)
  distinct : (entries.map Prod.fst).Nodup

namespace TextMap

/-- The value of a key. -/
def get? (m : TextMap) (key : String) : Option String :=
  m.entries.lookup key

/-- The paths that a map gives. -/
def paths (m : TextMap) : PathMap :=
  PathMap.ofTexts m.entries

/-- A map updated by another one, entry by entry. -/
def updated (m later : TextMap) : TextMap where
  entries := later.entries.foldl (fun es e => Schema.put e.1 e.2 es) m.entries
  distinct := Schema.nodup_foldl_put later.entries m.distinct

theorem get?_paths
    (m : TextMap) :
    m.paths.get? = m.get? := by
  funext key
  unfold paths get? PathMap.get? PathMap.ofTexts
  induction m.entries with
  | nil => rfl
  | cons e rest ih =>
    rw [List.map_cons, List.find?_cons, List.lookup_cons, ← ih, Bool.beq_comm]
    cases key == e.1 <;> rfl

theorem get?_updated
    (m later : TextMap)
    (key : String) :
    (m.updated later).get? key = (later.get? key).or (m.get? key) :=
  Schema.lookup_foldl_put later.distinct m.entries key

end TextMap
end Net

/-! ## Nodes with paths from a map -/

namespace Storage

open Net (TextMap)

/-- A volume beside the same one with its path from a map: its own where the map has none. -/
structure Volume.Repathed (m : TextMap) (v w : Volume) : Prop where
  rest : w = { v with path := w.path }
  named : ∀ path, m.get? v.uuid = some path → w.path = path
  unnamed : m.get? v.uuid = none → w.path = v.path

/-- A set beside the same one with the paths of its volumes from a map. -/
structure VolumeSet.Repathed (m : TextMap) (s t : VolumeSet) : Prop where
  rest : t = { s with volumes := t.volumes }
  volumes : List.Forall₂ (Volume.Repathed m) s.volumes t.volumes

/-- A node beside the same one with the paths of the volumes of all its sets from a map. -/
structure Node.Repathed (m : TextMap) (n l : Node) : Prop where
  rest : l = { n with volumeSets := l.volumeSets }
  sets : List.Forall₂ (fun e d => d.1 = e.1 ∧ VolumeSet.Repathed m e.2 d.2)
    n.volumeSets l.volumeSets

theorem Volume.repathed_iff
    {m : TextMap}
    {v w : Volume} :
    v.Repathed m w ↔ v.withPath m.get? = w := by
  constructor
  · intro h
    rw [h.rest]
    unfold withPath
    cases hpath : m.get? v.uuid with
    | none => rw [h.unnamed hpath, Option.getD_none]
    | some path => rw [h.named path hpath, Option.getD_some]
  · rintro rfl
    exact ⟨rfl, fun path hpath => by simp [withPath, hpath], fun hpath => by simp [withPath, hpath]⟩

theorem VolumeSet.repathed_iff
    {m : TextMap}
    {s t : VolumeSet} :
    s.Repathed m t ↔ { s with volumes := s.volumes.map (Volume.withPath m.get?) } = t := by
  have hvolumes (ws : List Volume) : List.Forall₂ (Volume.Repathed m) s.volumes ws ↔
      s.volumes.map (Volume.withPath m.get?) = ws := by
    refine Schema.forall₂_iff_map_eq ?_
    intro v w
    exact Volume.repathed_iff
  constructor
  · intro h
    rw [h.rest, (hvolumes _).mp h.volumes]
  · rintro rfl
    exact ⟨rfl, (hvolumes _).mpr rfl⟩

/-- A node with paths from a map is the same one, where each volume the map names has its path. -/
theorem Node.eq_located_iff
    {m : TextMap}
    {n l : Node} :
    l = n.located m.paths ↔ n.Repathed m l := by
  have hsets (ds : List (String × VolumeSet)) :
      List.Forall₂ (fun e d => d.1 = e.1 ∧ VolumeSet.Repathed m e.2 d.2) n.volumeSets ds ↔
        n.volumeSets.map (fun e =>
          (e.1, { e.2 with volumes := e.2.volumes.map (Volume.withPath m.get?) })) = ds := by
    refine Schema.forall₂_iff_map_eq ?_
    intro e d
    rw [VolumeSet.repathed_iff, Prod.ext_iff, eq_comm (a := d.1)]
  rw [located_eq, TextMap.get?_paths]
  constructor
  · rintro rfl
    exact ⟨rfl, (hsets _).mpr rfl⟩
  · intro h
    rw [h.rest, ← (hsets _).mp h.sets]
    rfl

end Storage

/-! ## Giving a node its paths -/

namespace Run

open Session
open Net (TextMap)
open Storage (Node)

/-- Gives the node at a place the paths that a fetcher finds at its address. -/
def populateBy (fetch : String → Act World Net.PathMap) (place : Nat) : Act Session Reply :=
  populate place fun n => do
    let m ← fetch n.address
    n.locate m

/-- Asking a node for its paths is one way of it. -/
theorem act_fetch_eq
    (place : Nat)
    (c : Net.Client) :
    (Operation.fetch place c).act = populateBy c.volumePaths place :=
  rfl

/-- A map that is given is what a fetcher answers that asks nobody. -/
theorem act_locate_eq
    (place : Nat)
    (m : Net.PathMap) :
    (Operation.locate place m).act = populateBy (fun _ => pure m) place :=
  rfl

theorem populateBy_eq
    {fetch : String → Act World Net.PathMap}
    {s : Session}
    {place : Nat}
    {n : Node}
    (hn : s.cluster.nodes[place]? = some n) :
    populateBy fetch place s = (do
      let n ← inWorld (do n.locate (← fetch n.address))
      keep (s.cluster.updateNode place fun _ => n)
      return Reply.nothing : Act Session Reply) s := by
  have hget : Act.get s = (.ok s, s) := rfl
  unfold populateBy populate
  refine (Act.andThen_ok hget).trans ?_
  simp only [hn]

theorem populateBy_of_error
    {fetch : String → Act World Net.PathMap}
    {s : Session}
    {place : Nat}
    {n : Node}
    {f : Failure}
    {w : World}
    (hn : s.cluster.nodes[place]? = some n)
    (h : fetch n.address s.world = (.error f, w)) :
    populateBy fetch place s = (.error f, { s with world := w }) := by
  have hasked : inWorld (do n.locate (← fetch n.address)) s =
      (.error f, { s with world := w }) := by
    unfold inWorld Act.on
    rw [Act.andThen_error h]
  rw [populateBy_eq hn]
  exact Act.andThen_error hasked

theorem populateBy_of_ok
    {fetch : String → Act World Net.PathMap}
    {s : Session}
    {place : Nat}
    {n : Node}
    {m : Net.PathMap}
    {w : World}
    (hn : s.cluster.nodes[place]? = some n)
    (h : fetch n.address s.world = (.ok m, w)) :
    populateBy fetch place s = (.ok .nothing, { s with
      world := w.tell (n.locatedRecords m)
      cluster := s.cluster.updateNode place fun _ => n.located m }) := by
  have hasked : inWorld (do n.locate (← fetch n.address)) s =
      (.ok (n.located m), { s with world := w.tell (n.locatedRecords m) }) := by
    unfold inWorld Act.on
    rw [Act.andThen_ok h]
    rfl
  rw [populateBy_eq hn]
  exact Act.andThen_ok hasked

/-- A map that is given changes the paths of the node at its place. -/
theorem cluster_locate
    (s : Session)
    (place : Nat)
    (m : TextMap) :
    (s.after (.locate place m.paths)).cluster =
      s.cluster.withPaths fun i uuid => if i = place then m.get? uuid else none := by
  have hgiven := cluster_after s (.locate place m.paths)
  cases hn : s.cluster.nodes[place]? with
  | none =>
    have hkept : (s.after (.locate place m.paths)).cluster = s.cluster := by
      rw [hgiven, Operation.given?, hn]
      exact withPaths_latest_nil s.cluster
    rw [hkept]
    refine Storage.Cluster.ext_nodes ?_ rfl
    intro i
    rw [Storage.Cluster.nodes_withPaths]
    by_cases hi : i = place
    · rw [hi, hn, Option.map_none]
    · simp only [if_neg hi, Node.withPaths_none, Option.map_id']
  | some n =>
    rw [hgiven, Operation.given?, hn, ← TextMap.get?_paths]
    show s.cluster.withPaths (latest [(place, m.paths)]) = _
    rw [latest_singleton]

/-- Maps that are given one after the other come to the first one updated by the second one. -/
theorem cluster_locate_locate
    (s : Session)
    (place : Nat)
    (m m' : TextMap) :
    ((s.after (.locate place m.paths)).after (.locate place m'.paths)).cluster =
      (s.after (.locate place (m.updated m').paths)).cluster := by
  rw [cluster_locate, cluster_locate, cluster_locate, Storage.Cluster.withPaths_withPaths]
  congr 1
  funext i uuid
  rw [TextMap.get?_updated]
  by_cases hi : i = place
  · rw [if_pos hi, if_pos hi, if_pos hi]
  · rw [if_neg hi, if_neg hi, if_neg hi, Option.none_or]

/-- Maps that give the volumes of a node the same paths do the same to it. -/
theorem cluster_locate_congr
    {s : Session}
    {place : Nat}
    {n : Node}
    (hn : s.cluster.nodes[place]? = some n)
    {m m' : TextMap}
    (h : ∀ v ∈ n.volumes, m.get? v.uuid = m'.get? v.uuid) :
    (s.after (.locate place m.paths)).cluster = (s.after (.locate place m'.paths)).cluster := by
  rw [cluster_locate, cluster_locate]
  refine Storage.Cluster.ext_nodes ?_ rfl
  intro i
  rw [Storage.Cluster.nodes_withPaths, Storage.Cluster.nodes_withPaths]
  by_cases hi : i = place
  · simp only [hi, hn, Option.map_some, if_true]
    rw [Node.withPaths_congr h]
  · simp only [if_neg hi]

/-- A fetcher that fails leaves a node alone.  One that answers with a map of texts gives a path to
each volume that the map names, and to no other one, and there is one record for each volume that it
does not name.  Maps one after the other come to one, the second one before the first, so that a map
given twice is given once, and maps with no key in common are given in any order; what a map says of
other volumes is without effect. -/
theorem populate_acts
    (s : Session)
    (place : Nat)
    (n : Node)
    (hn : s.cluster.nodes[place]? = some n) :
    let given (s : Session) (m : TextMap) : Session := s.after (.locate place m.paths)
    (∀ fetch f w, fetch n.address s.world = (.error f, w) →
        populateBy fetch place s = (.error f, { s with world := w })) ∧
      (∀ (fetch : String → Act World Net.PathMap) (m : TextMap) (w : World),
        fetch n.address s.world = (.ok m.paths, w) →
        ∃ l, n.Repathed m l ∧ populateBy fetch place s = (.ok .nothing, { s with
          world := w.tell (⟨.debug, "Volume paths=" ++ m.paths.toData.quoted⟩
            :: (n.volumes.filter fun v => (m.get? v.uuid).isNone).map fun v =>
              ⟨.debug, "No path found for volume " ++ v.uuid⟩)
          cluster := s.cluster.updateNode place fun _ => l }) ∧
          (populateBy fetch place s).2.cluster = (given s m).cluster) ∧
      (∀ m m', (given (given s m) m').cluster = (given s (m.updated m')).cluster) ∧
      (∀ m, (given (given s m) m).cluster = (given s m).cluster) ∧
      (∀ m m', (∀ key, m.get? key = none ∨ m'.get? key = none) →
        (given (given s m) m').cluster = (given (given s m') m).cluster) ∧
      (∀ m m', (∀ v ∈ n.volumes, m.get? v.uuid = m'.get? v.uuid) →
        (given s m).cluster = (given s m').cluster) := by
  intro given
  refine ⟨fun _ _ _ h => populateBy_of_error hn h, ?_, cluster_locate_locate s place, ?_, ?_,
    fun _ _ h => cluster_locate_congr hn h⟩
  · intro fetch m w h
    refine ⟨n.located m.paths, Node.eq_located_iff.mp rfl, ?_, ?_⟩
    · rw [populateBy_of_ok hn h, Node.locatedRecords, TextMap.get?_paths]
    · show _ = ((Operation.locate place m.paths).act s).2.cluster
      rw [act_locate_eq, populateBy_of_ok hn h, populateBy_of_ok hn rfl]
  · intro m
    refine (cluster_locate_locate s place m m).trans (cluster_locate_congr hn ?_)
    intro v _
    rw [TextMap.get?_updated, Option.or_self]
  · intro m m' hapart
    refine (cluster_locate_locate s place m m').trans
      (.trans (cluster_locate_congr hn ?_) (cluster_locate_locate s place m' m).symm)
    intro v _
    rw [TextMap.get?_updated, TextMap.get?_updated]
    rcases hapart v.uuid with h | h <;> simp [h]

/-- A node with a volume that a map gives the empty path, one that a later map names, and one that
no map names.  A fetcher that fails changes nothing. -/
theorem populate_acts_empty_path :
    let volume (uuid kind path : String) : Storage.Volume :=
      ⟨uuid, kind, 10, 1, 0, false, false, false, false, path⟩
    let n : Node := ⟨"u", .v4 1, 9867, "", 0.0,
      [("DISK", ⟨"DISK", [volume "a" "DISK" "/a", volume "b" "DISK" "/b"]⟩),
        ("SSD", ⟨"SSD", [volume "c" "SSD" ""]⟩)]⟩
    let s : Session :=
      ⟨⟨⟨[], []⟩, ⟨[], []⟩, ⟨2024, 1, 1, 0, 0, 0, 0, none⟩, []⟩, .init, ⟨[n], []⟩, []⟩
    let m : TextMap := ⟨[("x", "/x"), ("a", "")], by decide⟩
    let m' : TextMap := ⟨[("c", "/c")], by decide⟩
    let t := (s.after (.locate 0 m.paths)).after (.locate 0 m'.paths)
    s.cluster.Valid ∧ s.cluster.nodes[0]? = some n ∧
      populateBy (fun _ => Act.fail .answerMissing) 0 s = (.error .answerMissing, s) ∧
      t.cluster = (s.after (.locate 0 (m.updated m').paths)).cluster ∧
      t.cluster.nodes.map (fun n => n.volumes.map Storage.Volume.path) = [["", "/b", "/c"]] ∧
      (populateBy (fun _ => pure m.paths) 0 s).2.world.records =
        [⟨.debug, "Volume paths=\x7b'x': '/x', 'a': ''\x7d"⟩,
          ⟨.debug, "No path found for volume b"⟩, ⟨.debug, "No path found for volume c"⟩] := by
  intro volume n s m m' t
  have hn : s.cluster.nodes[0]? = some n := rfl
  obtain ⟨herror, hok, hcompose, -⟩ := populate_acts s 0 n hn
  obtain ⟨l, -, hanswered, -⟩ := hok (fun _ => pure m.paths) m s.world rfl
  refine ⟨by decide +kernel, hn, herror _ _ _ rfl, hcompose m m', by decide +kernel, ?_⟩
  rw [hanswered]
  show (s.world.tell _).records = _
  decide +kernel

end Run
end Rebalance
