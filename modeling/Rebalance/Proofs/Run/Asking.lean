import Rebalance.Proofs.Net.Answer
import Rebalance.Proofs.Run.Operations

/-!
# Asking a node of a session for its paths

* `populate_error`: giving a node paths fails only as the action that finds them, and then the
  cluster stays as it is.
* `asking_contract`: asking fails for want of a connection, for an answer that cannot be read, or
  without a kind, each just for the outcomes that belong to it; nothing expected ends without a
  kind.
-/

namespace Rebalance
namespace Run

open Session

theorem populate_error
    {s : Session}
    {place : Nat}
    {x : Storage.Node → Act World Storage.Node}
    {f : Failure}
    (h : (populate place x s).1 = .error f) :
    (∃ n, s.cluster.nodes[place]? = some n ∧ (x n s.world).1 = .error f) ∧
      (populate place x s).2.cluster = s.cluster := by
  have hmeets : Act.Meets Session.cluster (populate place x) s fun r k => ∀ f, r = .error f →
      (∃ n, s.cluster.nodes[place]? = some n ∧ (x n s.world).1 = .error f) ∧ k = s.cluster := by
    unfold populate
    refine Act.Meets.of_get ?_
    cases hn : s.cluster.nodes[place]? with
    | none =>
      intro f hf
      cases hf
    | some n =>
      have hin : Act.Shows Session.cluster (inWorld (x n)) s (x n s.world).1 s.cluster :=
        ⟨rfl, rfl⟩
      cases hx : (x n s.world).1 with
      | error g =>
        rw [hx] at hin
        refine hin.stop ?_
        intro f hf
        cases hf
        exact ⟨⟨n, rfl, hx⟩, rfl⟩
      | ok m =>
        rw [hx] at hin
        refine hin.next ?_
        intro u hu f hf
        cases hf
  exact hmeets f h

/-- Asking a node for its paths fails as the request does. -/
theorem volumePaths_error_of_fetchPaths
    {n : Storage.Node}
    {c : Net.Client}
    {w : World}
    {f : Failure}
    (h : (n.fetchPaths c w).1 = .error f) :
    (c.volumePaths n.address w).1 = .error f := by
  rw [Storage.Node.fetchPaths_eq] at h
  rw [Net.Client.volumePaths_eq]
  exact Failure.map_error h

/-- Asking a node for its paths gives a text for each volume of the answer, or fails: for want of a
connection just when the node is not reached, for an unreadable answer just when it is not
understood, and without a kind just for the outcomes that escape, of which none is expected.  In a
session a failure is always that of asking the node, and leaves the cluster as it is. -/
theorem asking_contract
    (c : Net.Client)
    (address : String)
    (w : World) :
    let o := (w.link.send (c.request address)).1
    let r := (c.volumePaths address w).1
    (∀ m, r = .ok m → ∀ e ∈ m, e.2.isSome) ∧
      ((∃ f, r = .error f ∧ f.kind? = some .noConnection) ↔ Net.NotReached o) ∧
      ((∃ f, r = .error f ∧ f.kind? = some .unreadableAnswer) ↔ Net.NotUnderstood o) ∧
      ((∃ f, r = .error f ∧ f.kind? = none) ↔ Net.Escapes o) ∧
      (∀ f, r = .error f → f.kind? = some .noConnection ∨ f.kind? = some .unreadableAnswer ∨
        f.kind? = none) ∧
      (o.IsExpected → ¬ Net.Escapes o) ∧
      ∀ (s : Session) place f, ((Operation.fetch place c).act s).1 = .error f →
        (∃ n, s.cluster.nodes[place]? = some n ∧
          (c.volumePaths n.address s.world).1 = .error f) ∧
        ((Operation.fetch place c).act s).2.cluster = s.cluster := by
  intro o r
  have hr : r = Net.Client.understood address o :=
    congrArg Prod.fst (Net.Client.volumePaths_eq c address w)
  rw [hr]
  obtain ⟨hreached, hread, hescape, hkinds⟩ := Net.Client.understood_sorted (o := o) address
  refine ⟨?_, hreached, hread, hescape, hkinds, Net.Outcome.IsExpected.not_escapes, ?_⟩
  · intro m hm
    exact Net.Client.isSome_of_understood address hm
  · intro s place f hf
    obtain ⟨⟨n, hn, hasked⟩, hcluster⟩ := populate_error hf
    exact ⟨⟨n, hn, volumePaths_error_of_fetchPaths hasked⟩, hcluster⟩

/-- A connection that breaks, a list for an answer, and a refusal without an answer: the node is not
reached, its answer is unreadable, and the failure has no kind and leaves the cluster as it is. -/
theorem asking_contract_of_each :
    let c : Net.Client := ⟨"S", "http", 10⟩
    let w (o : Net.Outcome) : World := ⟨⟨[], []⟩, ⟨[o], []⟩, ⟨2024, 1, 31, 12, 0, 59, 0, none⟩, []⟩
    let k : Storage.Cluster :=
      ⟨[⟨"n", .v4 1, 9867, "", 0.0, [("DISK", ⟨"DISK",
        [⟨"v", "DISK", 10, 1, 0, false, false, false, false, "/old"⟩]⟩)]⟩], []⟩
    let s : Session := ⟨w (.broke ⟨"HTTPError", []⟩), .init, k, []⟩
    (∃ f, (c.volumePaths "h:1" (w (.broke ⟨"ConnectionError", []⟩))).1 = .error f ∧
        f.kind? = some .noConnection) ∧
      (∃ f, (c.volumePaths "h:1" (w (.answered 200 "[]"))).1 = .error f ∧
        f.kind? = some .unreadableAnswer) ∧
      ¬ Net.Escapes (.answered 200 "[]") ∧
      (∃ f, (c.volumePaths "h:1" (w (.broke ⟨"HTTPError", []⟩))).1 = .error f ∧ f.kind? = none) ∧
      (∃ f, ((Operation.fetch 0 c).act s).1 = .error f) ∧
      ((Operation.fetch 0 c).act s).2.cluster = k := by
  intro c w k s
  have hfailed : ((Operation.fetch 0 c).act s).1 = .error .answerMissing := rfl
  refine ⟨?_, ?_, ?_, ?_, ⟨_, hfailed⟩, ?_⟩
  · exact (asking_contract c "h:1" (w _)).2.1.mpr (.broken ⟨rfl, rfl⟩ rfl)
  · refine (asking_contract c "h:1" (w _)).2.2.1.mpr (.unfit (d := .list []) (by decide) rfl ?_)
    rintro ⟨es, hes, _⟩
    cases hes
  · exact (asking_contract c "h:1" (w (.answered 200 "[]"))).2.2.2.2.2.1
      (.inr (Json.withinLimits_of_length (by decide)))
  · exact (asking_contract c "h:1" (w _)).2.2.2.1.mpr (.answerMissing rfl)
  · exact ((asking_contract c "h:1" s.world).2.2.2.2.2.2 s 0 _ hfailed).2

end Run
end Rebalance
