import Rebalance.Proofs.Run.Asking
import Rebalance.Proofs.Run.Determined

/-!
# Which answers of a node are trusted

* `World.answering`, `Session.answering`: the next request is answered with a status and a body.
* `cluster_fetch_accepted`, `execute_accepted`: a status that does not refuse the request makes no
  difference to a session or to a run.
* `trusted_answers`: only the statuses from 400 to 599 are taken for a failure, by the client, by a
  session that asks a node and by a whole run.
-/

namespace Rebalance

/-- A world whose next request is answered with a status and a body. -/
def World.answering (w : World) (rest : List Net.Outcome) (body : String) (status : Int) : World :=
  { w with link := ⟨.answered status body :: rest, w.link.requests⟩ }

/-- A session whose next request is answered with a status and a body. -/
def Run.Session.answering (s : Session) (rest : List Net.Outcome) (body : String) (status : Int) :
    Session :=
  { s with world := s.world.answering rest body status }

/-! ## The client -/

theorem Net.Client.volumePaths_answering
    (c : Net.Client)
    (address : String)
    (w : World)
    (rest : List Net.Outcome)
    (body : String)
    (status : Int) :
    (c.volumePaths address (w.answering rest body status)).1 =
      understood address (.answered status body) := by
  rw [volumePaths_eq]
  exact congrArg (understood address) (Link.send_answered rest w.link.requests body status _)

/-! ## Sessions and runs -/

namespace Run

open Net

variable {body : String} {status : Int}

theorem answer_answering
    (n : Storage.Node)
    (client : Client)
    (s : Session)
    (rest : List Net.Outcome) :
    n.answer client (s.answering rest body status).world.link =
      Client.understood n.address (.answered status body) :=
  congrArg (Client.understood n.address) (Link.send_answered rest _ body status _)

/-- A refusal leaves the cluster of a session alone. -/
theorem cluster_fetch_refused
    (s : Session)
    (rest : List Net.Outcome)
    (place : Nat)
    (client : Client)
    (h : isRefused status = true) :
    ((s.answering rest body status).after (.fetch place client)).cluster = s.cluster := by
  have hgiven : (Operation.fetch place client).given? (s.answering rest body status) = none := by
    simp only [Operation.given?, answer_answering, Client.understood_refused h]
    cases (s.answering rest body status).cluster.nodes[place]? <;> rfl
  rw [cluster_after, hgiven]
  exact withPaths_latest_nil s.cluster

/-- Two statuses that do not refuse the request give a session the same paths. -/
theorem cluster_fetch_accepted
    (s : Session)
    (rest : List Net.Outcome)
    (place : Nat)
    (client : Client)
    {status' : Int}
    (h : isRefused status = false)
    (h' : isRefused status' = false) :
    ((s.answering rest body status).after (.fetch place client)).cluster =
      ((s.answering rest body status').after (.fetch place client)).cluster := by
  have hgiven : (Operation.fetch place client).given? (s.answering rest body status) =
      (Operation.fetch place client).given? (s.answering rest body status') := by
    simp only [Operation.given?, answer_answering, Client.understood_accepted h,
      Client.understood_accepted h']
    rfl
  rw [cluster_after, cluster_after, hgiven]
  rfl

variable {c : Command} {order : Order}

/-- A run that is refused by its node does not answer. -/
theorem execute_refused
    (s : Session)
    (rest : List Net.Outcome)
    (h : isRefused status = true) :
    (c.execute order (s.answering rest body status)).1.isOk = false := by
  cases hrun : c.execute order (s.answering rest body status) with
  | mk r t =>
    cases r with
    | error f => rfl
    | ok r =>
      obtain ⟨p, _⟩ := exists_decided_of_execute hrun
      have hanswered : p.node.answer c.settings.client (s.answering rest body status).world.link =
          .ok p.map := p.answered
      rw [answer_answering, Client.understood_refused h] at hanswered
      cases hanswered

/-- Two statuses that do not refuse the request make a run answer the same and leave the same files
and cluster. -/
theorem execute_accepted
    (s : Session)
    (rest : List Net.Outcome)
    {status' : Int}
    (h : isRefused status = false)
    (h' : isRefused status' = false)
    {r : Outcome}
    (hr : (c.execute order (s.answering rest body status)).1 = .ok r) :
    let u := (c.execute order (s.answering rest body status)).2
    let u' := (c.execute order (s.answering rest body status')).2
    (c.execute order (s.answering rest body status')).1 = .ok r ∧
      u'.world.files = u.world.files ∧ u'.cluster = u.cluster := by
  intro u u'
  have hremade (p : Decided c order (s.answering rest body status).standing) :
      p.node.answer c.settings.client (s.answering rest body status').standing.sight.link =
        .ok p.map := by
    have hanswered : p.node.answer c.settings.client (s.answering rest body status).world.link =
        .ok p.map := p.answered
    rw [answer_answering, Client.understood_accepted h] at hanswered
    show p.node.answer c.settings.client (s.answering rest body status').world.link = _
    rw [answer_answering, Client.understood_accepted h', hanswered]
  obtain ⟨t', hrun, hfiles, hcluster⟩ : ∃ t',
      c.execute order (s.answering rest body status') = (.ok r, t') ∧
        t'.world.files = u.world.files ∧ t'.cluster = u.cluster :=
    execute_remade (Prod.ext hr rfl) fun p =>
      p.remake rfl p.loaded p.found p.there (hremade p) rfl p.stored p.decided
  exact ⟨congrArg Prod.fst hrun, (congrArg (fun x => x.2.world.files) hrun).trans hfiles,
    (congrArg (fun x => x.2.cluster) hrun).trans hcluster⟩

/-- A status from 400 to 599 is the only one that is taken for a failure of the connection: asking a
node then gives no paths, a session keeps its cluster and a run does not answer.  With any other
status the body decides alone, as it does with status 200: the paths it spells are given by the
client, put into the cluster of a session and used by a run. -/
theorem trusted_answers
    (client : Client)
    (address : String)
    (w : World)
    (rest : List Net.Outcome)
    (body : String)
    (status : Int) :
    let answer (status : Int) := (client.volumePaths address (w.answering rest body status)).1
    let refused := 400 ≤ status ∧ status < 600
    (answer status = .error (.rejected address status) ↔ refused) ∧
      ((∃ f, answer status = .error f ∧ f.kind? = some .noConnection) ↔ refused) ∧
      ((∃ m, answer status = .ok m) ↔
        ¬ refused ∧ ∃ d, Json.readString body = .ok d ∧ IsTextMap d) ∧
      (¬ refused → answer status = answer 200) ∧
      (∀ (s : Session) place,
        let cluster (status : Int) :=
          ((s.answering rest body status).after (.fetch place client)).cluster
        (refused → cluster status = s.cluster) ∧ (¬ refused → cluster status = cluster 200)) ∧
      ∀ (c : Command) (order : Order) (s : Session),
        let run (status : Int) := c.execute order (s.answering rest body status)
        (refused → (run status).1.isOk = false) ∧
          (¬ refused → ∀ r, (run status).1 = .ok r ↔ (run 200).1 = .ok r) ∧
          ((run status).1.isOk = true → (run status).2.world.files = (run 200).2.world.files ∧
            (run status).2.cluster = (run 200).2.cluster) := by
  intro answer refused
  have hanswer (status : Int) : answer status = Client.understood address (.answered status body) :=
    Client.volumePaths_answering client address w rest body status
  have hok : isRefused 200 = false := rfl
  by_cases hstatus : refused
  · have hrefused : isRefused status = true := isRefused_iff.mpr hstatus
    have hrejected : answer status = .error (.rejected address status) :=
      (hanswer status).trans (Client.understood_refused hrefused)
    refine ⟨iff_of_true hrejected hstatus, iff_of_true ⟨_, hrejected, rfl⟩ hstatus, ?_,
      fun h => absurd hstatus h, ?_, ?_⟩
    · rw [hrejected]
      simp [hstatus]
    · intro s place cluster
      exact ⟨fun _ => cluster_fetch_refused s rest place client hrefused, fun h => absurd hstatus h⟩
    · intro c order s run
      have hfails : (run status).1.isOk = false := execute_refused s rest hrefused
      refine ⟨fun _ => hfails, fun h => absurd hstatus h, ?_⟩
      intro hanswers
      rw [hfails] at hanswers
      cases hanswers
  · have haccepted : isRefused status = false := by
      rw [Bool.eq_false_iff, ne_eq, isRefused_iff]
      exact hstatus
    have hpaths : answer status = Client.paths address body :=
      (hanswer status).trans (Client.understood_accepted haccepted)
    have hkind : ¬ ∃ f, answer status = .error f ∧ f.kind? = some .noConnection := by
      rintro ⟨f, hf, hkind⟩
      exact Client.kind?_of_paths_error (hpaths.symm.trans hf) hkind
    refine ⟨iff_of_false (fun h => hkind ⟨_, h, rfl⟩) hstatus, iff_of_false hkind hstatus, ?_,
      fun _ => hpaths.trans ((hanswer 200).trans (Client.understood_accepted hok)).symm, ?_, ?_⟩
    · rw [hpaths, Client.exists_paths_iff]
      simp [hstatus]
    · intro s place cluster
      exact ⟨fun h => absurd h hstatus,
        fun _ => cluster_fetch_accepted s rest place client haccepted hok⟩
    · intro c order s run
      refine ⟨fun h => absurd h hstatus, ?_, ?_⟩
      · intro _ r
        exact ⟨fun h => (execute_accepted s rest haccepted hok h).1,
          fun h => (execute_accepted s rest hok haccepted h).1⟩
      · intro hanswers
        cases hr : (run status).1 with
        | error f =>
          rw [hr] at hanswers
          cases hanswers
        | ok r =>
          obtain ⟨_, hfiles, hcluster⟩ := execute_accepted s rest haccepted hok hr
          exact ⟨hfiles.symm, hcluster.symm⟩

/-- The same map of texts with a redirection and with a refusal: the paths of the one are taken,
those of the other are not. -/
theorem trusted_answers_redirected :
    let client : Client := ⟨"S", "http", 10⟩
    let w : World := ⟨⟨[], []⟩, ⟨[], []⟩, ⟨2024, 1, 31, 12, 0, 59, 0, none⟩, []⟩
    let body := "\x7b\"v\": \"/a\"\x7d"
    let answer (status : Int) := (client.volumePaths "h:1" (w.answering [] body status)).1
    (answer 304).toOption = some [("v", some "/a")] ∧ answer 404 = .error (.rejected "h:1" 404) := by
  intro client w body answer
  have hpaths : (answer 200).toOption = some [("v", some "/a")] := by decide +kernel
  obtain ⟨-, -, -, hsame, -⟩ := trusted_answers client "h:1" w [] body 304
  obtain ⟨hrejected, -⟩ := trusted_answers client "h:1" w [] body 404
  refine ⟨?_, hrejected.mpr (by decide)⟩
  exact (congrArg Except.toOption (hsame (by decide))).trans hpaths

end Run
end Rebalance
