import Rebalance.Net.Client
import Rebalance.Proofs.Run.World

/-!
# What asking a node for its paths comes to

* `understood`: what the outcome of one request means.
* `volumePaths_eq`: asking makes one request, the answer is what its outcome means, and apart from
  the link and the log the world stays as it is.
-/

namespace Rebalance
namespace Net
namespace Client

/-- What the outcome of a request to an address means: paths, or a failure. -/
def understood (address : String) : Outcome → Except Failure PathMap
  | .answered status body =>
    if isRefused status then .error (.rejected address status) else paths address body
  | .broke b =>
    match b.detailsFault? with
    | some fault => .error (.badDetails fault)
    | none =>
      if b.isRefusal then .error .answerMissing
      else if b.isConnection then .error (.unreachable address b)
      else .error (.escaped b)

/-- The request for the setting of a node. -/
def request (c : Client) (address : String) : Request :=
  ⟨c.url address, c.timeout⟩

/-- What is logged about the outcome of a request. -/
def outcomeRecords (address : String) : Outcome → List Log.Record
  | .answered status body =>
    if isRefused status then
      [⟨.error, (Failure.rejected address status).message⟩, ⟨.debug, "Message: " ++ body⟩]
    else
      match paths address body with
      | .error (.badAnswer address cause) =>
        [⟨.error, (Failure.badAnswer address cause).message⟩, ⟨.debug, "Payload: " ++ body⟩]
      | _ => []
  | .broke b =>
    if b.detailsFault?.isNone && !b.isRefusal && b.isConnection then
      [⟨.error, (Failure.unreachable address b).message⟩]
    else []

/-- What is logged about asking a node. -/
def records (c : Client) (address : String) (o : Outcome) : List Log.Record :=
  [⟨.info, "Reading setting " ++ c.setting ++ " from node " ++ address⟩,
   ⟨.debug, "Url=" ++ c.url address⟩] ++ outcomeRecords address o

/-- Asking a node makes one request, whose outcome decides; nothing but the link and the log of the
world changes. -/
theorem volumePaths_eq
    (c : Client)
    (address : String)
    (w : World) :
    c.volumePaths address w =
      (understood address (w.link.send (c.request address)).1,
        World.tell { w with link := (w.link.send (c.request address)).2 }
          (c.records address (w.link.send (c.request address)).1)) := by
  unfold volumePaths setting?
  simp only [Act.bind_apply, Act.log_eq, send, World.tell_link, request]
  obtain ⟨o, link⟩ := w.link.send ⟨c.url address, c.timeout⟩
  cases o with
  | answered status body =>
    cases hs : isRefused status with
    | true => simp [understood, records, outcomeRecords, hs, Act.bind_apply, Act.log_eq, World.tell]
    | false =>
      simp only [understood, records, outcomeRecords, hs, Bool.false_eq_true, if_false,
        Act.pure_apply]
      cases hp : paths address body with
      | ok m => simp [World.tell]
      | error f => cases f <;> simp [World.tell, Act.bind_apply, Act.log_eq]
  | broke b =>
    simp only [understood, records, outcomeRecords]
    cases hd : b.detailsFault? with
    | some fault => simp [World.tell]
    | none =>
      cases hr : b.isRefusal with
      | true => simp [World.tell]
      | false => cases hc : b.isConnection <;> simp [World.tell, Act.abort_eq]

/-- None of what is logged tells of a change of stage. -/
theorem quiet_records
    (c : Client)
    (address : String)
    (o : Outcome) :
    Log.Quiet (c.records address o) := by
  have hurl : (⟨.debug, "Url=" ++ c.url address⟩ : Log.Record).isMove = false :=
    Log.isMove_of_word _ _ _ fun _ => rfl
  have hmessage (body : String) : (⟨.debug, "Message: " ++ body⟩ : Log.Record).isMove = false :=
    Log.isMove_of_word _ _ _ fun _ => rfl
  have hpayload (body : String) : (⟨.debug, "Payload: " ++ body⟩ : Log.Record).isMove = false :=
    Log.isMove_of_word _ _ _ fun _ => rfl
  have herror (text : String) : (⟨.error, text⟩ : Log.Record).isMove = false :=
    Log.isMove_of_severity text (by decide)
  have hfirst (text : String) : (⟨.info, text⟩ : Log.Record).isMove = false :=
    Log.isMove_of_severity text (by decide)
  refine Log.quiet_append (Log.quiet_cons (hfirst _) (Log.quiet_cons hurl Log.quiet_nil)) ?_
  cases o with
  | answered status body =>
    simp only [outcomeRecords]
    cases hs : isRefused status with
    | true => exact Log.quiet_cons (herror _) (Log.quiet_cons (hmessage _) Log.quiet_nil)
    | false =>
      simp only [Bool.false_eq_true, if_false]
      cases paths address body with
      | ok m => exact Log.quiet_nil
      | error f =>
        cases f with
        | badAnswer address cause =>
          exact Log.quiet_cons (herror _) (Log.quiet_cons (hpayload _) Log.quiet_nil)
        | _ => exact Log.quiet_nil
  | broke b =>
    simp only [outcomeRecords]
    cases b.detailsFault?.isNone && !b.isRefusal && b.isConnection with
    | true => exact Log.quiet_cons (herror _) Log.quiet_nil
    | false => exact Log.quiet_nil

end Client

/-- A link remembers every request made. -/
theorem Link.send_requests
    (l : Link)
    (r : Request) :
    (l.send r).2.requests = l.requests ++ [r] := by
  unfold Link.send
  dsimp only
  split <;> rfl

/-- A request is answered by the first outcome to come, whatever follows it. -/
theorem Link.send_answered
    (rest : List Outcome)
    (requests : List Request)
    (body : String)
    (status : Int)
    (r : Request) :
    (Link.send ⟨.answered status body :: rest, requests⟩ r).1 = .answered status body := by
  cases rest <;> rfl

theorem isRefused_iff
    {status : Int} :
    isRefused status = true ↔ 400 ≤ status ∧ status < 600 := by
  simp [isRefused]

end Net
end Rebalance
