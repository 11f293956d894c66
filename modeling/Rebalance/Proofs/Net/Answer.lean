import Rebalance.Proofs.Json.Spelled
import Rebalance.Proofs.Net.Client
import Rebalance.Proofs.Schema.Reading

/-!
# How asking a node for its paths ends

* `PathMap.exists_read_iff`: a JSON value is read as paths just when it is an object of texts, and
  then every volume it names has a path.
* `NotReached`, `NotUnderstood`, `Escapes`: the outcomes of a request that make a failure of the
  connection, an unreadable answer, and a failure without a kind.
* `Client.understood_sorted`: the kind of a failure tells which of the three the outcome is.
* `Client.understood_refused`, `Client.understood_accepted`: what a status says, and what it leaves
  to the body.
-/

namespace Rebalance
namespace Net

open Schema Schema.Checked

/-! ## Maps of texts -/

/-- Whether a value maps its keys to texts. -/
def IsTextMap (d : Data) : Prop :=
  ∃ es, d = .map es ∧ ∀ e ∈ es, ∃ s, e.2 = .text s

/-- The paths that were read are texts. -/
theorem PathMap.isSome_of_read
    {d : Data}
    {m : PathMap}
    (h : PathMap.read d = .ok m) :
    ∀ e ∈ m, e.2.isSome := by
  intro e he
  obtain ⟨value, hvalue⟩ := (readMap_ok h).2 e he
  obtain ⟨path, -, hpath⟩ := map_ok hvalue
  rw [← hpath]
  rfl

theorem readEntries_of_texts
    {es : List (Data × Data)}
    (h : ∀ e ∈ es, (∃ k, e.1 = .text k) ∧ ∃ s, e.2 = .text s) :
    ∃ xs, readEntries readText (fun d => some <$> readText d) es = .ok xs := by
  induction es with
  | nil => exact ⟨[], rfl⟩
  | cons e es ih =>
    obtain ⟨⟨⟨k, hk⟩, s, hs⟩, hes⟩ := List.forall_mem_cons.mp h
    obtain ⟨xs, hxs⟩ := ih hes
    obtain ⟨key, value⟩ := e
    dsimp only at hk hs
    subst hk hs
    refine ⟨(k, some s) :: xs, ?_⟩
    rw [readEntries, hxs]
    rfl

theorem texts_of_readEntries
    {es : List (Data × Data)}
    {xs : List (String × Option String)}
    (h : readEntries readText (fun d => some <$> readText d) es = .ok xs) :
    ∀ e ∈ es, ∃ s, readText e.2 = .ok s := by
  induction es generalizing xs with
  | nil => exact List.forall_mem_nil _
  | cons e es ih =>
    obtain ⟨key, value⟩ := e
    obtain ⟨g, ys, hg, hys, -⟩ := seq_ok h
    obtain ⟨y, hy, -⟩ := map_ok hg
    obtain ⟨g', path, -, hpath, -⟩ := seq_ok hy
    obtain ⟨s, hs, -⟩ := map_ok (under_ok hpath)
    exact List.forall_mem_cons.mpr ⟨⟨s, hs⟩, ih hys⟩

/-- A value of a JSON text is read as paths just when it is an object of texts. -/
theorem PathMap.exists_read_iff
    {cs : List Char}
    {d : Data}
    (hread : Json.read cs = .ok d) :
    (∃ m, PathMap.read d = .ok m) ↔ IsTextMap d := by
  constructor
  · rintro ⟨m, hm⟩
    cases d with
    | map es =>
      refine ⟨es, rfl, ?_⟩
      intro e he
      obtain ⟨xs, hxs, -⟩ := map_ok hm
      obtain ⟨s, hs⟩ := texts_of_readEntries hxs e he
      have hspelled := (Json.isSpelled_of_read hread).value e he
      cases hvalue : e.2 with
      | text t => exact ⟨t, rfl⟩
      | bytes bs =>
        rw [hvalue] at hspelled
        cases hspelled
      | _ =>
        rw [hvalue] at hs
        cases hs
    | _ => cases hm
  · rintro ⟨es, rfl, htexts⟩
    obtain ⟨xs, hxs⟩ := readEntries_of_texts fun e he =>
      ⟨(Json.isSpelled_of_read hread).key e he, htexts e he⟩
    refine ⟨xs.foldl (fun acc e => put e.1 e.2 acc) [], ?_⟩
    unfold PathMap.read readMap
    dsimp only
    rw [hxs]
    rfl

/-! ## Outcomes of a request -/

/-- Whether a failure is one of a connection, with details that fit its kind. -/
structure Breakdown.IsProper (b : Breakdown) : Prop where
  connection : b.isConnection = true
  details : b.detailsFault? = none

/-- Whether a node is not reached: it refuses the request, or the connection fails before it
answers. -/
inductive NotReached : Outcome → Prop
  | refused
    {status : Int}
    {body : String}
    (refusal : isRefused status = true) :
    NotReached (.answered status body)
  | broken
    {b : Breakdown}
    (proper : b.IsProper)
    (answered : b.isRefusal = false) :
    NotReached (.broke b)

/-- Whether a node answers with something else than a map of texts. -/
inductive NotUnderstood : Outcome → Prop
  | malformed
    {status : Int}
    {body : String}
    {lapse : Json.Lapse}
    {place : Text.Place}
    (accepted : isRefused status = false)
    (text : Json.readString body = .error (.malformed lapse place)) :
    NotUnderstood (.answered status body)
  | unfit
    {status : Int}
    {body : String}
    {d : Data}
    (accepted : isRefused status = false)
    (text : Json.readString body = .ok d)
    (value : ¬ IsTextMap d) :
    NotUnderstood (.answered status body)

/-- Whether the failure is the refusal of an answer that never came, or no proper failure of a
connection, or the answer goes beyond a limit of the reader. -/
inductive Escapes : Outcome → Prop
  | answerMissing
    {b : Breakdown}
    (refusal : b.isRefusal = true) :
    Escapes (.broke b)
  | improper
    {b : Breakdown}
    (improper : ¬ b.IsProper) :
    Escapes (.broke b)
  | beyond
    {status : Int}
    {body : String}
    {fault : Json.Fault}
    (accepted : isRefused status = false)
    (text : Json.readString body = .error fault)
    (limit : ∀ lapse place, fault ≠ .malformed lapse place) :
    Escapes (.answered status body)

/-- Whether a request ends as the client expects it to: with an answer that is refused or within the
limits of the reader, or with a proper failure that refuses nothing. -/
def Outcome.IsExpected : Outcome → Prop
  | .answered status body => isRefused status = true ∨ Json.WithinLimits body.toList
  | .broke b => b.IsProper ∧ b.isRefusal = false

/-- What is expected does not escape. -/
theorem Outcome.IsExpected.not_escapes
    {o : Outcome}
    (h : o.IsExpected) :
    ¬ Escapes o := by
  rintro (hrefusal | himproper | ⟨haccepted, htext, hlimit⟩)
  · simp [IsExpected, hrefusal] at h
  · exact himproper h.1
  · rcases h with hrefused | hlimits
    · simp [haccepted] at hrefused
    · obtain ⟨lapse, place, hfault⟩ := Json.exists_malformed hlimits htext
      exact hlimit lapse place hfault

/-- A refusal says nothing of where a decoder stopped. -/
theorem Breakdown.detailsFault?_of_isRefusal
    {b : Breakdown}
    (h : b.isRefusal = true) :
    b.detailsFault? = none := by
  have hkind : b.kind = "HTTPError" := by simpa [isRefusal] using h
  simp [detailsFault?, decoderKinds, hkind]

namespace Client

variable {o : Outcome} (address : String)

theorem understood_of_notReached
    (h : NotReached o) :
    ∃ f, understood address o = .error f ∧ f.kind? = some .noConnection := by
  rcases h with hrefusal | ⟨hproper, hanswered⟩
  · simp [understood, hrefusal, Failure.kind?]
  · simp [understood, hproper.details, hproper.connection, hanswered, Failure.kind?]

theorem understood_of_notUnderstood
    (h : NotUnderstood o) :
    ∃ f, understood address o = .error f ∧ f.kind? = some .unreadableAnswer := by
  rcases h with ⟨haccepted, htext⟩ | ⟨haccepted, htext, hvalue⟩
  · simp [understood, haccepted, paths, htext, Failure.kind?]
  · have hread := (not_congr (PathMap.exists_read_iff htext)).mpr hvalue
    cases hpaths : PathMap.read _ with
    | ok m => exact absurd ⟨m, hpaths⟩ hread
    | wrong issues => simp [understood, haccepted, paths, htext, hpaths, Failure.kind?]

theorem understood_of_escapes
    (h : Escapes o) :
    ∃ f, understood address o = .error f ∧ f.kind? = none := by
  rcases h with @⟨b, hrefusal⟩ | @⟨b, himproper⟩ | @⟨_, _, fault, haccepted, htext, hlimit⟩
  · simp [understood, Breakdown.detailsFault?_of_isRefusal hrefusal, hrefusal, Failure.kind?]
  · cases hdetails : b.detailsFault? with
    | some fault => simp [understood, hdetails, Failure.kind?]
    | none =>
      have hconnection : b.isConnection = false :=
        Bool.eq_false_iff.mpr fun hc => himproper ⟨hc, hdetails⟩
      cases hrefusal : b.isRefusal with
      | true => simp [understood, hdetails, hrefusal, Failure.kind?]
      | false => simp [understood, hdetails, hrefusal, hconnection, Failure.kind?]
  · cases fault with
    | malformed lapse place => exact absurd rfl (hlimit lapse place)
    | _ => simp [understood, haccepted, paths, htext, Failure.kind?]

/-- Every outcome that gives no paths is one of the three. -/
theorem cases_of_understood
    {f : Failure}
    (h : understood address o = .error f) :
    NotReached o ∨ NotUnderstood o ∨ Escapes o := by
  cases o with
  | answered status body =>
    cases hstatus : isRefused status with
    | true => exact .inl (.refused hstatus)
    | false =>
      cases htext : Json.readString body with
      | error fault =>
        cases fault with
        | malformed lapse place => exact .inr (.inl (.malformed hstatus htext))
        | _ => exact .inr (.inr (.beyond hstatus htext (by simp)))
      | ok d =>
        refine .inr (.inl (.unfit hstatus htext ?_))
        intro hvalue
        obtain ⟨m, hm⟩ := (PathMap.exists_read_iff htext).mpr hvalue
        simp [understood, hstatus, paths, htext, hm] at h
  | broke b =>
    by_cases hproper : b.IsProper
    · cases hrefusal : b.isRefusal with
      | true => exact .inr (.inr (.answerMissing hrefusal))
      | false => exact .inl (.broken hproper hrefusal)
    · exact .inr (.inr (.improper hproper))

/-- The kind of a failure tells which of the three an outcome is. -/
theorem understood_sorted :
    ((∃ f, understood address o = .error f ∧ f.kind? = some .noConnection) ↔ NotReached o) ∧
      ((∃ f, understood address o = .error f ∧ f.kind? = some .unreadableAnswer) ↔
        NotUnderstood o) ∧
      ((∃ f, understood address o = .error f ∧ f.kind? = none) ↔ Escapes o) ∧
      ∀ f, understood address o = .error f → f.kind? = some .noConnection ∨
        f.kind? = some .unreadableAnswer ∨ f.kind? = none :=
  Failure.sorted_by_kind (by decide) (understood_of_notReached address)
    (understood_of_notUnderstood address) (understood_of_escapes address)
    fun _ => cases_of_understood address

/-- The paths of a node are texts. -/
theorem isSome_of_understood
    {m : PathMap}
    (h : understood address o = .ok m) :
    ∀ e ∈ m, e.2.isSome := by
  cases o with
  | answered status body =>
    simp only [understood, paths] at h
    split at h
    · cases h
    · split at h
      · cases h
      · cases h
      · split at h
        · cases h
          exact PathMap.isSome_of_read ‹_›
        · cases h
  | broke b =>
    simp only [understood] at h
    split at h
    · cases h
    · split at h
      · cases h
      · split at h <;> cases h

end Client

/-! ## Answers by their status -/

namespace Client

variable {address body : String} {status : Int}

theorem understood_refused
    (h : isRefused status = true) :
    understood address (.answered status body) = .error (.rejected address status) := by
  simp [understood, h]

/-- What is not refused is understood by its body alone. -/
theorem understood_accepted
    (h : isRefused status = false) :
    understood address (.answered status body) = paths address body := by
  simp [understood, h]

theorem exists_paths_iff :
    (∃ m, paths address body = .ok m) ↔ ∃ d, Json.readString body = .ok d ∧ IsTextMap d := by
  constructor
  · rintro ⟨m, hm⟩
    unfold paths at hm
    split at hm
    · cases hm
    · cases hm
    · next d hread =>
      split at hm
      · next hpaths => exact ⟨d, hread, (PathMap.exists_read_iff hread).mp ⟨_, hpaths⟩⟩
      · cases hm
  · rintro ⟨d, hread, htexts⟩
    obtain ⟨m, hm⟩ := (PathMap.exists_read_iff hread).mpr htexts
    exact ⟨m, by simp [paths, hread, hm]⟩

/-- A body is never taken for a failure of the connection. -/
theorem kind?_of_paths_error
    {f : Failure}
    (h : paths address body = .error f) :
    f.kind? ≠ some .noConnection := by
  intro hkind
  have haccepted : isRefused 200 = false := rfl
  rw [← understood_accepted haccepted] at h
  rcases (understood_sorted address).1.mp ⟨f, h, hkind⟩ with ⟨hrefused⟩
  rw [haccepted] at hrefused
  cases hrefused

end Client
end Net
end Rebalance
