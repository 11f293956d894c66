import Mathlib.Data.List.Induction
import Rebalance.Proofs.Json.Exceeding
import Rebalance.Proofs.Json.Plain
import Rebalance.Proofs.Run.Trust

/-!
# What a node's answer is decoded as

* `lastValue?`: the last value that entries give to a key.
* `ofEntries_eq`: entries written one after the other are the keys in the order in which they first
  stand, each with its last value.
* `PathMap.ofEntries`: the paths that entries give; `AreTexts` says that there are some.
* `paths_ok_iff`, `paths_bad_iff`, `paths_limit_iff`: when a body is decoded, when it is refused,
  and when it goes beyond a limit of the reader.
* `Client.decodes_answers`: the same of fetching, for every status of a success.
-/

namespace Rebalance

open Json

/-! ## Keys in their order -/

theorem eraseDups_concat
    (ks : List String)
    (k : String) :
    (ks ++ [k]).eraseDups = if k ∈ ks then ks.eraseDups else ks.eraseDups ++ [k] := by
  rw [List.eraseDups_append]
  by_cases hk : k ∈ ks
  · simp [List.removeAll, hk]
  · simp [List.removeAll, hk, List.eraseDups_cons]

theorem nodup_eraseDups
    (ks : List String) :
    ks.eraseDups.Nodup := by
  induction ks using List.reverseRecOn with
  | nil => exact List.nodup_nil
  | append_singleton ks k ih =>
    rw [eraseDups_concat]
    split
    · exact ih
    · next hk =>
      rw [List.nodup_append]
      refine ⟨ih, List.pairwise_singleton _ k, ?_⟩
      intro x hx y hy hxy
      rw [List.mem_singleton] at hy
      exact hk (List.mem_eraseDups.mp (hy ▸ hxy ▸ hx))

/-! ## The last value of a key -/

/-- The last value that entries give to a key. -/
def lastValue? (es : List (String × Data)) (k : String) : Option Data :=
  es.reverse.lookup k

theorem lastValue?_concat
    (es : List (String × Data))
    (e : String × Data)
    (k : String) :
    lastValue? (es ++ [e]) k = if k = e.1 then some e.2 else lastValue? es k := by
  unfold lastValue?
  rw [List.reverse_append, List.reverse_singleton, List.singleton_append, List.lookup_cons]
  by_cases hk : k = e.1
  · simp [hk]
  · simp [hk, beq_eq_false_iff_ne.mpr hk]

/-- Every key among entries has a last value. -/
theorem exists_lastValue?_iff
    {es : List (String × Data)}
    {k : String} :
    (∃ d, lastValue? es k = some d) ↔ k ∈ es.map Prod.fst := by
  induction es using List.reverseRecOn with
  | nil => simp [lastValue?]
  | append_singleton es e ih =>
    rw [lastValue?_concat, List.map_append, List.mem_append, ← ih]
    by_cases hk : k = e.1
    · simp [hk]
    · simp [hk]

/-- An entry put among others takes the place of the one with its key, or the last place. -/
theorem put_keyed
    {ks : List String}
    (hdistinct : ks.Nodup)
    (f : String → Data)
    (k : String)
    (v : Data) :
    Data.put (.text k) v (ks.map fun x => (.text x, f x))
      = (if k ∈ ks then ks else ks ++ [k]).map fun x => (.text x, if x = k then v else f x) := by
  induction ks with
  | nil => simp [Data.put]
  | cons x ks ih =>
    obtain ⟨hx, hks⟩ := List.nodup_cons.mp hdistinct
    rw [List.map_cons, Data.put]
    by_cases hk : x = k
    · subst hk
      have hsame : (Data.text x).same (.text x) = true := beq_self_eq_true x
      have hrest : ∀ y ∈ ks, y ≠ x := fun y hy he => hx (he ▸ hy)
      rw [if_pos hsame, if_pos List.mem_cons_self, List.map_cons, if_pos rfl]
      congr 1
      exact List.map_congr_left fun y hy => by rw [if_neg (hrest y hy)]
    · have hsame : ¬ (Data.text x).same (.text k) = true := fun he => hk (eq_of_beq he)
      rw [if_neg hsame, ih hks]
      by_cases hmem : k ∈ ks
      · simp [hmem, hk]
      · simp [hmem, hk, Ne.symm hk]

/-- Entries written one after the other are the keys in the order in which they first stand, each
with its last value. -/
theorem ofEntries_eq
    (es : List (String × Data)) :
    Data.ofEntries (es.map textEntry)
      = (es.map Prod.fst).eraseDups.map fun k => (.text k, (lastValue? es k).getD .null) := by
  induction es using List.reverseRecOn with
  | nil => rfl
  | append_singleton es e ih =>
    have hlast : Data.ofEntries ((es ++ [e]).map textEntry)
        = Data.put (.text e.1) e.2 (Data.ofEntries (es.map textEntry)) := by
      rw [List.map_append, Data.ofEntries, List.foldl_append]
      rfl
    rw [hlast, ih, put_keyed (nodup_eraseDups _), List.map_append, List.map_singleton,
      eraseDups_concat]
    simp only [List.mem_eraseDups]
    refine List.map_congr_left ?_
    intro k _
    rw [lastValue?_concat]
    split <;> rfl

namespace Net

open Schema

/-! ## Paths of entries -/

/-- Whether the last value of every key is a text. -/
def AreTexts (es : List (String × Data)) : Prop :=
  ∀ k d, lastValue? es k = some d → ∃ s, d = .text s

/-- The paths that entries give: the keys in the order in which they first stand, each with its last
value. -/
def PathMap.ofEntries (es : List (String × Data)) : PathMap :=
  (es.map Prod.fst).eraseDups.map fun k => (k, (lastValue? es k).bind Run.Lookup.text?)

/-- The entries of an object are texts just when the last value of every key is one. -/
theorem isTextMap_iff
    {es : List (String × Data)} :
    IsTextMap (.map (Data.ofEntries (es.map textEntry))) ↔ AreTexts es := by
  rw [ofEntries_eq]
  constructor
  · rintro ⟨fs, hfs, htexts⟩ k d hd
    cases hfs
    have hmem : k ∈ (es.map Prod.fst).eraseDups :=
      List.mem_eraseDups.mpr (exists_lastValue?_iff.mp ⟨d, hd⟩)
    obtain ⟨s, hs⟩ := htexts _ (List.mem_map_of_mem hmem)
    rw [hd] at hs
    exact ⟨s, hs⟩
  · intro htexts
    refine ⟨_, rfl, ?_⟩
    intro e he
    obtain ⟨k, hk, rfl⟩ := List.mem_map.mp he
    obtain ⟨d, hd⟩ := exists_lastValue?_iff.mpr (List.mem_eraseDups.mp hk)
    obtain ⟨s, rfl⟩ := htexts k d hd
    exact ⟨s, by rw [hd]; rfl⟩

/-- Paths that are all known are read from their own document. -/
theorem PathMap.read_toData
    {m : PathMap}
    (hdistinct : (m.map Prod.fst).Nodup)
    (hknown : ∀ e ∈ m, e.2.isSome) :
    PathMap.read m.toData = .ok m := by
  refine @readMap_map _ (fun d => some <$> readText d) (fun p => (p.map Data.text).getD .null) _
    hdistinct ?_
  intro e he
  obtain ⟨s, hs⟩ := Option.isSome_iff_exists.mp (hknown e he)
  rw [hs]
  rfl

theorem PathMap.keys_ofEntries
    (es : List (String × Data)) :
    (PathMap.ofEntries es).map Prod.fst = (es.map Prod.fst).eraseDups := by
  simp [PathMap.ofEntries, Function.comp_def]

/-- Entries that are texts are read as the paths that they give. -/
theorem PathMap.read_ofEntries
    {es : List (String × Data)}
    (h : AreTexts es) :
    PathMap.read (.map (Data.ofEntries (es.map textEntry))) = .ok (PathMap.ofEntries es) := by
  have hvalue (k : String) (hk : k ∈ (es.map Prod.fst).eraseDups) :
      ∃ s, lastValue? es k = some (.text s) := by
    obtain ⟨d, hd⟩ := exists_lastValue?_iff.mpr (List.mem_eraseDups.mp hk)
    obtain ⟨s, rfl⟩ := h k d hd
    exact ⟨s, hd⟩
  have hdata : Data.map (Data.ofEntries (es.map textEntry)) = (PathMap.ofEntries es).toData := by
    rw [ofEntries_eq, PathMap.toData, PathMap.ofEntries, List.map_map]
    refine congrArg Data.map (List.map_congr_left ?_)
    intro k hk
    obtain ⟨s, hs⟩ := hvalue k hk
    simp [hs, Run.Lookup.text?]
  rw [hdata]
  refine PathMap.read_toData (PathMap.keys_ofEntries es ▸ nodup_eraseDups _) ?_
  intro e he
  obtain ⟨k, hk, rfl⟩ := List.mem_map.mp he
  obtain ⟨s, hs⟩ := hvalue k hk
  simp [hs, Run.Lookup.text?]

/-! ## Bodies -/

/-- Whether a body is the text of an object in which the last value of every key is a text. -/
def IsTextObject (body : String) (es : List (String × Data)) : Prop :=
  IsText body.toList (.object es) ∧ AreTexts es

namespace Client

variable {address body : String}

/-- A body is decoded just when it spells entries that are texts, and then as the paths that they
give. -/
theorem paths_ok_iff
    {m : PathMap} :
    paths address body = .ok m ↔ ∃ es, IsTextObject body es ∧ PathMap.ofEntries es = m := by
  have hdecoded {es : List (String × Data)} (h : IsTextObject body es) :
      paths address body = .ok (PathMap.ofEntries es) := by
    have hread : Json.readString body = .ok (.map (Data.ofEntries (es.map textEntry))) :=
      read_eq_iff.mpr (isText_map_iff.mpr ⟨es, h.1, rfl⟩)
    simp [paths, hread, PathMap.read_ofEntries h.2]
  constructor
  · intro hm
    obtain ⟨d, hread, fs, rfl, htexts⟩ := exists_paths_iff.mp ⟨m, hm⟩
    obtain ⟨es, hobject, rfl⟩ := isText_map_iff.mp (read_eq_iff.mp hread)
    have hes : IsTextObject body es := ⟨hobject, isTextMap_iff.mp ⟨_, rfl, htexts⟩⟩
    rw [hdecoded hes] at hm
    exact ⟨es, hes, Except.ok.inj hm⟩
  · rintro ⟨es, hes, rfl⟩
    exact hdecoded hes

/-- A body goes beyond a limit of the reader just when it is excessive. -/
theorem paths_limit_iff :
    (∃ fault, paths address body = .error (.json fault)) ↔ IsExcessive body.toList := by
  rw [← limit_iff_isExcessive]
  constructor
  · rintro ⟨fault, h⟩
    unfold paths at h
    split at h
    · cases h
    · next fault' hlimit hread =>
      exact ⟨_, hread, hlimit⟩
    · split at h <;> cases h
  · rintro ⟨fault, hread, hlimit⟩
    have hstring : Json.readString body = .error fault := hread
    cases fault with
    | malformed lapse place => exact absurd rfl (hlimit lapse place)
    | tooDeep b => exact ⟨_, by simp [paths, hstring]; rfl⟩
    | tooManyDigits n => exact ⟨_, by simp [paths, hstring]; rfl⟩

/-- A body is decoded, or it is a bad answer, or it goes beyond a limit. -/
theorem paths_cases :
    (∃ m, paths address body = .ok m) ∨
      (∃ cause, paths address body = .error (.badAnswer address cause)) ∨
        ∃ fault, paths address body = .error (.json fault) := by
  unfold paths
  split
  · exact .inr (.inl ⟨_, rfl⟩)
  · exact .inr (.inr ⟨_, rfl⟩)
  · split
    · exact .inl ⟨_, rfl⟩
    · exact .inr (.inl ⟨_, rfl⟩)

theorem paths_bad_iff :
    (∃ cause, paths address body = .error (.badAnswer address cause)) ↔
      (¬ ∃ es, IsTextObject body es) ∧ ¬ IsExcessive body.toList := by
  constructor
  · rintro ⟨cause, h⟩
    constructor
    · rintro ⟨es, hes⟩
      rw [paths_ok_iff.mpr ⟨es, hes, rfl⟩] at h
      cases h
    · intro hexcessive
      obtain ⟨fault, hfault⟩ := paths_limit_iff.mpr hexcessive
      rw [hfault] at h
      cases h
  · rintro ⟨hspells, hexcessive⟩
    rcases @paths_cases address body with ⟨m, hm⟩ | hbad | hlimit
    · obtain ⟨es, hes, -⟩ := paths_ok_iff.mp hm
      exact absurd ⟨es, hes⟩ hspells
    · exact hbad
    · exact absurd (paths_limit_iff.mp hlimit) hexcessive

end Client

/-! ## Answers -/

/-- Paths as a map that knows every one of them. -/
def PathMap.ofTexts (m : List (String × String)) : PathMap :=
  m.map fun e => (e.1, some e.2)

theorem PathMap.toData_ofTexts
    (m : List (String × String)) :
    (PathMap.ofTexts m).toData = .map ((m.map fun e => (e.1, Data.text e.2)).map textEntry) := by
  simp [PathMap.toData, PathMap.ofTexts, textEntry]

/-- A map of texts that can be written is decoded from its own text. -/
theorem Client.paths_document
    {m : List (String × String)}
    (hdistinct : (m.map Prod.fst).Nodup)
    (hwritable : ∀ e ∈ m, Text.hasSurrogate e.1 = false ∧ Text.hasSurrogate e.2 = false)
    (address : String) :
    ∃ text, Json.document (PathMap.ofTexts m).toData = .ok text ∧
      paths address text = .ok (PathMap.ofTexts m) := by
  have hstorable : Storable 1 (PathMap.ofTexts m).toData := by
    rw [PathMap.toData_ofTexts]
    refine .map (by simpa [Function.comp_def] using hdistinct) ?_
    intro e he
    obtain ⟨x, -, rfl⟩ := List.mem_map.mp he
    exact .text x.2
  have hwritten : unwritten? (PathMap.ofTexts m).toData = none := by
    rw [PathMap.toData_ofTexts, unwritten?_map]
    intro e he
    obtain ⟨x, hx, rfl⟩ := List.mem_map.mp he
    obtain ⟨hkey, hvalue⟩ := hwritable x hx
    exact ⟨hkey, by simp [unwritten?, hvalue]⟩
  have hdocument : Json.document (PathMap.ofTexts m).toData
      = .ok (String.ofList (write 0 (PathMap.ofTexts m).toData)) := by
    rw [document, hwritten]
  have hread : Json.readString (String.ofList (write 0 (PathMap.ofTexts m).toData))
      = .ok (PathMap.ofTexts m).toData :=
    read_document hstorable (by decide) hdocument
  have hpaths : PathMap.read (PathMap.ofTexts m).toData = .ok (PathMap.ofTexts m) := by
    refine PathMap.read_toData (by simpa [PathMap.ofTexts, Function.comp_def] using hdistinct) ?_
    intro e he
    obtain ⟨x, -, rfl⟩ := List.mem_map.mp he
    rfl
  exact ⟨_, hdocument, by simp [paths, hread, hpaths]⟩

/-- An answer of success is decoded just when its body is the text of an object in which the last
value of every key is a text, and each key is then given its last value.  Every other body that
stays within the limits of the reader is a bad answer.  A map of texts that was written is decoded
as it was. -/
theorem Client.decodes_answers
    (c : Client)
    (address : String)
    (w : World)
    (rest : List Outcome)
    {status : Int}
    (h : 200 ≤ status ∧ status ≤ 299) :
    let fetched (body : String) := (c.volumePaths address (w.answering rest body status)).1
    (∀ body m, fetched body = .ok m ↔ ∃ es, IsTextObject body es ∧ PathMap.ofEntries es = m) ∧
      (∀ body, (∃ cause, fetched body = .error (.badAnswer address cause)) ↔
        (¬ ∃ es, IsTextObject body es) ∧ ¬ IsExcessive body.toList) ∧
      (∀ body, (∃ fault, fetched body = .error (.json fault)) ↔ IsExcessive body.toList) ∧
      ∀ m : List (String × String), (m.map Prod.fst).Nodup →
        (∀ e ∈ m, Text.hasSurrogate e.1 = false ∧ Text.hasSurrogate e.2 = false) →
          ∃ text, Json.document (PathMap.ofTexts m).toData = .ok text ∧
            fetched text = .ok (PathMap.ofTexts m) := by
  intro fetched
  have haccepted : isRefused status = false := by
    rw [Bool.eq_false_iff, ne_eq, isRefused_iff]
    omega
  have hfetched (body : String) : fetched body = paths address body :=
    (volumePaths_answering c address w rest body status).trans (understood_accepted haccepted)
  refine ⟨fun body m => ?_, fun body => ?_, fun body => ?_, fun m hdistinct hwritable => ?_⟩
  · rw [hfetched]
    exact paths_ok_iff
  · rw [hfetched]
    exact paths_bad_iff
  · rw [hfetched]
    exact paths_limit_iff
  · obtain ⟨text, hdocument, hpaths⟩ := paths_document hdistinct hwritable address
    exact ⟨text, hdocument, (hfetched text).trans hpaths⟩

/-- A key that comes twice keeps its last value, in which two escapes are one character.  A value
that is no text makes a bad answer. -/
theorem Client.decodes_escapes :
    let client : Client := ⟨"S", "http", 10⟩
    let w : World := ⟨⟨[], []⟩, ⟨[], []⟩, ⟨2024, 1, 31, 12, 0, 59, 0, none⟩, []⟩
    let fetched (body : String) := (client.volumePaths "h:1" (w.answering [] body 200)).1
    (∃ es, IsTextObject "\x7b\"v\": 1, \"k\": \"a\", \"v\" :\"\\ud83d\\ude00\\n\" \x7d" es ∧
        PathMap.ofEntries es = [("v", some "😀\n"), ("k", some "a")]) ∧
      ∃ cause, fetched "\x7b\"k\": \"a\", \"v\": null\x7d" = .error (.badAnswer "h:1" cause) := by
  intro client w fetched
  have hstatus : (200 : Int) ≤ 200 ∧ (200 : Int) ≤ 299 := by decide
  obtain ⟨hok, hbad, hlimit, -⟩ := decodes_answers client "h:1" w [] hstatus
  have hkind : (match fetched "\x7b\"k\": \"a\", \"v\": null\x7d" with
      | .error f => f.kind?
      | .ok _ => none) = some .unreadableAnswer := by
    decide +kernel
  refine ⟨(hok _ _).mp (ok_of_toOption (by decide +kernel)), (hbad _).mpr ⟨?_, ?_⟩⟩
  · rintro ⟨es, hes⟩
    have hpaths : fetched _ = .ok _ := (hok _ _).mpr ⟨es, hes, rfl⟩
    rw [hpaths] at hkind
    cases hkind
  · intro hexcessive
    obtain ⟨fault, hfault⟩ : ∃ fault, fetched _ = .error (.json fault) := (hlimit _).mpr hexcessive
    rw [hfault] at hkind
    cases hkind

/-- A surrogate without a partner is decoded like any other code point, and a number that a text
comes after under the same key does no harm. -/
theorem Client.surrogate_decoded :
    let client : Client := ⟨"S", "http", 10⟩
    let w : World := ⟨⟨[], []⟩, ⟨[], []⟩, ⟨2024, 1, 31, 12, 0, 59, 0, none⟩, []⟩
    let fetched (body : String) := (client.volumePaths "h:1" (w.answering [] body 200)).1
    let lone := "\x7b\"v\":\"\\ud800\"\x7d"
    let repeated := "\x7b\"v\":1,\"v\":\"a\"\x7d"
    let s := Text.ofCodes [0xd800]
    IsText lone.toList (.object [("v", .text s)]) ∧ Text.hasSurrogate s = true ∧
      fetched lone = .ok [("v", some s)] ∧
      IsText repeated.toList (.object [("v", .int 1), ("v", .text "a")]) ∧
      fetched repeated = .ok [("v", some "a")] := by
  intro client w fetched lone repeated s
  have hblank : IsBlank [] := List.forall_mem_nil _
  have hroom : 0 < depthLimit := by decide
  have hname : Literal (Text.codesOf ['v']) (Text.codes "v") :=
    ⟨[.plain 'v'.toNat], .own (by decide) .nil, rfl⟩
  have hlone : Literal (Text.codesOf ['\\', 'u', 'd', '8', '0', '0']) [0xd800] :=
    ⟨[.escaped 0xd800], .code rfl .nil, rfl⟩
  have ha : Literal (Text.codesOf ['a']) (Text.codes "a") :=
    ⟨[.plain 'a'.toNat], .own (by decide) .nil, rfl⟩
  have hentry {d : Data} {cs rest : List Char} (h : Json.Spells 1 cs (.value d) rest) :
      Json.Spells 1 ('"' :: 'v' :: '"' :: ':' :: cs) (.entry ("v", d)) rest :=
    .entry hname hblank hblank h
  have hone (rest : List Char) :
      Json.Spells 1 ('1' :: ',' :: rest) (.value (.int 1)) (',' :: rest) :=
    .scalar rfl
  refine ⟨⟨[], _, [], hblank, hblank, ?_,
      .object hroom hblank (.lastEntry hblank (hentry (.text hlone)))⟩,
    by decide +kernel, ok_of_toOption (by decide +kernel), ⟨[], _, [], hblank, hblank, ?_,
      .object hroom hblank (.nextEntry hblank hblank (hentry (hone _))
        (.lastEntry hblank (hentry (.text ha))))⟩, ok_of_toOption (by decide +kernel)⟩
  · decide +kernel
  · decide +kernel

end Net
end Rebalance
