import Rebalance.Proofs.Run.Failing
import Rebalance.Proofs.Schema.Entries

/-!
# Options as the gate of a run

* `Schema.without`: values with those of one name left out.
* `Options.IsCount`: what a bandwidth or an error limit is read as; `Options.HasNode` says that
  there is a node.
* `Options.parse_eq_ok_iff`, `Options.parse_eq_error_iff`: the two ends of reading options.
* `Options.read_put_unset`: a bandwidth or an error limit of `null` or zero is none.
* `Command.execute_of_settle_error`: a run that is refused leaves one record and nothing else.
* `options_gate`: a run is refused as invalid just when its options are, and entries that are read
  run as the options they are read as.
-/

namespace Rebalance

/-! ## Values under their names -/

namespace Schema

variable {α : Type} {name other : String}

/-- A value under its name is found as an entry of the same text. -/
theorem find?_named
    (values : List (String × Data)) :
    Data.find? name (named values) = values.lookup name := by
  unfold Data.find? named
  induction values with
  | nil => rfl
  | cons e rest ih =>
    have hhead : (Data.text e.1).isText name = (name == e.1) := BEq.comm
    rw [List.map_cons, List.find?_cons, List.lookup_cons, ← ih, hhead]
    cases name == e.1 <;> rfl

/-- Values without those of one name. -/
def without (name : String) (values : List (String × α)) : List (String × α) :=
  values.filter fun e => e.1 != name

theorem lookup_without
    (values : List (String × α)) :
    (without name values).lookup other = if other = name then none else values.lookup other := by
  unfold without
  induction values with
  | nil => simp
  | cons e rest ih =>
    rw [List.filter_cons, lookup_cons_eq]
    by_cases he : e.1 = name
    · rw [if_neg (by simpa using he), ih, he]
      split <;> rfl
    · rw [if_pos (by simpa using he), lookup_cons_eq, ih]
      by_cases ho : other = e.1
      · rw [if_pos ho, if_pos ho, if_neg fun h => he (ho.symm.trans h)]
      · rw [if_neg ho, if_neg ho]

end Schema

namespace Run

open Schema

/-! ## Reading options -/

namespace Options

/-- Whether a bandwidth or an error limit is read as a count: as none where it is left out or
`null`, and else as the whole number that it stands for, which is not negative. -/
def IsCount (es : List (String × Data)) (name : String) (n : Nat) : Prop :=
  (es.lookup name = none ∨ es.lookup name = some .null) ∧ n = 0 ∨
    ∃ d z, es.lookup name = some d ∧ d ≠ .null ∧ readWhole d = .ok z ∧ 0 ≤ z ∧ (n : Int) = z

/-- Whether options name a node. -/
def HasNode (o : Options) : Prop :=
  ∃ name, o.node = some name ∧ name ≠ ""

/-- The names of the entries that may be `null` for zero. -/
def countNames : List String :=
  ["bandwidth", "max_error"]

variable {es : List (String × Data)} {o : Options}

theorem isCount_of_read
    {name : String}
    {n : Nat}
    (h : Schema.optional (named es) name 0 readSetCount = .ok n) :
    IsCount es name n := by
  unfold Schema.optional at h
  rw [find?_named] at h
  split at h
  · next d hd =>
    have hread := Checked.under_ok h
    unfold readSetCount at hread
    split at hread
    · cases hread
      exact .inl ⟨.inr hd, rfl⟩
    · next hnull =>
      obtain ⟨z, hz, hcount⟩ := Checked.andThen_ok hread
      unfold atLeast at hcount
      split at hcount
      · next hpos =>
        cases hcount
        exact .inr ⟨d, z, hd, hnull, hz, hpos, Int.toNat_of_nonneg hpos⟩
      · cases hcount
  · next hd =>
    cases h
    exact .inl ⟨.inl hd, rfl⟩

theorem isCount_of_read_ok
    (h : read es = .ok o) :
    IsCount es "bandwidth" o.bandwidth ∧ IsCount es "max_error" o.maxError := by
  obtain ⟨_, _, h₆, -, rfl⟩ := Checked.seq_ok h
  obtain ⟨_, _, h₅, herror, rfl⟩ := Checked.seq_ok h₆
  obtain ⟨_, _, h₄, hbandwidth, rfl⟩ := Checked.seq_ok h₅
  obtain ⟨_, _, h₃, -, rfl⟩ := Checked.seq_ok h₄
  obtain ⟨_, _, h₂, -, rfl⟩ := Checked.seq_ok h₃
  obtain ⟨_, _, h₁, -, rfl⟩ := Checked.seq_ok h₂
  obtain ⟨_, -, rfl⟩ := Checked.map_ok h₁
  exact ⟨isCount_of_read hbandwidth, isCount_of_read herror⟩

theorem target_of_hasNode
    (h : o.HasNode) :
    ∃ name, o.target = .ok name := by
  obtain ⟨name, hname, hne⟩ := h
  exact ⟨name, by simp [target, hname, hne]⟩

theorem target_of_not_hasNode
    (h : ¬ o.HasNode) :
    o.target = .error .nodeRequired := by
  unfold target
  split
  · rfl
  · next name hname =>
    split
    · rfl
    · next hne => exact absurd ⟨name, hname, hne⟩ h

/-- Options are read just when their entries are and they name a node. -/
theorem parse_eq_ok_iff :
    parse es = .ok o ↔ read es = .ok o ∧ o.HasNode := by
  unfold parse
  cases hread : read es with
  | wrong issues => simp
  | ok p =>
    by_cases hnode : p.HasNode
    · obtain ⟨name, hname⟩ := target_of_hasNode hnode
      simp only [hname, Except.map, Except.ok.injEq, Checked.ok.injEq]
      exact ⟨fun hp => ⟨hp, hp ▸ hnode⟩, And.left⟩
    · simp only [target_of_not_hasNode hnode, Except.map, Checked.ok.injEq, reduceCtorEq, false_iff]
      rintro ⟨rfl, ho⟩
      exact hnode ho

/-- Options are refused for what is wrong with their entries, or for want of a node. -/
theorem parse_eq_error_iff
    {f : Failure} :
    parse es = .error f ↔
      (∃ issues, read es = .wrong issues ∧ f = .invalidOptions issues) ∨
        ∃ o, read es = .ok o ∧ ¬ o.HasNode ∧ f = .nodeRequired := by
  unfold parse
  cases hread : read es with
  | wrong issues => simp [eq_comm]
  | ok p =>
    by_cases hnode : p.HasNode
    · obtain ⟨name, hname⟩ := target_of_hasNode hnode
      simp [hname, Except.map, hnode]
    · simp [target_of_not_hasNode hnode, Except.map, hnode, eq_comm]

/-! ## Counts that are not set -/

theorem optional_congr
    {α : Type}
    {es' : List (String × Data)}
    {name : String}
    (h : es.lookup name = es'.lookup name)
    (value : α)
    (read : Data → Checked α) :
    Schema.optional (named es) name value read = Schema.optional (named es') name value read := by
  unfold Schema.optional
  rw [find?_named, find?_named, h]

/-- Options are read alike from entries that agree but for the counts, when these are read alike. -/
theorem read_congr
    {es' : List (String × Data)}
    (hrest : ∀ name, name ∉ countNames → es.lookup name = es'.lookup name)
    (hcounts : ∀ name ∈ countNames, Schema.optional (named es) name 0 readSetCount =
      Schema.optional (named es') name 0 readSetCount) :
    read es = read es' := by
  unfold read
  dsimp only
  rw [optional_congr (hrest "node" (by decide)), optional_congr (hrest "cluster_uri" (by decide)),
    optional_congr (hrest "output" (by decide)), optional_congr (hrest "threshold" (by decide)),
    optional_congr (hrest "verbose" (by decide)), hcounts "bandwidth" (by decide),
    hcounts "max_error" (by decide)]

/-- A count that is `null` or zero is read as one that is left out. -/
theorem read_put_unset
    {name : String}
    (hname : name ∈ countNames)
    {d : Data}
    (hd : d = .null ∨ d = .int 0) :
    read (put name d es) = read (without name es) := by
  have hzero : readSetCount d = .ok 0 := by
    rcases hd with rfl | rfl <;> rfl
  refine read_congr ?_ ?_
  · intro other hother
    have hne : other ≠ name := fun h => hother (h ▸ hname)
    rw [lookup_put, lookup_without, if_neg hne, if_neg hne]
  · intro other hother
    by_cases hne : other = name
    · subst hne
      unfold Schema.optional
      rw [find?_named, find?_named, lookup_put, lookup_without, if_pos rfl, if_pos rfl]
      dsimp only
      rw [hzero]
      rfl
    · refine optional_congr ?_ 0 readSetCount
      rw [lookup_put, lookup_without, if_neg hne, if_neg hne]

end Options

/-! ## Runs that are refused -/

/-- Entries that are read are settled as the options they are read as. -/
theorem Order.settle_entries_of_read
    {es : List (String × Data)}
    {o : Options}
    (h : Options.read es = .ok o) :
    (Order.entries es).settle = (Order.options o).settle := by
  have hparse : Options.parse es = o.target.map fun _ => o := by
    unfold Options.parse
    rw [h]
  rw [settle_entries, hparse, settle_options]
  cases ht : o.target with
  | error f => rfl
  | ok name =>
    show (Order.options o).settle = _
    rw [settle_options, ht]

/-- Entries are settled unless they are refused. -/
theorem Order.settle_entries_error_iff
    {es : List (String × Data)}
    {f : Failure} :
    (Order.entries es).settle = .error f ↔ Options.parse es = .error f := by
  rw [settle_entries]
  cases hp : Options.parse es with
  | error g => simp [Except.bind]
  | ok o =>
    obtain ⟨name, hname⟩ := target_of_parse hp
    simp [Except.bind, settle_of_target hname]

/-- The session of a run that is refused: one record is all that it leaves. -/
def Session.refused (s : Session) : Session :=
  { s with world := s.world.tell [⟨.debug, "Processing plan command"⟩] }

namespace Command

/-- A run that is refused leaves one record and nothing else. -/
theorem execute_of_settle_error
    (c : Command)
    {order : Order}
    {f : Failure}
    (h : order.settle = .error f)
    (s : Session) :
    c.execute order s = (.error f, s.refused) := by
  unfold execute
  rw [h]
  rfl

/-- Orders that are settled alike run alike. -/
theorem execute_congr
    (c : Command)
    {a b : Order}
    (h : a.settle = b.settle) :
    c.execute a = c.execute b := by
  unfold execute
  rw [h]

end Command

/-- Only options that cannot be settled are an invalid argument. -/
theorem Ending.settle_error
    {c : Command}
    {order : Order}
    {v u : Standing}
    {f : Failure}
    (h : Ending c order v (.error f) u)
    (hkind : f.kind? = some .invalidArgument) :
    order.settle = .error f := by
  cases h with
  | unsettled h => exact h
  | unloaded settled h =>
    unfold Command.source at h
    split at h
    · rcases Storage.Snapshot.isLoadFailure_of_loaded h with hn | hn | hn <;> simp [hn] at hkind
    · cases h
  | unfound p h => cases hkind
  | unanswered p h =>
    have hmem : Kind.invalidArgument ∈ Stage.nodeResolved.kinds := (p.halted h).kind _ hkind
    exact absurd hmem (by decide)
  | unplanned p h => simp [kind?_of_plans_error h] at hkind
  | unstored p h =>
    have hmem : Kind.invalidArgument ∈ Stage.constraintsApplied.kinds := (p.halted h).kind _ hkind
    exact absurd hmem (by decide)
  | undecided p h =>
    have hmem : Kind.invalidArgument ∈ Stage.snapshotWritten.kinds := (p.halted h).kind _ hkind
    exact absurd hmem (by decide)
  | unreported p h => simp [kind?_of_table_error h] at hkind

/-- Reading options gives what their entries are read as, with counts that are not negative, just
when there is a node in it, and refuses them as an invalid argument otherwise; a count that is
`null` or zero is read as one that is left out.  A run of entries is refused as invalid just when
reading them is, and leaves one record then and nothing else.  Entries that are read run as the
options they are read as, and options without a node are refused in the same way. -/
theorem options_gate
    (es : List (String × Data)) :
    (∀ o, Options.parse es = .ok o ↔ Options.read es = .ok o ∧ o.HasNode) ∧
      (∀ o, Options.read es = .ok o → Options.IsCount es "bandwidth" o.bandwidth ∧
        Options.IsCount es "max_error" o.maxError) ∧
      (∀ f, Options.parse es = .error f → f.kind? = some .invalidArgument) ∧
      (∀ name ∈ Options.countNames, ∀ d, d = .null ∨ d = .int 0 →
        Options.parse (put name d es) = Options.parse (without name es)) ∧
      ∀ (c : Command) (s : Session),
        (∀ f, Options.parse es = .error f → c.execute (.entries es) s = (.error f, s.refused)) ∧
          ((∃ f, (c.execute (.entries es) s).1 = .error f ∧ f.kind? = some .invalidArgument) ↔
            ∃ f, Options.parse es = .error f) ∧
          (∀ o, Options.read es = .ok o →
            c.execute (.entries es) s = c.execute (.options o) s) ∧
          ∀ o : Options, ¬ o.HasNode →
            c.execute (.options o) s = (.error .nodeRequired, s.refused) := by
  have hinvalid (f : Failure) (hf : Options.parse es = .error f) :
      f.kind? = some .invalidArgument := by
    rcases Options.parse_eq_error_iff.mp hf with ⟨_, -, rfl⟩ | ⟨_, -, -, rfl⟩
    · rfl
    · rfl
  refine ⟨fun _ => Options.parse_eq_ok_iff, fun _ => Options.isCount_of_read_ok, hinvalid, ?_, ?_⟩
  · intro name hname d hd
    unfold Options.parse
    rw [Options.read_put_unset hname hd]
  · intro c s
    have hrefused (f : Failure) (hf : Options.parse es = .error f) :
        c.execute (.entries es) s = (.error f, s.refused) :=
      c.execute_of_settle_error (Order.settle_entries_error_iff.mpr hf) s
    refine ⟨hrefused, ⟨?_, ?_⟩, ?_, ?_⟩
    · rintro ⟨f, hf, hkind⟩
      have hending := ending_execute c (.entries es) s
      rw [hf] at hending
      exact ⟨f, Order.settle_entries_error_iff.mp (hending.settle_error hkind)⟩
    · rintro ⟨f, hf⟩
      exact ⟨f, congrArg Prod.fst (hrefused f hf), hinvalid f hf⟩
    · intro o ho
      rw [c.execute_congr (Order.settle_entries_of_read ho)]
    · intro o hnode
      refine c.execute_of_settle_error ?_ s
      rw [Order.settle_options, Options.target_of_not_hasNode hnode]
      rfl

/-- A bandwidth that is given as a text with blanks, and a negative one: the first is read and runs
as the options it is read as, with or without an error limit of `null`, and the second is
refused. -/
theorem options_gate_texts :
    let entries (bandwidth : Data) : List (String × Data) :=
      [("node", .text "node-a"), ("bandwidth", bandwidth), ("max_error", .null)]
    let c : Command :=
      ⟨⟨"DiskBalancer", 10.0, .ofString "/system/diskbalancer", "\x7bnode\x7d.before.json",
        "\x7bnode\x7d.plan.json", "DiskBalancerVolumeName", "http", 10, none, none⟩,
        .widestGap, .held, 100⟩
    let s : Session :=
      ⟨⟨⟨[], []⟩, ⟨[], []⟩, ⟨2024, 1, 1, 0, 0, 0, 0, none⟩, []⟩, .init, .empty, []⟩
    (∃ o, Options.parse (entries (.text " +7 ")) = .ok o ∧ o.HasNode ∧ o.bandwidth = 7 ∧
        Options.IsCount (entries (.text " +7 ")) "max_error" o.maxError ∧
        Options.parse (without "max_error" (entries (.text " +7 "))) = .ok o ∧
        c.execute (.entries (entries (.text " +7 "))) s = c.execute (.options o) s) ∧
      ∃ f, Options.parse (entries (.int (-1))) = .error f ∧ f.kind? = some .invalidArgument ∧
        c.execute (.entries (entries (.int (-1)))) s = (.error f, s.refused) := by
  intro entries c s
  obtain ⟨o, ho⟩ : ∃ o, Options.parse (entries (.text " +7 ")) = .ok o := ⟨_, rfl⟩
  obtain ⟨f, hf⟩ : ∃ f, Options.parse (entries (.int (-1))) = .error f := ⟨_, rfl⟩
  have hbandwidth : (Options.parse (entries (.text " +7 "))).toOption.map Options.bandwidth =
      some 7 := by
    decide +kernel
  rw [ho] at hbandwidth
  obtain ⟨hread, hcounts, -, hunset, hruns⟩ := options_gate (entries (.text " +7 "))
  obtain ⟨-, -, hinvalid, -, hrefused⟩ := options_gate (entries (.int (-1)))
  obtain ⟨hentries, hnode⟩ := (hread o).mp ho
  refine ⟨⟨o, ho, hnode, Option.some.inj hbandwidth, (hcounts o hentries).2, ?_, ?_⟩,
    f, hf, hinvalid f hf, (hrefused c s).1 f hf⟩
  · rw [← hunset "max_error" (by decide) .null (.inl rfl)]
    exact ho
  · exact (hruns c s).2.2.1 o hentries

end Run
end Rebalance
