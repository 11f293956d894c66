import Rebalance.Run.Act
import Rebalance.Run.Kind

/-!
# What actions do, one after the other

* `Failure.sorted_by_kind`: the kind of a failure tells which of three cases it belongs to.
* `Act.Meets`: a property of the result of an action and of a view of the state it leaves.  A view
  keeps what a proof looks at and drops the rest.
* `Act.Meets.next`, `Act.Meets.stop`: a sequence of two actions meets a property when the first one
  answers and the second one meets it, or when the first one fails and the failure meets it.
-/

namespace Rebalance

/-! ## Results that may be failures -/

theorem toOption_eq_some_iff
    {ε α : Type}
    {x : Except ε α}
    {a : α} :
    x.toOption = some a ↔ x = .ok a := by
  cases x <;> simp [Except.toOption]

theorem ok_of_toOption
    {ε α : Type}
    {x : Except ε α}
    {a : α}
    (h : x.toOption = some a) :
    x = .ok a :=
  toOption_eq_some_iff.mp h

theorem error_of_toOption
    {ε α : Type}
    {x : Except ε α}
    (h : x.toOption = none) :
    ∃ e, x = .error e := by
  cases x with
  | error e => exact ⟨e, rfl⟩
  | ok a => cases h

namespace Failure

variable {α β : Type}

theorem bind_error
    {x : Except Failure α}
    {g : α → Except Failure β}
    {f : Failure}
    (h : x >>= g = .error f) :
    x = .error f ∨ ∃ a, x = .ok a ∧ g a = .error f := by
  cases x with
  | error e =>
    cases h
    exact .inl rfl
  | ok a => exact .inr ⟨a, rfl, h⟩

theorem map_ok
    {x : Except Failure α}
    {g : α → β}
    {b : β}
    (h : x.map g = .ok b) :
    ∃ a, x = .ok a ∧ g a = b := by
  cases x with
  | error f => cases h
  | ok a =>
    cases h
    exact ⟨a, rfl, rfl⟩

theorem map_error
    {x : Except Failure α}
    {g : α → β}
    {f : Failure}
    (h : x.map g = .error f) :
    x = .error f := by
  cases x with
  | error e =>
    cases h
    rfl
  | ok a => cases h

theorem mapError_error
    {ε : Type}
    {x : Except ε α}
    {g : ε → Failure}
    {f : Failure}
    (h : x.mapError g = .error f) :
    ∃ e, g e = f := by
  cases x with
  | error e =>
    cases h
    exact ⟨e, rfl⟩
  | ok a => cases h

theorem mapM_error
    {l : List α}
    {g : α → Except Failure β}
    {f : Failure}
    (h : l.mapM g = .error f) :
    ∃ a ∈ l, g a = .error f := by
  induction l with
  | nil => cases h
  | cons a rest ih =>
    rw [List.mapM_cons] at h
    rcases bind_error h with ha | ⟨b, _, h⟩
    · exact ⟨a, List.mem_cons_self, ha⟩
    · rcases bind_error h with hrest | ⟨bs, _, h⟩
      · obtain ⟨x, hx, hg⟩ := ih hrest
        exact ⟨x, List.mem_cons_of_mem a hx, hg⟩
      · cases h

/-- When every failure belongs to one of three cases, and each case makes a failure of its own kind,
the kind of a failure tells the case. -/
theorem sorted_by_kind
    {x : Except Failure α}
    {k l : Run.Kind}
    {A B C : Prop}
    (hne : k ≠ l)
    (ha : A → ∃ f, x = .error f ∧ f.kind? = some k)
    (hb : B → ∃ f, x = .error f ∧ f.kind? = some l)
    (hc : C → ∃ f, x = .error f ∧ f.kind? = none)
    (hcases : ∀ f, x = .error f → A ∨ B ∨ C) :
    ((∃ f, x = .error f ∧ f.kind? = some k) ↔ A) ∧
      ((∃ f, x = .error f ∧ f.kind? = some l) ↔ B) ∧
      ((∃ f, x = .error f ∧ f.kind? = none) ↔ C) ∧
      ∀ f, x = .error f → f.kind? = some k ∨ f.kind? = some l ∨ f.kind? = none := by
  -- A result fails in one way only, so the failure that a case makes is the one at hand.
  have hkind {f : Failure} {o : Option Run.Kind} (hf : x = .error f)
      (ho : ∃ g, x = .error g ∧ g.kind? = o) : f.kind? = o := by
    obtain ⟨g, hg, hgo⟩ := ho
    rw [hf] at hg
    cases hg
    exact hgo
  have hsort (f : Failure) (hf : x = .error f) :
      (f.kind? = some k ∧ A) ∨ (f.kind? = some l ∧ B) ∨ (f.kind? = none ∧ C) := by
    rcases hcases f hf with h | h | h
    · exact .inl ⟨hkind hf (ha h), h⟩
    · exact .inr (.inl ⟨hkind hf (hb h), h⟩)
    · exact .inr (.inr ⟨hkind hf (hc h), h⟩)
  refine ⟨⟨?_, ha⟩, ⟨?_, hb⟩, ⟨?_, hc⟩, ?_⟩
  · rintro ⟨f, hf, hk⟩
    rcases hsort f hf with ⟨h, hA⟩ | ⟨h, _⟩ | ⟨h, _⟩
    · exact hA
    · simp [h, hne.symm] at hk
    · simp [h] at hk
  · rintro ⟨f, hf, hk⟩
    rcases hsort f hf with ⟨h, _⟩ | ⟨h, hB⟩ | ⟨h, _⟩
    · simp [h, hne] at hk
    · exact hB
    · simp [h] at hk
  · rintro ⟨f, hf, hk⟩
    rcases hsort f hf with ⟨h, _⟩ | ⟨h, _⟩ | ⟨h, hC⟩
    · simp [h] at hk
    · simp [h] at hk
    · exact hC
  · intro f hf
    exact (hsort f hf).imp And.left (Or.imp And.left And.left)

end Failure

/-! ## Actions -/

namespace Act

variable {σ τ ν α β : Type}

theorem andThen_answer
    (x : Act σ α) :
    andThen x answer = x := by
  funext s
  unfold andThen answer
  obtain ⟨r, t⟩ := x s
  cases r <;> rfl

theorem andThen_assoc
    {γ : Type}
    (x : Act σ α)
    (f : α → Act σ β)
    (g : β → Act σ γ) :
    andThen (andThen x f) g = andThen x fun a => andThen (f a) g := by
  funext s
  unfold andThen
  obtain ⟨r, t⟩ := x s
  cases r <;> rfl

instance : LawfulMonad (Act σ) :=
  LawfulMonad.mk' (Act σ) andThen_answer (fun _ _ => rfl) andThen_assoc

/-- Whether the result of an action and the view of the state it leaves have a property. -/
def Meets (view : σ → ν) (x : Act σ α) (s : σ) (P : Except Failure α → ν → Prop) : Prop :=
  P (x s).1 (view (x s).2)

/-- Whether an action ends with a result and leaves a state of a certain view. -/
abbrev Shows (view : σ → ν) (x : Act σ α) (s : σ) (r : Except Failure α) (v : ν) : Prop :=
  Meets view x s fun r' v' => r' = r ∧ v' = v

theorem Meets.next
    {view : σ → ν}
    {x : Act σ α}
    {g : α → Act σ β}
    {s : σ}
    {a : α}
    {v : ν}
    {P : Except Failure β → ν → Prop}
    (h : Shows view x s (.ok a) v)
    (hg : ∀ u, view u = v → Meets view (g a) u P) :
    Meets view (x >>= g) s P := by
  obtain ⟨ha, hv⟩ := h
  unfold Meets
  rw [andThen_ok (Prod.ext ha rfl)]
  exact hg _ hv

theorem Meets.stop
    {view : σ → ν}
    {x : Act σ α}
    {g : α → Act σ β}
    {s : σ}
    {f : Failure}
    {v : ν}
    {P : Except Failure β → ν → Prop}
    (h : Shows view x s (.error f) v)
    (hp : P (.error f) v) :
    Meets view (x >>= g) s P := by
  obtain ⟨hf, hv⟩ := h
  unfold Meets
  rw [andThen_error (Prod.ext hf rfl)]
  exact hv ▸ hp

theorem Meets.of_get
    {view : σ → ν}
    {g : σ → Act σ β}
    {s : σ}
    {P : Except Failure β → ν → Prop}
    (h : Meets view (g s) s P) :
    Meets view (get >>= g) s P :=
  h

theorem pure_shows
    (view : σ → ν)
    (a : α)
    (s : σ) :
    Shows view (pure a) s (.ok a) (view s) :=
  ⟨rfl, rfl⟩

theorem fail_shows
    (view : σ → ν)
    (f : Failure)
    (s : σ) :
    Shows view (fail f : Act σ α) s (.error f) (view s) :=
  ⟨rfl, rfl⟩

theorem ofExcept_shows
    (view : σ → ν)
    (x : Except Failure α)
    (s : σ) :
    Shows view (ofExcept x) s x (view s) := by
  cases x with
  | ok a => exact pure_shows view a s
  | error f => exact fail_shows view f s

end Act
end Rebalance
