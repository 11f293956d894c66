import Rebalance.Run.Kind

/-!
# Paths that can be used, and why a file is not read

* `Path.check_ok_iff`: a path can be used just when its text is a name and holds no NUL.
* `Tree.fault_of_readFile`: a file that is not read is missing, or a folder, or is looked for behind
  a file, or has too long a name.
-/

namespace Rebalance
namespace Files

/-! ## Paths -/

/-- Whether a path can be used: its text is the name of a file, without NUL. -/
structure Path.IsUsable (p : Path) : Prop where
  name : Text.isWritableName p.text = true
  noNul : p.text.toList.contains (Char.ofNat 0) = false

instance (p : Path) : Decidable p.IsUsable :=
  decidable_of_iff
    (Text.isWritableName p.text = true ∧ p.text.toList.contains (Char.ofNat 0) = false)
    ⟨fun ⟨name, noNul⟩ => ⟨name, noNul⟩, fun h => ⟨h.name, h.noNul⟩⟩

theorem Path.check_ok_iff
    {p : Path} :
    p.check = .ok () ↔ p.IsUsable := by
  unfold check
  constructor
  · intro h
    split at h
    · cases h
    · next hname =>
      split at h
      · cases h
      · next hnul => exact ⟨by simpa using hname, by simpa using hnul⟩
  · intro h
    rw [h.name, h.noNul]
    rfl

/-- A path that cannot be used is refused without a kind. -/
theorem Path.kind?_of_check
    {p : Path}
    {f : Failure}
    (h : p.check = .error f) :
    f.kind? = none := by
  unfold check at h
  split at h
  · cases h
    rfl
  · split at h
    · cases h
      rfl
    · cases h

/-! ## Files -/

namespace Tree

theorem fault_of_step
    {at_ : Location}
    {name : String}
    {fault : Fault}
    (h : step at_ name = .error fault) :
    fault = .nameTooLong := by
  unfold step at h
  split at h
  · cases h
  · split at h
    · cases h
      rfl
    · cases h

/-- Names that are not followed lead nowhere, or through a file, or are too long. -/
theorem fault_of_follow
    {t : Tree}
    {at_ : Location}
    {names : List String}
    {fault : Fault}
    (h : t.follow at_ names = .error fault) :
    fault = .notFound ∨ fault = .notFolder ∨ fault = .nameTooLong := by
  induction names generalizing at_ with
  | nil => cases h
  | cons name rest ih =>
    unfold follow at h
    split at h
    · next hstep =>
      cases h
      exact .inr (.inr (fault_of_step hstep))
    · split at h
      · cases h
        exact .inl rfl
      · cases h
        exact .inr (.inl rfl)
      · exact ih h

theorem fault_of_walk
    {t : Tree}
    {p : Path}
    {fault : Fault}
    (h : t.walk p = .error fault) :
    fault = .notFound ∨ fault = .notFolder ∨ fault = .nameTooLong := by
  unfold walk at h
  split at h
  · cases h
    exact .inr (.inr rfl)
  · split at h
    · next hfollow =>
      cases h
      exact fault_of_follow hfollow
    · split at h
      · cases h
      · exact .inr (.inr (fault_of_step h))

/-- A file that is not read is missing or a folder, or it is looked for behind a file, or its name
is too long. -/
theorem fault_of_readFile
    {t : Tree}
    {p : Path}
    {fault : Fault}
    (h : t.readFile p = .error fault) :
    (fault = .notFound ∨ fault = .isFolder) ∨ fault = .notFolder ∨ fault = .nameTooLong := by
  unfold readFile at h
  split at h
  · next hwalk =>
    cases h
    rcases fault_of_walk hwalk with hfault | hfault
    · exact .inl (.inl hfault)
    · exact .inr hfault
  · split at h
    · cases h
      exact .inl (.inl rfl)
    · cases h
      exact .inl (.inr rfl)
    · cases h

end Tree
end Files
end Rebalance
