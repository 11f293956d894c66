import Mathlib.Data.List.TakeWhile
import Rebalance.Proofs.Data.Same
import Rebalance.Proofs.Duplicates

/-!
# What is said about repeated values

* `comparesBy_identity`: values that can be keys are compared by their identities.
* `check_of_isKey`: what is answered about such values, by those that have an equal one before them.
* `Answered`: values pass just when they are pairwise different.  Else the message lists those that
  have an equal one before them, so that of equal values all but the first one are listed; where one
  of these cannot be shown, the values are refused and nothing is listed.
* `answered_check`, `answered_checkField`: this holds of a list of values and of a field of items.
-/

namespace Rebalance
namespace Duplicates

theorem comparesBy_identity
    {values : List Data}
    (h : ∀ d ∈ values, d.isKey = true) :
    ComparesBy Data.same Data.identity values :=
  fun a ha b hb => Data.same_iff (h a ha) (h b hb)

/-- Values that can be keys are answered by those that have an equal one before them. -/
theorem check_of_isKey
    (field : Option String)
    {values : List Data}
    (hkeys : ∀ d ∈ values, d.isKey = true) :
    check field values =
      if (later Data.same values).all Data.isShown = true then
        if later Data.same values = [] then .ok ()
        else .error (.repeated field ((later Data.same values).map Data.plain))
      else .error .tooManyDigits := by
  have hfind : (values.find? fun d => !d.isKey) = none := by
    rw [List.find?_eq_none]
    intro d hd
    rw [hkeys d hd]
    exact Bool.false_ne_true
  have hwhole : values.takeWhile Data.isKey = values := List.takeWhile_eq_self_iff.mpr hkeys
  unfold check
  rw [hfind, hwhole, repeats_eq_later (comparesBy_identity hkeys)]
  by_cases hshown : (later Data.same values).all Data.isShown = true
  · simp [hshown, List.isEmpty_iff]
  · simp [hshown]

/-- Nothing has an equal value before it just when the values are pairwise different. -/
theorem later_same_eq_nil_iff
    {values : List Data}
    (hkeys : ∀ d ∈ values, d.isKey = true) :
    later Data.same values = [] ↔ values.Pairwise fun a b => a.same b = false := by
  have hcompares := comparesBy_identity hkeys
  rw [← repeats_eq_later hcompares]
  refine repeats_eq_nil_iff.trans ((and_iff_left fun _ _ => rfl).trans ?_)
  refine List.Pairwise.iff_of_mem fun {a b} ha hb => ?_
  rw [Bool.eq_false_iff, Bool.eq_false_iff, Ne, Ne, hcompares a ha b hb, hcompares b hb a ha,
    eq_comm]

/-- What is answered about values whose repetition is told in a message with a given beginning. -/
structure Answered (lead : String) (values : List Data) (answer : Except Fault Unit) : Prop where
  passes_iff : answer = .ok () ↔ values.Pairwise fun a b => a.same b = false
  refused : ¬ (values.Pairwise fun a b => a.same b = false) →
    (∀ d ∈ later Data.same values, d.isShown = true) →
      ∃ field texts, answer = .error (.repeated field texts) ∧
        texts = (later Data.same values).map Data.plain ∧
        (Fault.repeated field texts).message = lead ++ Text.joined "," texts
  unshown : ∀ d ∈ later Data.same values, d.isShown = false → answer = .error .tooManyDigits
  listed : ∀ a ∈ values, (later Data.same values).countP a.same = values.countP a.same - 1

/-- Values that can be keys are answered by what is repeated among them. -/
theorem answered_check
    {field : Option String}
    {lead : String}
    {values : List Data}
    (hkeys : ∀ d ∈ values, d.isKey = true)
    (hlead : ∀ texts, message field texts = lead ++ Text.joined "," texts) :
    Answered lead values (check field values) := by
  have hnil := later_same_eq_nil_iff hkeys
  rw [check_of_isKey field hkeys]
  refine ⟨?_, ?_, ?_, fun a ha => countP_later (comparesBy_identity hkeys) ha⟩
  · rw [← hnil]
    by_cases hnone : later Data.same values = []
    · simp [hnone]
    · rw [if_neg hnone]
      split <;> simp [hnone]
  · rw [← hnil]
    intro hne hshown
    rw [if_pos (List.all_eq_true.mpr hshown), if_neg hne]
    exact ⟨field, _, rfl, rfl, hlead _⟩
  · intro d hd hunshown
    refine if_neg fun hall => ?_
    rw [List.all_eq_true.mp hall d hd] at hunshown
    cases hunshown

/-- A field whose values can be keys is answered by what is repeated among them. -/
theorem answered_checkField
    {name lead : String}
    {items : List (List (Data × Data))}
    {values : List Data}
    (hvalues : items.mapM (fieldOf name) = .ok values)
    (hkeys : ∀ d ∈ values, d.isKey = true)
    (hlead : ∀ texts, message (some name) texts = lead ++ Text.joined "," texts) :
    Answered lead values (checkField name items) := by
  have hcheck : checkField name items = check (some name) values := by
    unfold checkField
    rw [hvalues]
    rfl
  rw [hcheck]
  exact answered_check hkeys hlead

/-- Values that can be keys, and fields of items with such values, pass just when they are pairwise
different.  The message about others lists those that have an equal one before them, unless one of
these has too many digits to be shown. -/
theorem repeated_listed :
    (∀ values : List Data, (∀ d ∈ values, d.isKey = true) →
      Answered "There are multiple identical items: " values (check none values)) ∧
    ∀ (name : String) (items : List (List (Data × Data))) (values : List Data),
      items.mapM (fieldOf name) = .ok values → (∀ d ∈ values, d.isKey = true) →
      Answered ("There are multiple items with identical " ++ name ++ ": ") values
        (checkField name items) := by
  refine ⟨fun values hkeys => answered_check hkeys fun _ => rfl, ?_⟩
  intro name items values hvalues hkeys
  exact answered_checkField hvalues hkeys fun _ => rfl

theorem isKey_of_mem_twice
    (n : Int) :
    ∀ d ∈ [Data.int n, .int n], d.isKey = true := by
  simp [Data.isKey]

theorem mem_later_twice
    (n : Int) :
    Data.int n ∈ later Data.same [.int n, .int n] := by
  simp [later, Data.same, Data.whole?]

/-- A one of each kind and a text: the texts of the later ones are their own.  A number of too many
digits is not listed. -/
theorem repeated_listed_ones :
    let long : Data := .int ((10 ^ 4300 : Nat) : Int)
    let ones : List Data := [.int 1, .text "1", .float 1.0, .bool true, .text "1"]
    let items : List (List (Data × Data)) :=
      [[(.text "id", .int 1)], [(.text "id", .null)], [(.text "id", .bool true)]]
    ((∀ d ∈ ones, d.isKey = true) ∧
      Answered "There are multiple identical items: " ones (check none ones) ∧
      (check none ones).mapError Fault.message =
        .error "There are multiple identical items: 1.0,True,1") ∧
    ((∀ d ∈ [long, long], d.isKey = true) ∧ check none [long, long] = .error .tooManyDigits) ∧
    items.mapM (fieldOf "id") = .ok [.int 1, .null, .bool true] ∧
      Answered ("There are multiple items with identical " ++ "id" ++ ": ")
        [.int 1, .null, .bool true] (checkField "id" items) := by
  intro long ones items
  have hones : ∀ d ∈ ones, d.isKey = true := by decide
  have hlong : ∀ d ∈ [long, long], d.isKey = true := isKey_of_mem_twice _
  have hlater : long ∈ later Data.same [long, long] := mem_later_twice _
  obtain ⟨hlist, hfield⟩ := repeated_listed
  exact ⟨⟨hones, hlist ones hones, by decide +kernel⟩,
    ⟨hlong, (hlist _ hlong).unshown long hlater (by decide +kernel)⟩,
    rfl, hfield "id" items _ rfl (by decide)⟩

/-- Items with different lists in a field are refused, though no value is repeated, as lists cannot
be looked up; and a repeated number of too many digits is not listed. -/
theorem refused_without_listing :
    let items : List (List (Data × Data)) :=
      [[(.text "a", .list [.int 1])], [(.text "a", .list [.int 2])]]
    let values : List Data := [.list [.int 1], .list [.int 2]]
    let long : Data := .int ((10 ^ 4300 : Nat) : Int)
    (items.mapM (fieldOf "a") = .ok values ∧ (values.Pairwise fun a b => a.same b = false) ∧
      checkField "a" items = .error (.notComparable "list")) ∧
    (∀ d ∈ [long, long], d.isKey = true) ∧ long ∈ later Data.same [long, long] ∧
      check none [long, long] = .error .tooManyDigits := by
  intro items values long
  have hlong : ∀ d ∈ [long, long], d.isKey = true := isKey_of_mem_twice _
  have hlater : long ∈ later Data.same [long, long] := mem_later_twice _
  have hanswered : Answered "There are multiple identical items: " [long, long]
      (check none [long, long]) :=
    answered_check hlong fun _ => rfl
  exact ⟨⟨rfl, by decide, rfl⟩, hlong, hlater, hanswered.unshown long hlater (by decide +kernel)⟩

end Duplicates
end Rebalance
