import Rebalance.Proofs.Net.AddressText

/-!
# Endpoints and what they are read as

* `cutLast?`: a text cut at its last colon; it is the one cut with no colon behind it
  (`cutLast?_eq_some_iff`).
* `Address.host`: the text of an address, in square brackets for version 6; `cutLast?_endpoint`
  separates it from the port.
* `readEndpoint?`: the text of the address and the port of an endpoint.
* `endpoint_eq_iff`: two valid addresses with ports have one endpoint just when they are the same.
-/

namespace Rebalance
namespace Net

/-! ## The last colon -/

/-- What a text has in front of its last colon and behind it. -/
def cutLast? : List Char → Option (List Char × List Char)
  | [] => none
  | c :: cs =>
    match cutLast? cs with
    | some (front, last) => some (c :: front, last)
    | none => if c = ':' then some ([], cs) else none

theorem cutLast?_eq_none_iff
    {cs : List Char} :
    cutLast? cs = none ↔ ':' ∉ cs := by
  induction cs with
  | nil => exact iff_of_true rfl List.not_mem_nil
  | cons c cs ih =>
    rw [cutLast?, List.mem_cons, not_or, ← ih]
    cases cutLast? cs with
    | some cut => simp
    | none => simp [eq_comm]

/-- A text has one cut at a colon with no colon behind it. -/
theorem cutLast?_eq_some_iff
    {cs front last : List Char} :
    cutLast? cs = some (front, last) ↔ cs = front ++ ':' :: last ∧ ':' ∉ last := by
  constructor
  · -- A colon behind the head is cut at first, so the head counts only if none is left.
    intro h
    induction cs generalizing front with
    | nil => cases h
    | cons c cs ih =>
      rw [cutLast?] at h
      split at h
      · next hcut =>
        cases h
        obtain ⟨rfl, hlast⟩ := ih hcut
        exact ⟨rfl, hlast⟩
      · next hcut =>
        split at h
        · next hcolon =>
          cases h
          exact ⟨congrArg (· :: _) hcolon, cutLast?_eq_none_iff.mp hcut⟩
        · cases h
  · rintro ⟨rfl, h⟩
    induction front with
    | nil => rw [List.nil_append, cutLast?, cutLast?_eq_none_iff.mpr h, if_pos rfl]
    | cons c front ih => rw [List.cons_append, cutLast?, ih]

/-! ## Hosts -/

/-- What an endpoint has in front of its port. -/
def Address.host (a : Address) : String :=
  if a.version = 6 then "[" ++ a.text ++ "]" else a.text

/-- A host without the square brackets around it. -/
def unbracketed : List Char → List Char
  | '[' :: cs => cs.dropLast
  | cs => cs

theorem unbracketed_of_not_mem
    {cs : List Char}
    (h : '[' ∉ cs) :
    unbracketed cs = cs := by
  unfold unbracketed
  split
  · exact absurd List.mem_cons_self h
  · rfl

/-- The text of an address of version 4 has no brackets, and those of version 6 are taken off at the
ends only: the name of a zone may hold brackets of its own. -/
theorem unbracketed_host
    (a : Address) :
    unbracketed a.host.toList = a.text.toList := by
  cases a with
  | v4 n =>
    have hbracket : '[' ∉ textV4 n := by
      intro hmem
      rcases mem_textV4 hmem with he | he
      · exact absurd he (by decide)
      · exact absurd he (by decide)
    have htext : (Address.v4 n).host.toList = textV4 n := by
      simp [Address.host, Address.version, Address.text]
    rw [htext, unbracketed_of_not_mem hbracket, Address.text, String.toList_ofList]
  | v6 n zone =>
    have htext : (Address.v6 n zone).host.toList
        = '[' :: ((Address.v6 n zone).text.toList ++ [']']) := by
      simp [Address.host, Address.version]
    rw [htext, unbracketed, List.dropLast_concat]

/-! ## Endpoints -/

theorem toList_endpoint
    (a : Address)
    (port : Nat) :
    (a.endpoint port).toList = a.host.toList ++ ':' :: Decimal.digits port := by
  simp [Address.endpoint, Address.host, Decimal.intText]

/-- The last colon of an endpoint stands between the host and the digits of the port. -/
theorem cutLast?_endpoint
    (a : Address)
    (port : Nat) :
    cutLast? (a.endpoint port).toList = some (a.host.toList, Decimal.digits port) := by
  rw [toList_endpoint]
  exact cutLast?_eq_some_iff.mpr ⟨rfl, not_mem_digits rfl port⟩

/-- The text of the address and the port that an endpoint names. -/
def readEndpoint? (s : String) : Option (String × Nat) :=
  (cutLast? s.toList).map fun (host, port) =>
    (String.ofList (unbracketed host), Decimal.valueOf 0 port)

theorem readEndpoint?_endpoint
    (a : Address)
    (port : Nat) :
    readEndpoint? (a.endpoint port) = some (a.text, port) := by
  rw [readEndpoint?, cutLast?_endpoint, Option.map_some]
  dsimp only
  rw [unbracketed_host, String.ofList_toList, Decimal.valueOf_digits]

theorem text_inj
    {a b : Address}
    (ha : a.Valid)
    (hb : b.Valid)
    (h : a.text = b.text) :
    a = b := by
  have hread := read?_text ha
  rw [h, read?_text hb] at hread
  exact (Option.some.inj hread).symm

/-- Two valid addresses with ports have one endpoint just when they are the same. -/
theorem endpoint_eq_iff
    {a b : Address}
    {p q : Nat}
    (ha : a.Valid)
    (hb : b.Valid) :
    a.endpoint p = b.endpoint q ↔ a = b ∧ p = q := by
  constructor
  · intro h
    have hread := readEndpoint?_endpoint a p
    rw [h, readEndpoint?_endpoint, Option.some.injEq, Prod.mk.injEq] at hread
    exact ⟨text_inj ha hb hread.1.symm, hread.2.symm⟩
  · rintro ⟨rfl, rfl⟩
    rfl

end Net
end Rebalance
