import Rebalance.Net.Address
import Rebalance.Proofs.Text.Codes

/-!
# Addresses and their texts

* `Address.Valid`: an address whose number fits its version and whose zone can be written.
* `valid_of_read?`, `valid_of_ofInt?`, `valid_of_ofBytes?`: every address that was read is valid.
-/

namespace Rebalance
namespace Net

/-! ## Numbers in range -/

theorem octet?_le
    {ds : List Char}
    {n : Nat}
    (h : octet? ds = some n) :
    n ≤ 255 := by
  unfold octet? at h
  dsimp only at h
  split at h
  · cases h
  · split at h
    · cases h
    · next hbound =>
      cases h
      exact Nat.not_lt.mp fun hlt => hbound (.inr hlt)

theorem readV4?_lt
    {cs : List Char}
    {n : Nat}
    (h : readV4? cs = some n) :
    n < 2 ^ 32 := by
  unfold readV4? at h
  split at h
  · obtain ⟨a, ha, h⟩ := Option.bind_eq_some_iff.mp h
    obtain ⟨b, hb, h⟩ := Option.bind_eq_some_iff.mp h
    obtain ⟨c, hc, h⟩ := Option.bind_eq_some_iff.mp h
    obtain ⟨d, hd, h⟩ := Option.bind_eq_some_iff.mp h
    cases h
    have := octet?_le ha
    have := octet?_le hb
    have := octet?_le hc
    have := octet?_le hd
    omega
  · cases h

theorem hexValue?_lt
    {c : Char}
    {n : Nat}
    (h : Text.hexValue? c = some n) :
    n < 16 := by
  unfold Text.hexValue? at h
  split at h
  · next hc =>
    cases h
    have : c.toNat ≤ '9'.toNat := hc.2
    have : '0'.toNat = 48 := rfl
    have : '9'.toNat = 57 := rfl
    omega
  · split at h
    · next hc =>
      cases h
      have : c.toNat ≤ 'f'.toNat := hc.2
      have : 'a'.toNat = 97 := rfl
      have : 'f'.toNat = 102 := rfl
      omega
    · split at h
      · next hc =>
        cases h
        have : c.toNat ≤ 'F'.toNat := hc.2
        have : 'A'.toNat = 65 := rfl
        have : 'F'.toNat = 70 := rfl
        omega
      · cases h

theorem foldlM_hexValue?_lt
    {ds : List Char}
    {n m : Nat}
    (h : ds.foldlM (fun n c => (Text.hexValue? c).map (n * 16 + ·)) n = some m) :
    m < (n + 1) * 16 ^ ds.length := by
  induction ds generalizing n with
  | nil =>
    cases h
    simp
  | cons d ds ih =>
    rw [List.foldlM_cons] at h
    obtain ⟨k, hk, h⟩ := Option.bind_eq_some_iff.mp h
    obtain ⟨x, hx, rfl⟩ := Option.map_eq_some_iff.mp hk
    have hlt := hexValue?_lt hx
    calc m < (n * 16 + x + 1) * 16 ^ ds.length := ih h
      _ ≤ ((n + 1) * 16) * 16 ^ ds.length := Nat.mul_le_mul_right _ (by omega)
      _ = (n + 1) * 16 ^ (d :: ds).length := by rw [List.length_cons, Nat.pow_succ']; ac_rfl

theorem group?_lt
    {ds : List Char}
    {n : Nat}
    (h : group? ds = some n) :
    n < 65536 := by
  unfold group? at h
  split at h
  · cases h
  · next hlen =>
    have hlt := foldlM_hexValue?_lt h
    have hle : 16 ^ ds.length ≤ 16 ^ 4 := Nat.pow_le_pow_right (by decide) (by omega)
    omega

theorem foldl_digits_lt
    (base : Nat)
    (ds : List Nat)
    (h : ∀ d ∈ ds, d < base)
    (n : Nat) :
    ds.foldl (fun n d => n * base + d) n < (n + 1) * base ^ ds.length := by
  induction ds generalizing n with
  | nil => simp
  | cons d rest ih =>
    have hd := h d List.mem_cons_self
    have hle : n * base + d + 1 ≤ (n + 1) * base := by
      rw [Nat.succ_mul]
      omega
    calc _ < (n * base + d + 1) * base ^ rest.length :=
          ih (fun x hx => h x (List.mem_cons_of_mem d hx)) _
      _ ≤ ((n + 1) * base) * base ^ rest.length := Nat.mul_le_mul_right _ hle
      _ = (n + 1) * base ^ (d :: rest).length := by rw [List.length_cons, Nat.pow_succ']; ac_rfl

/-- Whether groups are the eight groups of a number. -/
def AreGroups (groups : List Nat) : Prop :=
  groups.length = 8 ∧ ∀ g ∈ groups, g < 65536

theorem mapM_group?
    {parts : List (List Char)}
    {groups : List Nat}
    (h : parts.mapM group? = some groups) :
    groups.length = parts.length ∧ ∀ g ∈ groups, g < 65536 := by
  induction parts generalizing groups with
  | nil =>
    cases h
    exact ⟨rfl, fun g hg => by cases hg⟩
  | cons part rest ih =>
    rw [List.mapM_cons] at h
    obtain ⟨g, hg, h⟩ := Option.bind_eq_some_iff.mp h
    obtain ⟨gs, hgs, h⟩ := Option.bind_eq_some_iff.mp h
    cases h
    obtain ⟨hlen, hlt⟩ := ih hgs
    refine ⟨by simp [hlen], ?_⟩
    intro x hx
    rcases List.mem_cons.mp hx with rfl | hx
    · exact group?_lt hg
    · exact hlt x hx

theorem areGroups_of_groups?
    {parts : List (List Char)}
    {groups : List Nat}
    (h : groups? parts = some groups) :
    AreGroups groups := by
  unfold groups? at h
  dsimp only at h
  split at h
  · split at h
    · next hlen =>
      obtain ⟨hlength, hlt⟩ := mapM_group? h
      exact ⟨hlength.trans hlen, hlt⟩
    · cases h
  · split at h
    · cases h
    · split at h
      · split at h
        · cases h
        · next hlen =>
          obtain ⟨high, hhigh, h⟩ := Option.bind_eq_some_iff.mp h
          obtain ⟨low, hlow, h⟩ := Option.bind_eq_some_iff.mp h
          cases h
          obtain ⟨hhighLength, hhighLt⟩ := mapM_group? hhigh
          obtain ⟨hlowLength, hlowLt⟩ := mapM_group? hlow
          refine ⟨by simp; omega, ?_⟩
          intro g hg
          rcases List.mem_append.mp hg with hg | hg
          · exact hhighLt g hg
          · rcases List.mem_append.mp hg with hg | hg
            · rw [(List.mem_replicate.mp hg).2]
              decide
            · exact hlowLt g hg
      · cases h

theorem readV6?_lt
    {cs : List Char}
    {n : Nat}
    (h : readV6? cs = some n) :
    n < 2 ^ 128 := by
  unfold readV6? at h
  dsimp only at h
  split at h
  · cases h
  · obtain ⟨parts, _, h⟩ := Option.bind_eq_some_iff.mp h
    split at h
    · cases h
    · obtain ⟨groups, hgroups, rfl⟩ := Option.map_eq_some_iff.mp h
      obtain ⟨hlen, hlt⟩ := areGroups_of_groups? hgroups
      have hjoin := foldl_digits_lt 65536 groups hlt 0
      rw [hlen] at hjoin
      exact hjoin

/-! ## Valid addresses -/

/-- Whether a zone can be written: it holds code points, and none that ends an address. -/
structure IsZone (zone : List Nat) : Prop where
  codes : ∀ code ∈ zone, code < 0x110000
  mark : '%'.toNat ∉ zone
  slash : '/'.toNat ∉ zone

/-- Whether the number of an address fits its version and its zone can be written. -/
def Address.Valid : Address → Prop
  | .v4 n => n < 2 ^ 32
  | .v6 n zone => n < 2 ^ 128 ∧ IsZone zone

instance (zone : List Nat) : Decidable (IsZone zone) :=
  decidable_of_iff
    ((∀ code ∈ zone, code < 0x110000) ∧ '%'.toNat ∉ zone ∧ '/'.toNat ∉ zone)
    ⟨fun ⟨codes, mark, slash⟩ => ⟨codes, mark, slash⟩, fun h => ⟨h.codes, h.mark, h.slash⟩⟩

instance : (a : Address) → Decidable a.Valid
  | .v4 n => inferInstanceAs (Decidable (n < 2 ^ 32))
  | .v6 n zone => inferInstanceAs (Decidable (n < 2 ^ 128 ∧ IsZone zone))

theorem isZone_nil :
    IsZone [] :=
  ⟨List.forall_mem_nil _, List.not_mem_nil, List.not_mem_nil⟩

theorem isZone_of_splitZone?
    {codes body zone : List Nat}
    (hcodes : ∀ code ∈ codes, code < 0x110000)
    (hslash : '/'.toNat ∉ codes)
    (h : splitZone? codes = some (body, zone)) :
    IsZone zone := by
  unfold splitZone? at h
  dsimp only at h
  split at h
  · cases h
    exact isZone_nil
  · next c rest hdrop =>
    have hsub : ∀ code ∈ rest, code ∈ codes := fun code hcode =>
      (List.dropWhile_sublist _).mem (hdrop ▸ List.mem_cons_of_mem _ hcode)
    split at h
    · cases h
    · next hmark =>
      cases h
      refine ⟨fun code hcode => hcodes code (hsub code hcode), fun hmem => hmark ?_,
        fun hmem => hslash (hsub _ hmem)⟩
      exact .inr (List.contains_iff_mem.mpr hmem)

theorem valid_of_read?
    {s : String}
    {a : Address}
    (h : Address.read? s = some a) :
    a.Valid := by
  unfold Address.read? at h
  dsimp only at h
  split at h
  · cases h
  · next hslash =>
    split at h
    · next hv4 =>
      cases h
      exact readV4?_lt hv4
    · obtain ⟨⟨body, zone⟩, hsplit, h⟩ := Option.bind_eq_some_iff.mp h
      obtain ⟨n, hn, h⟩ := Option.bind_eq_some_iff.mp h
      cases h
      refine ⟨readV6?_lt hn, isZone_of_splitZone? (Text.codes_lt s) (fun hmem => hslash ?_) hsplit⟩
      exact List.contains_iff_mem.mpr hmem

theorem valid_of_ofInt?
    {n : Int}
    {a : Address}
    (h : Address.ofInt? n = some a) :
    a.Valid := by
  unfold Address.ofInt? at h
  split at h
  · cases h
  · split at h
    · cases h
      show n.toNat < 2 ^ 32
      omega
    · split at h
      · cases h
        refine ⟨?_, isZone_nil⟩
        omega
      · cases h

theorem valid_of_ofBytes?
    {bs : List Nat}
    {a : Address}
    (h : Address.ofBytes? bs = some a) :
    a.Valid := by
  unfold Address.ofBytes? at h
  dsimp only at h
  split at h
  · cases h
  · next hbytes =>
    have hlt : ∀ b ∈ bs, b < 256 := by
      intro b hb
      refine Nat.not_le.mp fun hle => hbytes (List.any_eq_true.mpr ⟨b, hb, ?_⟩)
      exact decide_eq_true hle
    have hfold := foldl_digits_lt 256 bs hlt 0
    split at h
    · next hlen =>
      cases h
      rw [hlen] at hfold
      exact hfold
    · split at h
      · next hlen =>
        cases h
        rw [hlen] at hfold
        exact ⟨hfold, isZone_nil⟩
      · cases h

end Net
end Rebalance
