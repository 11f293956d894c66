import Mathlib.Data.List.TakeWhile
import Rebalance.Proofs.Decimal.Digits
import Rebalance.Proofs.Net.Address
import Rebalance.Proofs.Text.Split

/-!
# Addresses that are read back from their texts

* `readV4?_textV4`, `Compressed.read`: the digits and groups of an address are read as its number.
* `longestRun_zeros`: the run that a version 6 address leaves out is one of zero groups.
* `read?_text`: every valid address is read from its own text.
-/

namespace Rebalance
namespace Net

/-! ## Version 4 -/

theorem octet?_digits :
    ∀ k < 256, octet? (Decimal.digits k) = some k := by
  decide +kernel

theorem not_mem_digits
    {c : Char}
    (h : Decimal.isDigit c = false)
    (n : Nat) :
    c ∉ Decimal.digits n := fun hmem =>
  Bool.false_ne_true (h.symm.trans (Decimal.isDigit_of_mem_digits hmem))

theorem splitOn_textV4
    (n : Nat) :
    (textV4 n).splitOn '.' = [Decimal.digits (n / 16777216 % 256), Decimal.digits (n / 65536 % 256),
      Decimal.digits (n / 256 % 256), Decimal.digits (n % 256)] := by
  have hdot (k : Nat) : '.' ∉ Decimal.digits k := not_mem_digits rfl k
  unfold textV4
  rw [List.splitOn_append_cons_self_of_not_mem (hdot _),
    List.splitOn_append_cons_self_of_not_mem (hdot _),
    List.splitOn_append_cons_self_of_not_mem (hdot _), List.splitOn_eq_singleton (hdot _)]

/-- A number of version 4 is read from its four octets. -/
theorem readV4?_textV4
    {n : Nat}
    (h : n < 2 ^ 32) :
    readV4? (textV4 n) = some n := by
  have hoctet (k : Nat) : octet? (Decimal.digits (k % 256)) = some (k % 256) :=
    octet?_digits _ (Nat.mod_lt k (by decide))
  have hsum : ((n / 16777216 % 256 * 256 + n / 65536 % 256) * 256 + n / 256 % 256) * 256 + n % 256
      = n := by
    omega
  unfold readV4?
  rw [splitOn_textV4]
  dsimp only
  rw [hoctet, hoctet, hoctet, hoctet]
  exact congrArg some hsum

/-- A text with a colon before its first dot is no address of version 4. -/
theorem readV4?_eq_none
    {cs : List Char}
    (hcolon : ':' ∈ cs)
    (hdot : '.' ∉ cs)
    (rest : List Char) :
    readV4? (cs ++ rest) = none := by
  have hoctet (p : List Char) : octet? (cs ++ p) = none := by
    have hall : (cs ++ p).all Decimal.isDigit = false :=
      List.all_eq_false.mpr ⟨':', List.mem_append_left p hcolon, Bool.false_ne_true⟩
    unfold octet?
    simp [hall]
  unfold readV4?
  rw [Text.splitOn_append_of_not_mem hdot]
  cases rest.splitOn '.' with
  | nil => rfl
  | cons p ps =>
    rw [List.modifyHead_cons]
    split
    · next he =>
      rw [← (List.cons.inj he).1, hoctet]
      rfl
    · rfl

/-! ## Groups -/

theorem exists_digitChar_of_mem
    {n : Nat}
    {c : Char}
    (h : c ∈ Nat.toDigits 16 n) :
    ∃ k < 16, c = k.digitChar := by
  induction n using Nat.strongRecOn with
  | ind n ih =>
    rw [Nat.toDigits_eq_if (by decide)] at h
    split at h
    · next hlt => exact ⟨n, hlt, List.mem_singleton.mp h⟩
    · rcases List.mem_append.mp h with h | h
      · exact ih (n / 16) (by omega) h
      · exact ⟨n % 16, by omega, List.mem_singleton.mp h⟩

theorem digitChar_ne :
    ∀ k < 16, k.digitChar ∉ [':', '.', '%', '/'] := by
  decide

theorem not_mem_toDigits
    {c : Char}
    (h : c ∈ [':', '.', '%', '/'])
    (n : Nat) :
    c ∉ Nat.toDigits 16 n := by
  intro hmem
  obtain ⟨k, hk, rfl⟩ := exists_digitChar_of_mem hmem
  exact digitChar_ne k hk h

theorem foldlM_toDigits
    (n : Nat) :
    (Nat.toDigits 16 n).foldlM (fun n c => (Text.hexValue? c).map (n * 16 + ·)) 0 = some n := by
  induction n using Nat.strongRecOn with
  | ind n ih =>
    rw [Nat.toDigits_eq_if (by decide)]
    split
    · next hlt =>
      simp [Decimal.hexValue?_digitChar n hlt]
    · have hlast : n / 16 * 16 + n % 16 = n := by omega
      rw [List.foldlM_append, ih (n / 16) (by omega)]
      simp [Decimal.hexValue?_digitChar (n % 16) (by omega), hlast]

theorem group?_toDigits
    {g : Nat}
    (h : g < 65536) :
    group? (Nat.toDigits 16 g) = some g := by
  have hlength : (Nat.toDigits 16 g).length ≤ 4 :=
    (Nat.length_toDigits_le_iff (by decide) (by decide)).mpr h
  unfold group?
  rw [if_neg, foldlM_toDigits]
  simpa using hlength

theorem mapM_group?_toDigits
    {groups : List Nat}
    (h : ∀ g ∈ groups, g < 65536) :
    (groups.map (Nat.toDigits 16)).mapM group? = some groups := by
  induction groups with
  | nil => rfl
  | cons g gs ih =>
    rw [List.map_cons, List.mapM_cons, group?_toDigits (h g List.mem_cons_self),
      ih fun x hx => h x (List.mem_cons_of_mem g hx)]
    rfl

/-! ## Runs of zeros -/

theorem takeWhile_zero
    (groups : List Nat) :
    groups.takeWhile (· == 0) = List.replicate (zeroRun groups) 0 :=
  List.eq_replicate_iff.mpr ⟨rfl, fun g hg => by simpa using List.mem_takeWhile_imp hg⟩

/-- The run that a version 6 address leaves out is one of zero groups. -/
theorem longestRun_zeros
    (i : Nat)
    (groups : List Nat) :
    ∃ high low, groups = high ++ (List.replicate (longestRun i groups).2 0 ++ low) ∧
      (longestRun i groups).1 = i + high.length := by
  induction groups generalizing i with
  | nil => exact ⟨[], [], rfl, rfl⟩
  | cons g rest ih =>
    unfold longestRun
    dsimp only
    split
    · refine ⟨[], (g :: rest).dropWhile (· == 0), ?_, rfl⟩
      rw [List.nil_append, ← takeWhile_zero, List.takeWhile_append_dropWhile]
    · obtain ⟨high, low, hsplit, hplace⟩ := ih (i + 1)
      refine ⟨g :: high, low, ?_, ?_⟩
      · rw [List.cons_append, ← hsplit]
      · rw [hplace, List.length_cons]
        omega

/-! ## Version 6 -/

theorem joinGroups_groupsOf
    {n : Nat}
    (h : n < 2 ^ 128) :
    joinGroups (groupsOf n) = n := by
  simp only [groupsOf, joinGroups, List.foldl_cons, List.foldl_nil]
  omega

theorem areGroups_groupsOf
    (n : Nat) :
    AreGroups (groupsOf n) := by
  refine ⟨rfl, ?_⟩
  intro g hg
  simp only [groupsOf, List.mem_cons, List.not_mem_nil, or_false] at hg
  rcases hg with rfl | rfl | rfl | rfl | rfl | rfl | rfl | rfl <;> exact Nat.mod_lt _ (by decide)

/-- The texts between the colons of some groups.  No groups leave one empty text. -/
def pieces (groups : List Nat) : List (List Char) :=
  if groups = [] then [[]] else groups.map (Nat.toDigits 16)

theorem pieces_ne_nil
    (groups : List Nat) :
    pieces groups ≠ [] := by
  unfold pieces
  split
  · exact List.cons_ne_nil _ _
  · next h => exact fun he => h (List.map_eq_nil_iff.mp he)

theorem splitOn_groupsText
    (groups : List Nat) :
    (groupsText groups).splitOn ':' = pieces groups := by
  unfold pieces groupsText
  split
  · next h =>
    subst h
    rfl
  · next h =>
    refine List.splitOn_intercalate ':' ?_ fun he => h (List.map_eq_nil_iff.mp he)
    intro l hl
    obtain ⟨g, _, rfl⟩ := List.mem_map.mp hl
    exact not_mem_toDigits (by decide) g

theorem mem_groupsText
    {groups : List Nat}
    {c : Char}
    (h : c ∈ groupsText groups) :
    c = ':' ∨ ∃ g, c ∈ Nat.toDigits 16 g := by
  unfold groupsText at h
  induction groups with
  | nil => cases h
  | cons g rest ih =>
    cases rest with
    | nil => exact .inr ⟨g, by simpa using h⟩
    | cons g' rest =>
      rw [List.map_cons, List.map_cons, List.intercalate_cons_cons, ← List.map_cons] at h
      rcases List.mem_append.mp h with h | h
      · rcases List.mem_append.mp h with h | h
        · exact .inr ⟨g, h⟩
        · exact .inl (List.mem_singleton.mp h)
      · exact ih h

theorem ne_nil_of_mem
    {groups : List Nat}
    {piece : List Char}
    (h : piece ∈ groups.map (Nat.toDigits 16)) :
    piece ≠ [] := by
  obtain ⟨g, _, rfl⟩ := List.mem_map.mp h
  exact Nat.toDigits_ne_nil

theorem ne_nil_of_mem_tail
    {groups : List Nat}
    {piece : List Char}
    (h : piece ∈ (pieces groups).tail) :
    piece ≠ [] := by
  unfold pieces at h
  split at h
  · cases h
  · exact ne_nil_of_mem (List.mem_of_mem_tail h)

theorem ne_nil_of_mem_dropLast
    {groups : List Nat}
    {piece : List Char}
    (h : piece ∈ (pieces groups).dropLast) :
    piece ≠ [] := by
  unfold pieces at h
  split at h
  · cases h
  · exact ne_nil_of_mem ((List.dropLast_sublist _).mem h)

theorem findIdx?_isEmpty
    {ps : List (List Char)}
    (h : ∀ p ∈ ps, p ≠ []) :
    ps.findIdx? List.isEmpty = none :=
  List.findIdx?_eq_none_iff.mpr fun p hp => List.isEmpty_eq_false_iff.mpr (h p hp)

theorem filter_isEmpty
    {ps : List (List Char)}
    (h : ∀ p ∈ ps, p ≠ []) :
    ps.filter List.isEmpty = [] :=
  List.filter_eq_nil_iff.mpr fun p hp => by simpa using h p hp

/-- Groups with no empty text among them are read when there are eight. -/
theorem groups?_eight
    {groups : List Nat}
    (h : AreGroups groups) :
    groups? (groups.map (Nat.toDigits 16)) = some groups := by
  obtain ⟨hlength, hlt⟩ := h
  have hinner : ∀ p ∈ ((groups.map (Nat.toDigits 16)).drop 1).dropLast, p ≠ [] := fun p hp =>
    ne_nil_of_mem (List.mem_of_mem_drop ((List.dropLast_sublist _).mem hp))
  unfold groups?
  dsimp only
  rw [findIdx?_isEmpty hinner]
  dsimp only
  rw [if_pos (by rw [List.length_map, hlength]), mapM_group?_toDigits hlt]

/-- The texts on one side of the gap stand for their groups, also when the one at an end of them is
empty: then there are no groups on this side. -/
theorem side_pieces
    {groups : List Nat}
    {p : List Char}
    {e : Option (List Char)}
    (he : e = some p)
    (hp : p ∈ pieces groups) :
    (if e = some [] then
      (if (pieces groups).length = 1 then some [] else none) else some (pieces groups))
      = some (groups.map (Nat.toDigits 16)) := by
  subst he
  by_cases hnil : groups = []
  · subst hnil
    have hempty : p = [] := List.mem_singleton.mp hp
    subst hempty
    rfl
  · have hpieces : pieces groups = groups.map (Nat.toDigits 16) := if_neg hnil
    rw [hpieces] at hp ⊢
    have hne : some p ≠ some [] := by
      intro hsome
      exact ne_nil_of_mem hp (Option.some.inj hsome)
    rw [if_neg hne]

/-- Groups around one empty text are read with zeros in its place. -/
theorem groups?_gap
    {high low : List Nat}
    (hhigh : ∀ g ∈ high, g < 65536)
    (hlow : ∀ g ∈ low, g < 65536)
    (hlength : high.length + low.length ≤ 7) :
    groups? (pieces high ++ [] :: pieces low)
      = some (high ++ (List.replicate (8 - high.length - low.length) 0 ++ low)) := by
  have hinner : ((pieces high ++ [] :: pieces low).drop 1).dropLast
      = (pieces high).tail ++ [] :: (pieces low).dropLast := by
    rw [List.drop_one, List.tail_append_of_ne_nil (pieces_ne_nil high),
      List.dropLast_append_of_ne_nil (List.cons_ne_nil _ _),
      List.dropLast_cons_of_ne_nil (pieces_ne_nil low)]
  have hfind : ((pieces high).tail ++ [] :: (pieces low).dropLast).findIdx? List.isEmpty
      = some (pieces high).tail.length := by
    rw [List.findIdx?_append, findIdx?_isEmpty fun p hp => ne_nil_of_mem_tail hp]
    simp [List.findIdx?_cons]
  have hfilter : ((pieces high).tail ++ [] :: (pieces low).dropLast).filter List.isEmpty = [[]] := by
    rw [List.filter_append, filter_isEmpty fun p hp => ne_nil_of_mem_tail hp, List.nil_append,
      List.filter_cons_of_pos rfl, filter_isEmpty fun p hp => ne_nil_of_mem_dropLast hp]
  have hplace : (pieces high).tail.length + 1 = (pieces high).length := by
    have := List.length_pos_iff.mpr (pieces_ne_nil high)
    rw [List.length_tail]
    omega
  have htake : (pieces high ++ [] :: pieces low).take ((pieces high).tail.length + 1)
      = pieces high := by
    rw [hplace, List.take_left]
  have hdrop : (pieces high ++ [] :: pieces low).drop ((pieces high).tail.length + 2)
      = pieces low := by
    rw [← Nat.add_assoc _ 1 1, hplace, List.drop_append]
    simp
  have hhead := side_pieces (List.head?_eq_some_head (pieces_ne_nil high))
    (List.head_mem (pieces_ne_nil high))
  have hlast := side_pieces (List.getLast?_eq_some_getLast (pieces_ne_nil low))
    (List.getLast_mem (pieces_ne_nil low))
  unfold groups?
  dsimp only
  rw [hinner, hfind]
  dsimp only
  rw [hfilter, if_neg (by decide), htake, hdrop, hhead, hlast]
  dsimp only
  rw [List.length_map, List.length_map, if_neg (Nat.not_lt.mpr hlength),
    mapM_group?_toDigits hhigh, mapM_group?_toDigits hlow]
  rfl

/-- What the text of a version 6 number is made of. -/
inductive Compressed (n : Nat) : List Char → Prop
  | whole :
    Compressed n (groupsText (groupsOf n))
  | gap
    {high low : List Nat}
    {k : Nat}
    (split : groupsOf n = high ++ (List.replicate k 0 ++ low))
    (long : 2 ≤ k) :
    Compressed n (groupsText high ++ ':' :: ':' :: groupsText low)

theorem compressed_textV6
    (n : Nat) :
    Compressed n (textV6 n) := by
  obtain ⟨high, low, hsplit, hplace⟩ := longestRun_zeros 0 (groupsOf n)
  unfold textV6
  dsimp only
  generalize longestRun 0 (groupsOf n) = run at hsplit hplace
  obtain ⟨start, k⟩ := run
  dsimp only at hsplit hplace ⊢
  split
  · exact .whole
  · next hlong =>
    have htake : (groupsOf n).take start = high := by
      rw [hsplit, hplace, Nat.zero_add, List.take_left]
    have hdrop : (groupsOf n).drop (start + k) = low := by
      rw [hsplit, hplace, Nat.zero_add, List.drop_append]
      simp
    rw [htake, hdrop]
    exact .gap hsplit (Nat.not_lt.mp hlong)

theorem Compressed.not_mem
    {n : Nat}
    {cs : List Char}
    (h : Compressed n cs)
    {c : Char}
    (hc : c ∈ ['.', '%', '/']) :
    c ∉ cs := by
  have hcolon : c ≠ ':' := by
    rintro rfl
    exact absurd hc (by decide)
  have hgroups (groups : List Nat) : c ∉ groupsText groups := fun hmem => by
    rcases mem_groupsText hmem with he | ⟨g, hg⟩
    · exact hcolon he
    · exact not_mem_toDigits (List.mem_cons_of_mem _ hc) g hg
  cases h with
  | whole => exact hgroups _
  | gap split long => simp [hcolon, hgroups]

theorem Compressed.colon
    {n : Nat}
    {cs : List Char}
    (h : Compressed n cs) :
    ':' ∈ cs := by
  cases h with
  | whole =>
    rw [groupsOf, groupsText, List.map_cons, List.map_cons, List.intercalate_cons_cons]
    exact List.mem_append_left _ (List.mem_append_right _ List.mem_cons_self)
  | gap split long => exact List.mem_append_right _ List.mem_cons_self

/-- The texts between the colons are at least three and at most eight, and stand for the groups. -/
theorem Compressed.groups?
    {n : Nat}
    {cs : List Char}
    (h : Compressed n cs) :
    (3 ≤ (cs.splitOn ':').length ∧ (cs.splitOn ':').length ≤ 8) ∧
      Net.groups? (cs.splitOn ':') = some (groupsOf n) := by
  obtain ⟨hlength, hlt⟩ := areGroups_groupsOf n
  cases h with
  | whole =>
    have hpieces : pieces (groupsOf n) = (groupsOf n).map (Nat.toDigits 16) := rfl
    rw [splitOn_groupsText, hpieces, groups?_eight ⟨hlength, hlt⟩]
    rw [List.length_map, hlength]
    exact ⟨⟨by decide, by decide⟩, rfl⟩
  | @gap high low k split long =>
    have hsum : high.length + (k + low.length) = 8 := by
      rw [split] at hlength
      simpa using hlength
    have hpieces (groups : List Nat) : (pieces groups).length = max 1 groups.length := by
      cases groups with
      | nil => rfl
      | cons g gs =>
        show ((g :: gs).map _).length = _
        rw [List.length_map, List.length_cons]
        omega
    have hgap : (':' :: groupsText low).splitOn ':' = [] :: pieces low := by
      rw [List.splitOn_cons_eq_if_modifyHead, if_pos (beq_self_eq_true ':'), splitOn_groupsText]
    have hsplit : (groupsText high ++ ':' :: ':' :: groupsText low).splitOn ':'
        = pieces high ++ [] :: pieces low := by
      rw [List.splitOn_append_cons_self, splitOn_groupsText, hgap]
    have hk : 8 - high.length - low.length = k := by omega
    rw [hsplit, groups?_gap, hk, split]
    · refine ⟨?_, rfl⟩
      rw [List.length_append, List.length_cons, hpieces, hpieces]
      omega
    · exact fun g hg => hlt g (split ▸ List.mem_append_left _ hg)
    · exact fun g hg => hlt g (split ▸ List.mem_append_right _ (List.mem_append_right _ hg))
    · omega

/-- A number of version 6 is read from its text. -/
theorem Compressed.read
    {n : Nat}
    (hn : n < 2 ^ 128)
    {cs : List Char}
    (h : Compressed n cs) :
    readV6? cs = some n := by
  obtain ⟨⟨hlow, hhigh⟩, hgroups⟩ := h.groups?
  have htail : expandTail? (cs.splitOn ':') = some (cs.splitOn ':') := by
    unfold expandTail?
    split
    · rfl
    · next last hlast =>
      have hdot : '.' ∉ last := fun hmem =>
        h.not_mem (by decide) (Text.mem_of_mem_splitOn (List.mem_of_getLast? hlast) hmem).1
      rw [if_neg fun hmem => hdot (List.contains_iff_mem.mp hmem)]
  unfold readV6?
  dsimp only
  rw [if_neg (Nat.not_lt.mpr hlow), htail, Option.bind_eq_bind, Option.bind_some,
    if_neg (by omega), hgroups, Option.map_some, joinGroups_groupsOf hn]

/-! ## Texts of addresses -/

theorem mem_textV4
    {n : Nat}
    {c : Char}
    (h : c ∈ textV4 n) :
    c = '.' ∨ Decimal.isDigit c = true := by
  have hdigits {k : Nat} (hc : c ∈ Decimal.digits k) : c = '.' ∨ Decimal.isDigit c = true :=
    .inr (Decimal.isDigit_of_mem_digits hc)
  unfold textV4 at h
  simp only [List.mem_append, List.mem_cons] at h
  rcases h with h | rfl | h | rfl | h | rfl | h
  · exact hdigits h
  · exact .inl rfl
  · exact hdigits h
  · exact .inl rfl
  · exact hdigits h
  · exact .inl rfl
  · exact hdigits h

theorem Compressed.ordinary
    {n : Nat}
    {cs : List Char}
    (h : Compressed n cs) :
    ∀ c ∈ cs, Text.IsOrdinary c := by
  have hdigit : ∀ k < 16, k.digitChar.toNat < 0x80 := by decide
  have hgroups {groups : List Nat} {c : Char} (hc : c ∈ groupsText groups) :
      Text.IsOrdinary c := by
    rcases mem_groupsText hc with rfl | ⟨g, hg⟩
    · exact Text.isOrdinary_of_lt (by decide)
    · obtain ⟨k, hk, rfl⟩ := exists_digitChar_of_mem hg
      exact Text.isOrdinary_of_lt (hdigit k hk)
  intro c hc
  cases h with
  | whole => exact hgroups hc
  | gap split long =>
    simp only [List.mem_append, List.mem_cons] at hc
    rcases hc with hc | rfl | rfl | hc
    · exact hgroups hc
    · exact Text.isOrdinary_of_lt (by decide)
    · exact Text.isOrdinary_of_lt (by decide)
    · exact hgroups hc

/-- The code points of a zone with its mark. -/
def zoneCodes (zone : List Nat) : List Nat :=
  if zone = [] then [] else '%'.toNat :: zone

theorem codes_text_v4
    (n : Nat) :
    Text.codes (Address.v4 n).text = (textV4 n).map Char.toNat := by
  have hordinary : ∀ c ∈ textV4 n, Text.IsOrdinary c := by
    intro c hc
    rcases mem_textV4 hc with rfl | hc
    · exact Text.isOrdinary_of_lt (by decide)
    · exact Text.isOrdinary_of_lt (Decimal.low_of_isDigit hc).1
  have hcodes := Text.codesOf_ordinary hordinary []
  rw [List.append_nil] at hcodes
  rw [Text.codes, Address.text, String.toList_ofList, hcodes]
  exact List.append_nil _

theorem codes_text_v6
    (n : Nat)
    {zone : List Nat}
    (h : IsZone zone) :
    Text.codes (Address.v6 n zone).text = (textV6 n).map Char.toNat ++ zoneCodes zone := by
  have hordinary := (compressed_textV6 n).ordinary
  have hmark : Text.IsOrdinary '%' := Text.isOrdinary_of_lt (by decide)
  rw [Text.codes, Address.text, String.toList_append, String.toList_ofList,
    Text.codesOf_ordinary hordinary, zoneCodes]
  congr 1
  cases zone with
  | nil => rfl
  | cons code zone =>
    have hzone : ("%" ++ Text.ofCodes (code :: zone)).toList = '%' :: Text.held (code :: zone) := by
      simp [Text.ofCodes]
    rw [if_neg (by simp), if_neg (by simp), hzone, Text.codesOf_cons _ hmark.1 hmark.2,
      Text.codesOf_held _ h.codes]

theorem map_ofNat_toNat
    (cs : List Char) :
    (cs.map Char.toNat).map Char.ofNat = cs := by
  rw [List.map_map]
  exact (List.map_congr_left fun c _ => Char.ofNat_toNat c).trans (List.map_id cs)

theorem toNat_not_mem
    {c : Char}
    {cs : List Char}
    (h : c ∉ cs) :
    c.toNat ∉ cs.map Char.toNat := by
  intro hmem
  obtain ⟨d, hd, he⟩ := List.mem_map.mp hmem
  exact h (Char.toNat_inj.mp he ▸ hd)

/-- The zone is separated from an address without a mark of its own. -/
theorem splitZone?_zoneCodes
    {body zone : List Nat}
    (hbody : '%'.toNat ∉ body)
    (h : IsZone zone) :
    splitZone? (body ++ zoneCodes zone) = some (body, zone) := by
  have hkept : ∀ code ∈ body, decide (code ≠ '%'.toNat) = true := fun code hcode =>
    decide_eq_true fun he => hbody (he ▸ hcode)
  unfold splitZone? zoneCodes
  dsimp only
  cases zone with
  | nil =>
    rw [if_pos rfl, List.append_nil, List.dropWhile_eq_nil_iff.mpr hkept]
  | cons code zone =>
    have hmark : ¬ ((code :: zone).isEmpty = true ∨ (code :: zone).contains '%'.toNat = true) := by
      rintro (he | he)
      · cases he
      · exact h.mark (List.contains_iff_mem.mp he)
    rw [if_neg (by simp), List.dropWhile_append_of_pos hkept, List.dropWhile_cons_of_neg (by simp)]
    dsimp only
    rw [if_neg hmark, List.takeWhile_append_of_pos hkept, List.takeWhile_cons_of_neg (by simp),
      List.append_nil]

/-- Every valid address is read from its own text. -/
theorem read?_text
    {a : Address}
    (h : a.Valid) :
    Address.read? a.text = some a := by
  cases a with
  | v4 n =>
    have hslash : '/' ∉ textV4 n := by
      intro hmem
      rcases mem_textV4 hmem with he | he
      · exact absurd he (by decide)
      · exact absurd he (by decide)
    unfold Address.read?
    dsimp only
    rw [codes_text_v4, if_neg fun hmem => toNat_not_mem hslash (List.contains_iff_mem.mp hmem),
      map_ofNat_toNat, readV4?_textV4 h]
  | v6 n zone =>
    obtain ⟨hn, hzone⟩ := h
    have htext := compressed_textV6 n
    have hslash : ¬ ((textV6 n).map Char.toNat ++ zoneCodes zone).contains '/'.toNat = true := by
      intro hmem
      rcases List.mem_append.mp (List.contains_iff_mem.mp hmem) with hmem | hmem
      · exact toNat_not_mem (htext.not_mem (by decide)) hmem
      · unfold zoneCodes at hmem
        split at hmem
        · cases hmem
        · rcases List.mem_cons.mp hmem with he | hmem
          · exact absurd he (by decide)
          · exact hzone.slash hmem
    have hbody : '%'.toNat ∉ (textV6 n).map Char.toNat := toNat_not_mem (htext.not_mem (by decide))
    unfold Address.read?
    dsimp only
    rw [codes_text_v6 n hzone, if_neg hslash, List.map_append, map_ofNat_toNat,
      readV4?_eq_none htext.colon (htext.not_mem (by decide)), splitZone?_zoneCodes hbody hzone]
    rw [Option.bind_eq_bind, Option.bind_some, map_ofNat_toNat, htext.read hn]
    rfl

end Net
end Rebalance
