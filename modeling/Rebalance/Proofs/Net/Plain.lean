import Rebalance.Proofs.Net.Spelling

/-!
# The plain spelling of an address among those that are read

* `IsPlain`: a spelling of a number of version 6 without capital letters, leading zeros and octets,
  which leaves out the first longest run of zero groups and no other.
* `eq_textV6_iff`: a spelling of a number is its text just when it is plain.
* `Address.IsPlain`, `eq_text_iff`: a text that is read as an address is the text of this address
  just when it is plain.  A number of version 4 has no other spelling.
-/

namespace Rebalance
namespace Net

/-- How many groups a text with colons between them has. -/
def fields (cs : List Char) : Nat :=
  if cs = [] then 0 else (cs.splitOn ':').length

/-- Whether a spelling of a number of version 6 is the plain one. -/
structure IsPlain (n : Nat) (cs : List Char) : Prop where
  groups : ∀ p ∈ cs.splitOn ':', IsPlainGroup p
  dotless : '.' ∉ cs
  gap : ∀ high low, cs = high ++ ':' :: ':' :: low →
    2 ≤ 8 - fields high - fields low ∧
      IsFirstLongest (groupsOf n) (fields high) (8 - fields high - fields low)
  gapless : (∀ high low, cs ≠ high ++ ':' :: ':' :: low) →
    ∀ i, ¬ ((groupsOf n)[i]? = some 0 ∧ (groupsOf n)[i + 1]? = some 0)

/-! ## Texts around a gap -/

theorem splitOn_inj
    {cs ds : List Char}
    (h : cs.splitOn ':' = ds.splitOn ':') :
    cs = ds := by
  have hcs : [':'].intercalate (cs.splitOn ':') = cs := List.intercalate_splitOn ':'
  rw [← hcs, h, List.intercalate_splitOn]

theorem splitOn_gap
    (high low : List Char) :
    (high ++ ':' :: ':' :: low).splitOn ':' = high.splitOn ':' ++ [] :: low.splitOn ':' := by
  have hlow : (':' :: low).splitOn ':' = [] :: low.splitOn ':' := by
    rw [List.splitOn_cons_eq_if_modifyHead, if_pos (beq_self_eq_true ':')]
  rw [List.splitOn_append_cons_self, hlow]

/-- The empty text between others is at one place only. -/
theorem eq_of_append_gap
    {high low high' low' : List (List Char)}
    (h : high ++ [] :: low = high' ++ [] :: low')
    (hhigh : [] ∉ high.tail)
    (hlow : [] ∉ low.dropLast)
    (hhigh' : high' ≠ [])
    (hlow' : low' ≠ []) :
    high = high' ∧ low = low' := by
  rcases List.append_eq_append_iff.mp h with ⟨between, rfl, hrest⟩ | ⟨between, rfl, hrest⟩
  · cases between with
    | nil =>
      rw [List.nil_append, List.cons.injEq] at hrest
      exact ⟨(List.append_nil high).symm, hrest.2⟩
    | cons p between =>
      rw [List.cons_append, List.cons.injEq] at hrest
      refine absurd ?_ hlow
      rw [hrest.2, List.dropLast_append_of_ne_nil (List.cons_ne_nil _ _),
        List.dropLast_cons_of_ne_nil hlow']
      exact List.mem_append_right _ List.mem_cons_self
  · cases between with
    | nil =>
      rw [List.nil_append, List.cons.injEq] at hrest
      exact ⟨List.append_nil high', hrest.2.symm⟩
    | cons p between =>
      rw [List.cons_append, List.cons.injEq] at hrest
      refine absurd ?_ hhigh
      rw [List.tail_append_of_ne_nil hhigh', ← hrest.1]
      exact List.mem_append_right _ List.mem_cons_self

theorem fields_groupsText
    (groups : List Nat) :
    fields (groupsText groups) = groups.length := by
  have hsplit := splitOn_groupsText groups
  unfold fields
  split
  · next h =>
    rw [h, List.splitOn_nil, pieces] at hsplit
    split at hsplit
    · next hnil => rw [hnil, List.length_nil]
    · exact absurd rfl (ne_nil_of_mem (hsplit ▸ List.mem_singleton_self []))
  · next h =>
    rw [hsplit, pieces]
    split
    · next hnil =>
      subst hnil
      exact absurd rfl h
    · rw [List.length_map]

/-! ## Reading a spelling backwards -/

/-- Whether the texts on one side of a gap stand for groups.  One empty text stands for none. -/
def IsSide (ps : List (List Char)) (groups : List Nat) : Prop :=
  ps = [[]] ∧ groups = [] ∨ ps ≠ [] ∧ ps.mapM group? = some groups

theorem isSide_of_end
    {ps qs : List (List Char)}
    {e : Option (List Char)}
    {groups : List Nat}
    (hne : ps ≠ [])
    (h : (if e = some [] then (if ps.length = 1 then some [] else none) else some ps) = some qs)
    (he : ∀ p, ps = [p] → e = some p)
    (hread : qs.mapM group? = some groups) :
    IsSide ps groups := by
  split at h
  · next hempty =>
    split at h
    · next hlength =>
      cases h
      cases hread
      obtain ⟨p, rfl⟩ := List.length_eq_one_iff.mp hlength
      have hp : p = [] := Option.some.inj ((he p rfl).symm.trans hempty)
      exact .inl ⟨by rw [hp], rfl⟩
    · cases h
  · cases h
    exact .inr ⟨hne, hread⟩

/-- Groups are read from their texts, or from the texts around a gap. -/
theorem exists_of_groups?
    {parts : List (List Char)}
    {groups : List Nat}
    (h : groups? parts = some groups) :
    parts.mapM group? = some groups ∨
      ∃ high low upper lower, parts = high ++ [] :: low ∧ IsSide high upper ∧ IsSide low lower ∧
        groups = upper ++ (List.replicate (8 - upper.length - lower.length) 0 ++ lower) := by
  unfold groups? at h
  dsimp only at h
  split at h
  · split at h
    · exact .inl h
    · cases h
  · next i hfind =>
    split at h
    · cases h
    · split at h
      · next high? low? high low hhigh hlow =>
        obtain ⟨hi, hempty, -⟩ := List.findIdx?_eq_some_iff_getElem.mp hfind
        rw [List.getElem_dropLast, List.getElem_drop, List.isEmpty_iff] at hempty
        rw [List.length_dropLast, List.length_drop] at hi
        have hparts : parts = parts.take (i + 1) ++ [] :: parts.drop (i + 2) := by
          have hplace : i + 1 < parts.length := by omega
          have hget : parts[i + 1] = [] := by
            rw [← hempty]
            exact getElem_congr_idx (Nat.add_comm i 1)
          rw [← hget, ← List.drop_eq_getElem_cons hplace, List.take_append_drop]
        split at h
        · cases h
        · obtain ⟨upper, hupper, h⟩ := Option.bind_eq_some_iff.mp h
          obtain ⟨lower, hlower, h⟩ := Option.bind_eq_some_iff.mp h
          cases h
          refine .inr ⟨_, _, upper, lower, hparts, isSide_of_end ?_ hhigh ?_ hupper,
            isSide_of_end ?_ hlow ?_ hlower, rfl⟩
          · exact List.ne_nil_of_length_pos (by rw [List.length_take]; omega)
          · intro p hp
            rw [hp]
            rfl
          · exact List.ne_nil_of_length_pos (by rw [List.length_drop]; omega)
          · intro p hp
            rw [hp]
            rfl
      · cases h

theorem pieces_of_isSide
    {ps : List (List Char)}
    {groups : List Nat}
    (h : IsSide ps groups)
    (hplain : ∀ p ∈ ps, IsPlainGroup p) :
    ps = pieces groups := by
  rcases h with ⟨hps, hgroups⟩ | ⟨hne, hread⟩
  · rw [hps, hgroups]
    rfl
  · have hmap := eq_map_toDigits_of_mapM hread hplain
    rw [pieces, if_neg, hmap]
    rintro rfl
    exact hne hmap

/-- What a spelling with plain groups and without octets is made of. -/
theorem exists_of_readV6?
    {cs : List Char}
    {n : Nat}
    (h : readV6? cs = some n)
    (hgroups : ∀ p ∈ cs.splitOn ':', IsPlainGroup p)
    (hdotless : '.' ∉ cs) :
    cs = groupsText (groupsOf n) ∨
      ∃ high low, cs = groupsText high ++ ':' :: ':' :: groupsText low ∧
        groupsOf n = high ++ (List.replicate (8 - high.length - low.length) 0 ++ low) := by
  have htail : expandTail? (cs.splitOn ':') = some (cs.splitOn ':') := by
    unfold expandTail?
    split
    · rfl
    · next last hlast =>
      have hdot : '.' ∉ last := fun hmem =>
        hdotless (Text.mem_of_mem_splitOn (List.mem_of_getLast? hlast) hmem).1
      rw [if_neg fun hmem => hdot (List.contains_iff_mem.mp hmem)]
  unfold readV6? at h
  dsimp only at h
  rw [htail] at h
  split at h
  · cases h
  · rw [Option.bind_eq_bind, Option.bind_some] at h
    split at h
    · cases h
    · obtain ⟨groups, hread, rfl⟩ := Option.map_eq_some_iff.mp h
      rw [groupsOf_joinGroups (areGroups_of_groups? hread)]
      rcases exists_of_groups? hread with hwhole | ⟨high, low, upper, lower, hparts, hup, hlow, rfl⟩
      · refine .inl ?_
        rw [groupsText, ← eq_map_toDigits_of_mapM hwhole hgroups, List.intercalate_splitOn]
      · refine .inr ⟨upper, lower, splitOn_inj ?_, rfl⟩
        rw [hparts, List.forall_mem_append, List.forall_mem_cons] at hgroups
        rw [hparts, splitOn_gap, splitOn_groupsText, splitOn_groupsText,
          pieces_of_isSide hup hgroups.1, pieces_of_isSide hlow hgroups.2.2]

/-! ## The plain spelling -/

theorem isPlainGroup_of_mem_pieces
    {groups : List Nat}
    {p : List Char}
    (h : p ∈ pieces groups) :
    IsPlainGroup p := by
  unfold pieces at h
  split at h
  · rw [List.mem_singleton.mp h]
    exact isPlainGroup_nil
  · obtain ⟨g, _, rfl⟩ := List.mem_map.mp h
    exact isPlainGroup_toDigits g

/-- The eight groups of a number written out have no gap. -/
theorem groupsText_groupsOf_ne
    (n : Nat)
    (high low : List Char) :
    groupsText (groupsOf n) ≠ high ++ ':' :: ':' :: low := by
  intro h
  have hsplit := congrArg (List.splitOn ':') h
  rw [splitOn_groupsText, splitOn_gap] at hsplit
  have hmem : [] ∈ pieces (groupsOf n) :=
    hsplit ▸ List.mem_append_right _ List.mem_cons_self
  have hne : ∀ piece ∈ pieces (groupsOf n), piece ≠ [] := fun _ => ne_nil_of_mem
  exact hne [] hmem rfl

/-- Where a number has a run of two or more zero groups that is the first longest, the run is left
out. -/
theorem textV6_gap
    {n start length : Nat}
    (hlong : 2 ≤ length)
    (h : IsFirstLongest (groupsOf n) start length) :
    textV6 n = groupsText ((groupsOf n).take start) ++
      ':' :: ':' :: groupsText ((groupsOf n).drop (start + length)) := by
  unfold textV6
  dsimp only
  rw [longestRun_eq_iff.mpr h]
  exact if_neg (Nat.not_lt.mpr hlong)

/-- Where no zero groups stand side by side, all groups are written. -/
theorem textV6_whole
    {n : Nat}
    (h : ∀ i, ¬ ((groupsOf n)[i]? = some 0 ∧ (groupsOf n)[i + 1]? = some 0)) :
    textV6 n = groupsText (groupsOf n) := by
  have hlt := longestRun_lt_two_iff.mpr h
  unfold textV6
  dsimp only
  rw [if_pos hlt]

theorem gapless_or_exists_gap
    (n : Nat) :
    (∀ i, ¬ ((groupsOf n)[i]? = some 0 ∧ (groupsOf n)[i + 1]? = some 0)) ∨
      ∃ start length, 2 ≤ length ∧ IsFirstLongest (groupsOf n) start length := by
  obtain ⟨start, -, hrun⟩ := isFirstLongest_longestRun 0 (groupsOf n)
  rcases Nat.lt_or_ge (longestRun 0 (groupsOf n)).2 2 with hshort | hlong
  · exact .inl (longestRun_lt_two_iff.mp hshort)
  · exact .inr ⟨start, _, hlong, hrun⟩

/-- A run of zero groups lies within the eight groups. -/
theorem IsFirstLongest.le
    {n start length : Nat}
    (h : IsFirstLongest (groupsOf n) start length)
    (hlong : 2 ≤ length) :
    start + length ≤ 8 := by
  have hlast := h.zeros (length - 1) (by omega)
  obtain ⟨hlt, _⟩ := List.getElem?_eq_some_iff.mp hlast
  rw [(areGroups_groupsOf n).1] at hlt
  omega

theorem isPlainGroup_of_mem_textV6
    {n : Nat}
    {p : List Char}
    (h : p ∈ (textV6 n).splitOn ':') :
    IsPlainGroup p := by
  have hcompressed := compressed_textV6 n
  generalize textV6 n = cs at hcompressed h
  cases hcompressed with
  | whole =>
    rw [splitOn_groupsText] at h
    exact isPlainGroup_of_mem_pieces h
  | gap split long =>
    rw [splitOn_gap, splitOn_groupsText, splitOn_groupsText] at h
    rcases List.mem_append.mp h with h | h
    · exact isPlainGroup_of_mem_pieces h
    · rcases List.mem_cons.mp h with rfl | h
      · exact isPlainGroup_nil
      · exact isPlainGroup_of_mem_pieces h

/-- The text of a number is plain. -/
theorem isPlain_textV6
    (n : Nat) :
    IsPlain n (textV6 n) := by
  refine ⟨fun p hp => isPlainGroup_of_mem_textV6 hp, (compressed_textV6 n).not_mem (by decide),
    ?_, ?_⟩
  · intro high low hcs
    rcases gapless_or_exists_gap n with hgapless | ⟨start, length, hlong, hrun⟩
    · exact absurd ((textV6_whole hgapless).symm.trans hcs) (groupsText_groupsOf_ne n high low)
    · have hsplit := congrArg (List.splitOn ':') ((textV6_gap hlong hrun).symm.trans hcs)
      rw [splitOn_gap, splitOn_gap, splitOn_groupsText, splitOn_groupsText] at hsplit
      obtain ⟨hhigh, hlow⟩ := eq_of_append_gap hsplit (fun hmem => ne_nil_of_mem_tail hmem rfl)
        (fun hmem => ne_nil_of_mem_dropLast hmem rfl) (List.splitOn_ne_nil _ _)
        (List.splitOn_ne_nil _ _)
      rw [← splitOn_groupsText] at hhigh hlow
      have hle := hrun.le hlong
      rw [← splitOn_inj hhigh, ← splitOn_inj hlow, fields_groupsText, fields_groupsText,
        List.length_take, List.length_drop, (areGroups_groupsOf n).1, Nat.min_eq_left (by omega)]
      have hlength : 8 - start - (8 - (start + length)) = length := by omega
      rw [hlength]
      exact ⟨hlong, hrun⟩
  · intro hnone
    rcases gapless_or_exists_gap n with hgapless | ⟨start, length, hlong, hrun⟩
    · exact hgapless
    · exact absurd (textV6_gap hlong hrun) (hnone _ _)

/-- A spelling of a number is its text just when it is plain. -/
theorem eq_textV6_iff
    {cs : List Char}
    {n : Nat}
    (h : readV6? cs = some n) :
    cs = textV6 n ↔ IsPlain n cs := by
  constructor
  · intro hcs
    rw [hcs]
    exact isPlain_textV6 n
  · intro hplain
    rcases exists_of_readV6? h hplain.groups hplain.dotless with rfl | ⟨high, low, rfl, hgroups⟩
    · exact (textV6_whole (hplain.gapless (groupsText_groupsOf_ne n))).symm
    · obtain ⟨hlong, hrun⟩ := hplain.gap _ _ rfl
      rw [fields_groupsText, fields_groupsText] at hlong hrun
      have htake : (groupsOf n).take high.length = high := by
        rw [hgroups, List.take_left]
      have hdrop : (groupsOf n).drop (high.length + (8 - high.length - low.length)) = low := by
        rw [hgroups, List.drop_append]
        simp
      rw [textV6_gap hlong hrun, htake, hdrop]

/-! ## Texts of addresses -/

/-- Code points are those of the characters that they were taken as, where none is a null. -/
theorem eq_map_toNat
    {codes : List Nat}
    {cs : List Char}
    (h : codes.map Char.ofNat = cs)
    (hnull : ∀ c ∈ cs, c.toNat ≠ 0) :
    codes = cs.map Char.toNat := by
  subst h
  rw [List.map_map]
  refine ((List.map_congr_left fun code hcode => ?_).trans (List.map_id codes)).symm
  have hne := hnull _ (List.mem_map_of_mem hcode)
  by_cases hvalid : code.isValidChar
  · exact Text.toNat_ofNat hvalid
  · rw [Char.ofNat, dif_neg hvalid] at hne
    exact absurd rfl hne

theorem toNat_ne_zero_of_mem_textV4
    {n : Nat}
    {c : Char}
    (h : c ∈ textV4 n) :
    c.toNat ≠ 0 := by
  have hdigits : ∀ k < 10, k.digitChar.toNat ≠ 0 := by decide
  rcases mem_textV4 h with rfl | hdigit
  · decide
  · obtain ⟨k, hk, rfl, -⟩ := exists_of_isDigit hdigit
    exact hdigits k hk

theorem toNat_ne_zero_of_mem_textV6
    {n : Nat}
    {c : Char}
    (h : c ∈ textV6 n) :
    c.toNat ≠ 0 := by
  have hdigit : ∀ k < 16, k.digitChar.toNat ≠ 0 := by decide
  have hgroups {groups : List Nat} (hc : c ∈ groupsText groups) : c.toNat ≠ 0 := by
    rcases mem_groupsText hc with rfl | ⟨g, hg⟩
    · decide
    · obtain ⟨k, hk, rfl⟩ := exists_digitChar_of_mem hg
      exact hdigit k hk
  have hcompressed := compressed_textV6 n
  generalize textV6 n = cs at hcompressed h
  cases hcompressed with
  | whole => exact hgroups h
  | gap split long =>
    simp only [List.mem_append, List.mem_cons] at h
    rcases h with h | rfl | rfl | h
    · exact hgroups h
    · decide
    · decide
    · exact hgroups h

/-- The characters of a text in front of its zone. -/
def bodyOf (s : String) : List Char :=
  ((Text.codes s).takeWhile (· ≠ '%'.toNat)).map Char.ofNat

theorem eq_append_of_splitZone?
    {codes body zone : List Nat}
    (h : splitZone? codes = some (body, zone)) :
    codes = body ++ zoneCodes zone ∧ codes.takeWhile (· ≠ '%'.toNat) = body := by
  unfold splitZone? at h
  dsimp only at h
  split at h
  · next hdrop =>
    cases h
    refine ⟨(List.append_nil _).symm, List.takeWhile_eq_self_iff.mpr fun code hcode => ?_⟩
    exact List.dropWhile_eq_nil_iff.mp hdrop code hcode
  · next mark rest hdrop =>
    split at h
    · cases h
    · next hzone =>
      cases h
      have hmark : mark = '%'.toNat := by
        have := List.head?_dropWhile_not (fun code : Nat => decide (code ≠ '%'.toNat)) codes
        rw [hdrop] at this
        simpa using this
      have hne : zone ≠ [] := fun he => hzone (.inl (List.isEmpty_iff.mpr he))
      subst hmark
      refine ⟨?_, rfl⟩
      rw [zoneCodes, if_neg hne, ← hdrop, List.takeWhile_append_dropWhile]

/-- Whether a text that is read as an address is the plain one.  One of version 4 always is. -/
def Address.IsPlain (s : String) : Address → Prop
  | .v4 _ => True
  | .v6 n _ => Net.IsPlain n (bodyOf s)

/-- A text that is read as an address is the text of this address just when it is plain. -/
theorem eq_text_iff
    {s : String}
    {a : Address}
    (h : Address.read? s = some a) :
    s = a.text ↔ a.IsPlain s := by
  have hvalid := valid_of_read? h
  unfold Address.read? at h
  dsimp only at h
  split at h
  · cases h
  · split at h
    · next n hn =>
      cases h
      have hcodes : Text.codes s = Text.codes (Address.v4 n).text := by
        rw [codes_text_v4]
        exact eq_map_toNat (eq_textV4_of_readV4? hn) fun c hc => toNat_ne_zero_of_mem_textV4 hc
      exact iff_of_true (Text.codes_inj hcodes) trivial
    · obtain ⟨⟨body, zone⟩, hsplit, h⟩ := Option.bind_eq_some_iff.mp h
      dsimp only at h
      obtain ⟨n, hn, h⟩ := Option.bind_eq_some_iff.mp h
      cases h
      obtain ⟨hcodes, hbody⟩ := eq_append_of_splitZone? hsplit
      have htext := codes_text_v6 n hvalid.2
      show _ ↔ Net.IsPlain n (bodyOf s)
      rw [bodyOf, hbody, ← eq_textV6_iff hn]
      constructor
      · intro hs
        rw [hs, htext] at hcodes
        rw [← List.append_cancel_right hcodes, map_ofNat_toNat]
      · intro hplain
        refine Text.codes_inj ?_
        rw [htext, hcodes, eq_map_toNat hplain fun c hc => toNat_ne_zero_of_mem_textV6 hc]

end Net
end Rebalance
