import Mathlib.Algebra.Ring.Nat
import PairionClient.Protocol.BinaryCodec

/-!
# The round trip of binary frames

The prefix of a frame is spelled by the first eight digits of its stream id, and decoding a frame takes it apart where encoding
put it together.
-/

namespace PairionClient

/-! ## The text of a UUID -/

namespace QUuid

/-- The bytes that hexadecimal digits spell, two digits each. -/
def hexPairs : List Nat → Bytes
  | hi :: lo :: digits => UInt8.ofNat (16 * hi + lo) :: hexPairs digits
  | _ => []

/-- The characters are hexadecimal digits of these values. -/
def Spells (cs : List Char) (digits : List Nat) : Prop := cs.map hexDigit = digits.map some

/-- The text begins with groups of bytes of the sizes given, two digits a byte and `-` between the groups. -/
inductive Grouped : List Nat → List Char → List Nat → Prop where
  | last {n : Nat} {group rest : List Char} {digits : List Nat} (hlength : group.length = 2 * n) (h : Spells group digits) :
      Grouped [n] (group ++ rest) digits
  | cons {n m : Nat} {ns : List Nat} {group cs : List Char} {digits digits' : List Nat} (hlength : group.length = 2 * n)
      (h : Spells group digits) (hrest : Grouped (m :: ns) cs digits') :
      Grouped (n :: m :: ns) (group ++ '-' :: cs) (digits ++ digits')

/-- The text of a UUID of these digits, with or without its opening brace; Qt reads no further than the last digit. -/
def TextForm (text : String) (digits : List Nat) : Prop :=
  ∃ cs, (text.toList = cs ∨ text.toList = '{' :: cs) ∧ Grouped [4, 2, 2, 2, 6] cs digits

/-- The UUID of these digits is not the null UUID. -/
def NonNull (digits : List Nat) : Prop := ∃ d ∈ digits, d ≠ 0

/-- A hexadecimal digit is less than 16. -/
theorem hexDigit_lt {c : Char} {d : Nat} (h : hexDigit c = some d) : d < 16 := by
  unfold hexDigit at h
  split at h
  · have hle : c.toNat ≤ 57 := ‹_ ∧ _›.2
    cases h
    omega
  · split at h
    · have hle : c.toNat ≤ 102 := ‹ 'a' ≤ c ∧ c ≤ 'f'›.2
      cases h
      omega
    · split at h
      · have hle : c.toNat ≤ 70 := ‹ 'A' ≤ c ∧ c ≤ 'F'›.2
        cases h
        omega
      · cases h

theorem Spells.lt {cs : List Char} {digits : List Nat} (h : Spells cs digits) : ∀ d ∈ digits, d < 16 := by
  intro d hd
  have hmem : some d ∈ cs.map hexDigit := by
    rw [h]
    exact List.mem_map_of_mem hd
  obtain ⟨c, -, hc⟩ := List.mem_map.1 hmem
  exact hexDigit_lt hc

/-- Each character spells one digit. -/
theorem Spells.length {cs : List Char} {digits : List Nat} (h : Spells cs digits) : digits.length = cs.length := by
  have hlength := congrArg List.length h
  rw [List.length_map, List.length_map] at hlength
  exact hlength.symm

/-- Digits that spell are read as the bytes that they spell. -/
theorem hexBytes_of_spells {n : Nat} {group : List Char} {digits : List Nat} (hlength : group.length = 2 * n)
    (h : Spells group digits) (rest : List Char) : hexBytes n (group ++ rest) = some (hexPairs digits, rest) := by
  induction n generalizing group digits with
  | zero =>
    obtain rfl : group = [] := List.length_eq_zero_iff.1 hlength
    obtain rfl : digits = [] := List.length_eq_zero_iff.1 h.length
    rfl
  | succ n ih =>
    match group, digits with
    | hi :: lo :: group, d :: d' :: digits =>
      rw [Spells, List.map_cons, List.map_cons, List.map_cons, List.map_cons, List.cons.injEq, List.cons.injEq] at h
      obtain ⟨hhi, hlo, hgroup⟩ := h
      have hrest : group.length = 2 * n := by
        simp only [List.length_cons] at hlength
        omega
      have ih := ih hrest hgroup
      simp only [List.cons_append, hexBytes, hhi, hlo, ih]
      rfl
    | [_], _ => simp at hlength; omega
    | [], _ => simp at hlength
    | _ :: _ :: _, [] => cases h
    | _ :: _ :: _, [_] => simp [Spells] at h

/-- The bytes of a group are those that its digits spell in pairs. -/
theorem spells_of_hexBytes {n : Nat} {cs : List Char} {r : Bytes × List Char} (h : hexBytes n cs = some r) :
    ∃ group digits, cs = group ++ r.2 ∧ group.length = 2 * n ∧ Spells group digits ∧ r.1 = hexPairs digits := by
  fun_induction hexBytes n cs generalizing r with
  | case1 cs =>
    cases h
    exact ⟨[], [], rfl, rfl, rfl, rfl⟩
  | case2 n hi lo cs ih =>
    simp only [Option.bind_eq_bind, Option.bind_eq_some_iff, Option.some.injEq] at h
    obtain ⟨d, hd, d', hd', r', hr', rfl⟩ := h
    obtain ⟨group, digits, rfl, hlength, hspells, hbytes⟩ := ih hr'
    refine ⟨hi :: lo :: group, d :: d' :: digits, rfl, ?_, ?_, ?_⟩
    · simp only [List.length_cons]
      omega
    · rw [Spells, List.map_cons, List.map_cons, hd, hd', hspells]
      rfl
    · rw [hexPairs, hbytes]
  | case3 n cs hne => cases h

theorem hexPairs_append {n : Nat} {digits : List Nat} (hlength : digits.length = 2 * n) (digits' : List Nat) :
    hexPairs (digits ++ digits') = hexPairs digits ++ hexPairs digits' := by
  induction n generalizing digits with
  | zero =>
    obtain rfl : digits = [] := List.length_eq_zero_iff.1 hlength
    rfl
  | succ n ih =>
    match digits with
    | d :: d' :: digits =>
      have hrest : digits.length = 2 * n := by
        simp only [List.length_cons] at hlength
        omega
      have ih := ih hrest
      simp only [List.cons_append, hexPairs, ih]
    | [_] => simp at hlength; omega
    | [] => simp at hlength

/-- Groups that spell are read as the bytes that they spell. -/
theorem hexGroups_of_grouped {ns : List Nat} {cs : List Char} {digits : List Nat} (h : Grouped ns cs digits) :
    hexGroups ns cs = some (hexPairs digits) := by
  induction h with
  | last hlength h => rw [hexGroups, hexBytes_of_spells hlength h, Option.map_some]
  | cons hlength h hrest ih =>
    rw [hexGroups, hexBytes_of_spells hlength h, Option.bind_eq_bind, Option.bind_some]
    simp only [ih, Option.map_some, hexPairs_append (h.length.trans hlength)]
    simp

/-- The bytes of an id are those of digits grouped as the form says. -/
theorem grouped_of_hexGroups {n : Nat} {ns : List Nat} {cs : List Char} {bs : Bytes}
    (h : hexGroups (n :: ns) cs = some bs) : ∃ digits, Grouped (n :: ns) cs digits ∧ bs = hexPairs digits := by
  induction ns generalizing n cs bs with
  | nil =>
    obtain ⟨r, hr, rfl⟩ := Option.map_eq_some_iff.1 h
    obtain ⟨group, digits, rfl, hlength, hspells, hbytes⟩ := spells_of_hexBytes hr
    exact ⟨digits, .last hlength hspells, hbytes⟩
  | cons m ns ih =>
    obtain ⟨r, hr, h⟩ := Option.bind_eq_some_iff.1 h
    split at h
    · rename_i cs' hcs'
      obtain ⟨bs', hbs', rfl⟩ := Option.map_eq_some_iff.1 h
      obtain ⟨group, digits, rfl, hlength, hspells, hbytes⟩ := spells_of_hexBytes hr
      obtain ⟨digits', hgrouped, rfl⟩ := ih hbs'
      rw [hcs', hbytes, ← hexPairs_append (hspells.length.trans hlength)]
      exact ⟨_, .cons hlength hspells hgrouped, rfl⟩
    · cases h

/-- Every digit of a grouped text is less than 16. -/
theorem Grouped.lt {ns : List Nat} {cs : List Char} {digits : List Nat} (h : Grouped ns cs digits) : ∀ d ∈ digits, d < 16 := by
  induction h with
  | last hlength h => exact h.lt
  | cons hlength h hrest ih =>
    intro d hd
    rcases List.mem_append.1 hd with hd | hd
    · exact h.lt d hd
    · exact ih d hd

/-- A grouped text has two digits for each byte. -/
theorem Grouped.length {ns : List Nat} {cs : List Char} {digits : List Nat} (h : Grouped ns cs digits) :
    digits.length = 2 * ns.sum := by
  induction h with
  | last hlength h => rw [h.length, hlength, List.sum_cons, List.sum_nil, Nat.add_zero]
  | cons hlength h hrest ih =>
    rw [List.length_append, h.length, hlength, ih, ← Nat.mul_add]
    rfl

/-- Two digits make a byte. -/
theorem length_hexPairs {n : Nat} {digits : List Nat} (hlength : digits.length = 2 * n) : (hexPairs digits).length = n := by
  induction n generalizing digits with
  | zero =>
    obtain rfl : digits = [] := List.length_eq_zero_iff.1 hlength
    rfl
  | succ n ih =>
    match digits with
    | d :: d' :: digits =>
      have hrest : digits.length = 2 * n := by
        simp only [List.length_cons] at hlength
        omega
      have ih := ih hrest
      rw [hexPairs, List.length_cons, ih]
    | [_] => simp at hlength; omega
    | [] => simp at hlength

/-- Numbers below 256 are the same as bytes only if they are the same. -/
theorem ofNat_inj {n m : Nat} (hn : n < 256) (hm : m < 256) (h : UInt8.ofNat n = UInt8.ofNat m) : n = m := by
  have htoNat := congrArg UInt8.toNat h
  rwa [UInt8.toNat_ofNat', UInt8.toNat_ofNat', Nat.mod_eq_of_lt hn, Nat.mod_eq_of_lt hm] at htoNat

/-- Digits are read back from the bytes that they spell. -/
theorem hexPairs_inj {n : Nat} {ds ds' : List Nat} (hds : ds.length = 2 * n) (hds' : ds'.length = 2 * n)
    (hlt : ∀ d ∈ ds, d < 16) (hlt' : ∀ d ∈ ds', d < 16) (h : hexPairs ds = hexPairs ds') : ds = ds' := by
  induction n generalizing ds ds' with
  | zero => rw [List.length_eq_zero_iff.1 hds, List.length_eq_zero_iff.1 hds']
  | succ n ih =>
    match ds, ds' with
    | a :: b :: ds, a' :: b' :: ds' =>
      rw [hexPairs, hexPairs, List.cons.injEq] at h
      simp only [List.forall_mem_cons] at hlt hlt'
      simp only [List.length_cons] at hds hds'
      have hbyte : 16 * a + b = 16 * a' + b' := ofNat_inj (by omega) (by omega) h.1
      have htail : ds = ds' := ih (by omega) (by omega) hlt.2.2 hlt'.2.2 h.2
      have ha : a = a' := by omega
      have hb : b = b' := by omega
      rw [ha, hb, htail]
    | [], _ => simp at hds
    | [_], _ => simp at hds; omega
    | _ :: _ :: _, [] => simp at hds'
    | _ :: _ :: _, [_] => simp at hds'; omega

/-- Zeros make zero bytes. -/
theorem hexPairs_replicate (n : Nat) : hexPairs (List.replicate (2 * n) 0) = List.replicate n 0 := by
  induction n with
  | zero => rfl
  | succ n ih =>
    rw [Nat.mul_succ, List.replicate_succ, List.replicate_succ, hexPairs, ih, List.replicate_succ]
    rfl

/-- The null UUID is spelled by zeros. -/
theorem isNull_hexPairs {n : Nat} {digits : List Nat} (hlength : digits.length = 2 * n) (hlt : ∀ d ∈ digits, d < 16) :
    isNull (hexPairs digits) = true ↔ ¬NonNull digits := by
  have hnull : isNull (hexPairs digits) = true ↔ hexPairs digits = List.replicate n 0 := by
    rw [isNull, List.all_eq_true, List.eq_replicate_iff]
    simp [length_hexPairs hlength]
  have hzeros : ¬NonNull digits ↔ digits = List.replicate (2 * n) 0 := by
    rw [NonNull, List.eq_replicate_iff]
    simp [hlength]
  rw [hnull, hzeros, ← hexPairs_replicate]
  constructor
  · intro h
    refine hexPairs_inj hlength List.length_replicate hlt ?_ h
    intro d hd
    rw [List.eq_of_mem_replicate hd]
    decide
  · rintro rfl
    rfl

/-! ### Reading a text -/

/-- A brace is no digit. -/
theorem not_grouped_brace {cs : List Char} {digits : List Nat} : ¬Grouped [4, 2, 2, 2, 6] ('{' :: cs) digits := by
  intro h
  have hnone : hexGroups [4, 2, 2, 2, 6] ('{' :: cs) = none := by
    cases cs <;> rfl
  rw [hexGroups_of_grouped h] at hnone
  cases hnone

/-- A text of the form is read as the bytes that its digits spell. -/
theorem fromString_of_textForm {text : String} {digits : List Nat} (h : TextForm text digits) :
    fromString text = hexPairs digits := by
  obtain ⟨cs, hcs | hcs, hgrouped⟩ := h
  · rw [fromString, hcs]
    split
    · exact absurd hgrouped not_grouped_brace
    · rw [hexGroups_of_grouped hgrouped, Option.getD_some]
  · simp only [fromString, hcs, hexGroups_of_grouped hgrouped, Option.getD_some]

/-- A text that is not of this form is read as the null UUID. -/
theorem textForm_of_not_isNull {text : String} (h : isNull (fromString text) = false) :
    ∃ digits, TextForm text digits ∧ fromString text = hexPairs digits := by
  have hread (cs : List Char) (hcs : text.toList = cs ∨ text.toList = '{' :: cs)
      (hfrom : fromString text = (hexGroups [4, 2, 2, 2, 6] cs).getD (List.replicate 16 0)) :
      ∃ digits, TextForm text digits ∧ fromString text = hexPairs digits := by
    cases hgroups : hexGroups [4, 2, 2, 2, 6] cs with
    | none =>
      rw [hfrom, hgroups] at h
      cases h
    | some bs =>
      obtain ⟨digits, hgrouped, rfl⟩ := grouped_of_hexGroups hgroups
      exact ⟨digits, ⟨cs, hcs, hgrouped⟩, by rw [hfrom, hgroups, Option.getD_some]⟩
  cases htext : text.toList with
  | nil => exact hread [] (Or.inl htext) (by rw [fromString, htext])
  | cons c cs =>
    by_cases hbrace : c = '{'
    · subst hbrace
      exact hread cs (Or.inr htext) (by simp only [fromString, htext])
    · refine hread (c :: cs) (Or.inl htext) ?_
      rw [fromString, htext]
      split
      · exact absurd (List.cons.inj ‹_›).1 hbrace
      · rfl

end QUuid

/-! ## Frames -/

namespace BinaryCodec

open QUuid

variable {streamId streamId' : String} {digits digits' : List Nat}

/-- The prefix of a stream id is spelled by its first eight digits. -/
theorem streamIdToPrefix_of_textForm (h : TextForm streamId digits) (hnonNull : NonNull digits) :
    streamIdToPrefix streamId = hexPairs (digits.take 8) := by
  have hread := fromString_of_textForm h
  obtain ⟨cs, -, hgrouped⟩ := h
  have hlength : digits.length = 2 * 16 := hgrouped.length
  have hnotNull : isNull (hexPairs digits) = false := by
    rw [← Bool.not_eq_true, isNull_hexPairs hlength hgrouped.lt]
    exact not_not_intro hnonNull
  have hfirst : (digits.take 8).length = 2 * 4 := List.length_take_of_le (by omega)
  have hsplit : hexPairs digits = hexPairs (digits.take 8) ++ hexPairs (digits.drop 8) := by
    rw [← hexPairs_append hfirst, List.take_append_drop]
  rw [streamIdToPrefix, hread, hnotNull, if_neg Bool.false_ne_true, hsplit]
  exact List.take_left' (length_hexPairs hfirst)

/-- Any other text, and the null id, give the zero prefix. -/
theorem streamIdToPrefix_of_not (h : ¬∃ digits, TextForm streamId digits ∧ NonNull digits) :
    streamIdToPrefix streamId = List.replicate kPrefixLength 0 := by
  have hnull : isNull (fromString streamId) = true := by
    by_contra hnotNull
    rw [Bool.not_eq_true] at hnotNull
    obtain ⟨digits, hform, hread⟩ := textForm_of_not_isNull hnotNull
    obtain ⟨cs, hcs, hgrouped⟩ := hform
    refine h ⟨digits, ⟨cs, hcs, hgrouped⟩, ?_⟩
    rw [hread, ← Bool.not_eq_true, isNull_hexPairs hgrouped.length hgrouped.lt, not_not] at hnotNull
    exact hnotNull
  rw [streamIdToPrefix, if_pos hnull]

/-- Stream ids that differ in their first eight digits have different prefixes. -/
theorem streamIdToPrefix_ne (h : TextForm streamId digits) (hnonNull : NonNull digits) (h' : TextForm streamId' digits')
    (hnonNull' : NonNull digits') (hne : digits.take 8 ≠ digits'.take 8) :
    streamIdToPrefix streamId ≠ streamIdToPrefix streamId' := by
  intro heq
  rw [streamIdToPrefix_of_textForm h hnonNull, streamIdToPrefix_of_textForm h' hnonNull'] at heq
  obtain ⟨cs, -, hgrouped⟩ := h
  obtain ⟨cs', -, hgrouped'⟩ := h'
  have hlength : digits.length = 2 * 16 := hgrouped.length
  have hlength' : digits'.length = 2 * 16 := hgrouped'.length
  have hfirst : (digits.take 8).length = 2 * 4 := List.length_take_of_le (by omega)
  have hfirst' : (digits'.take 8).length = 2 * 4 := List.length_take_of_le (by omega)
  exact hne (hexPairs_inj hfirst hfirst' (fun d hd => hgrouped.lt d (List.mem_of_mem_take hd))
    (fun d hd => hgrouped'.lt d (List.mem_of_mem_take hd)) heq)

/-- A frame decodes to the prefix of its stream id and its payload. The prefix is spelled by the first eight digits of an
id that is the text of a UUID, and is zeros otherwise; what is decoded is the whole frame, or nothing of a frame shorter
than a prefix; and frames of ids that differ in those digits are different. -/
theorem frames_roundtrip :
    (∀ streamId payload, decodeBinaryFrame (encodeBinaryFrame streamId payload) = ⟨streamIdToPrefix streamId, payload⟩ ∧
        (streamIdToPrefix streamId).length = 4) ∧
      (∀ streamId digits, TextForm streamId digits → NonNull digits →
        streamIdToPrefix streamId = hexPairs (digits.take 8)) ∧
      (∀ streamId, (¬∃ digits, TextForm streamId digits ∧ NonNull digits) → streamIdToPrefix streamId = [0, 0, 0, 0]) ∧
      (∀ frame : Bytes, 4 ≤ frame.length → (decodeBinaryFrame frame).pfx ++ (decodeBinaryFrame frame).payload = frame) ∧
      (∀ frame : Bytes, frame.length < 4 → decodeBinaryFrame frame = ⟨[], []⟩) ∧
      ∀ streamId streamId' digits digits', TextForm streamId digits → NonNull digits → TextForm streamId' digits' →
        NonNull digits' → digits.take 8 ≠ digits'.take 8 →
        ∀ payload payload', encodeBinaryFrame streamId payload ≠ encodeBinaryFrame streamId' payload' := by
  refine ⟨?_, ?_, ?_, ?_, ?_, ?_⟩
  · intro streamId payload
    exact ⟨decodeBinaryFrame_encodeBinaryFrame streamId payload, length_streamIdToPrefix streamId⟩
  · intro streamId digits h hnonNull
    exact streamIdToPrefix_of_textForm h hnonNull
  · intro streamId h
    exact streamIdToPrefix_of_not h
  · intro frame hlength
    have hlong : ¬frame.length < kPrefixLength := Nat.not_lt.2 hlength
    rw [decodeBinaryFrame, if_neg hlong]
    exact List.take_append_drop kPrefixLength frame
  · intro frame hlength
    exact if_pos hlength
  · intro streamId streamId' digits digits' h hnonNull h' hnonNull' hne payload payload' heq
    have hdecode := congrArg decodeBinaryFrame heq
    rw [decodeBinaryFrame_encodeBinaryFrame, decodeBinaryFrame_encodeBinaryFrame, DecodedBinaryFrame.mk.injEq] at hdecode
    exact streamIdToPrefix_ne h hnonNull h' hnonNull' hne hdecode.1

/-- The prefix of a UUID of the pipeline. -/
theorem frames_roundtrip_uuid : streamIdToPrefix "6f9619ff-8b86-4d01-b42d-00cf4fc964ff" = [0x6f, 0x96, 0x19, 0xff] := by
  have hform : TextForm "6f9619ff-8b86-4d01-b42d-00cf4fc964ff"
      ([6, 15, 9, 6, 1, 9, 15, 15] ++ ([8, 11, 8, 6] ++ ([4, 13, 0, 1] ++ ([11, 4, 2, 13] ++
        [0, 0, 12, 15, 4, 15, 12, 9, 6, 4, 15, 15])))) := by
    refine ⟨"6f9619ff".toList ++ '-' :: ("8b86".toList ++ '-' :: ("4d01".toList ++ '-' :: ("b42d".toList ++
      '-' :: ("00cf4fc964ff".toList ++ [])))), Or.inl rfl, ?_⟩
    exact .cons rfl rfl (.cons rfl rfl (.cons rfl rfl (.cons rfl rfl (.last rfl rfl))))
  exact frames_roundtrip.2.1 _ _ hform ⟨6, by decide, by decide⟩

end BinaryCodec

end PairionClient
