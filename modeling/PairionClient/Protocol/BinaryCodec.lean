import PairionClient.Core.Constants

/-!
# Binary frames

`protocol/binary_codec.cpp`: a binary frame is a 4-byte prefix, the first four bytes of the stream id read as a UUID,
followed by an Opus payload. `QUuid.fromString` follows Qt: five groups of hexadecimal digits separated by `-`, an opening
brace allowed before them, whatever follows them ignored, and the null UUID (sixteen zero bytes) for any other text.
-/

namespace PairionClient

/-- The value of a hexadecimal digit. -/
def hexDigit (c : Char) : Option Nat :=
  if '0' ≤ c ∧ c ≤ '9' then some (c.toNat - 48)
  else if 'a' ≤ c ∧ c ≤ 'f' then some (c.toNat - 87)
  else if 'A' ≤ c ∧ c ≤ 'F' then some (c.toNat - 55)
  else none

namespace QUuid

/-- Read `n` bytes, two hexadecimal digits each. -/
def hexBytes : Nat → List Char → Option (Bytes × List Char)
  | 0, cs => some ([], cs)
  | n + 1, hi :: lo :: cs => do
    let h ← hexDigit hi
    let l ← hexDigit lo
    let r ← hexBytes n cs
    some (UInt8.ofNat (16 * h + l) :: r.1, r.2)
  | _ + 1, _ => none

/-- Read groups of bytes of the sizes given, separated by `-`. -/
def hexGroups : List Nat → List Char → Option Bytes
  | [], _ => some []
  | [n], cs => (hexBytes n cs).map (·.1)
  | n :: ns, cs => do
    let r ← hexBytes n cs
    match r.2 with
    | '-' :: cs => (hexGroups ns cs).map (r.1 ++ ·)
    | _ => none

/-- `QUuid::fromString`, as the sixteen bytes `toRfc4122` gives. -/
def fromString (text : String) : Bytes :=
  let digits := match text.toList with
    | '{' :: cs => cs
    | cs => cs
  (hexGroups [4, 2, 2, 2, 6] digits).getD (List.replicate 16 0)

/-- `QUuid::isNull`. -/
def isNull (uuid : Bytes) : Bool := uuid.all (· = 0)

/-- A group of hexadecimal digits that is read gives its number of bytes. -/
theorem length_of_hexBytes {n : Nat} {cs : List Char} {r : Bytes × List Char} (h : hexBytes n cs = some r) :
    r.1.length = n := by
  fun_induction hexBytes n cs generalizing r with
  | case1 cs =>
    cases h
    rfl
  | case2 n hi lo cs ih =>
    simp only [Option.bind_eq_bind, Option.bind_eq_some_iff, Option.some.injEq] at h
    obtain ⟨h', -, l', -, rest, hrest, rfl⟩ := h
    rw [List.length_cons, ih hrest]
  | case3 n cs hne => cases h

/-- All groups together give what their lengths add up to. -/
theorem length_of_hexGroups {ns : List Nat} {cs : List Char} {bs : Bytes} (h : hexGroups ns cs = some bs) :
    bs.length = ns.foldr (· + ·) 0 := by
  fun_induction hexGroups ns cs generalizing bs with
  | case1 cs =>
    cases h
    rfl
  | case2 n cs =>
    obtain ⟨r, hr, rfl⟩ := Option.map_eq_some_iff.1 h
    exact length_of_hexBytes hr
  | case3 n ns cs hne ih =>
    obtain ⟨r, hr, h⟩ := Option.bind_eq_some_iff.1 h
    split at h
    · obtain ⟨bs', hbs', rfl⟩ := Option.map_eq_some_iff.1 h
      rw [List.length_append, length_of_hexBytes hr, ih _ hbs']
      rfl
    · cases h

/-- A UUID is sixteen bytes, whatever text it is read from. -/
theorem length_fromString (text : String) : (fromString text).length = 16 := by
  have hlength (digits : List Char) : ((hexGroups [4, 2, 2, 2, 6] digits).getD (List.replicate 16 0)).length = 16 := by
    cases h : hexGroups [4, 2, 2, 2, 6] digits with
    | none => rfl
    | some uuid => exact length_of_hexGroups h
  exact hlength _

end QUuid

/-- A decoded binary frame. -/
structure DecodedBinaryFrame where
  pfx : Bytes
  payload : Bytes
  deriving DecidableEq, Repr

namespace BinaryCodec

/-- Length of the stream ID prefix in bytes. -/
def kPrefixLength : Nat := 4

/-- The 4-byte prefix of a stream id: zeros when the id is not a UUID. -/
def streamIdToPrefix (streamId : String) : Bytes :=
  let uuid := QUuid.fromString streamId
  if QUuid.isNull uuid then List.replicate kPrefixLength 0 else uuid.take kPrefixLength

/-- Prefix and payload, one after the other. -/
def encodeBinaryFrame (streamId : String) (opusPayload : Bytes) : Bytes := streamIdToPrefix streamId ++ opusPayload

/-- The prefix and the payload of a frame, both empty when it is shorter than a prefix. -/
def decodeBinaryFrame (frame : Bytes) : DecodedBinaryFrame :=
  if frame.length < kPrefixLength then ⟨[], []⟩ else ⟨frame.take kPrefixLength, frame.drop kPrefixLength⟩

/-- Whatever the id, a prefix has 4 bytes. -/
theorem length_streamIdToPrefix (streamId : String) : (streamIdToPrefix streamId).length = kPrefixLength := by
  unfold streamIdToPrefix
  dsimp only
  split
  · exact List.length_replicate
  · exact List.length_take_of_le (by rw [QUuid.length_fromString]; decide)

/-- What is encoded under a stream id decodes to its prefix and the payload. -/
theorem decodeBinaryFrame_encodeBinaryFrame (streamId : String) (opusPayload : Bytes) :
    decodeBinaryFrame (encodeBinaryFrame streamId opusPayload) = ⟨streamIdToPrefix streamId, opusPayload⟩ := by
  have hlength := length_streamIdToPrefix streamId
  have hlong : ¬(streamIdToPrefix streamId ++ opusPayload).length < kPrefixLength := by
    rw [List.length_append]
    omega
  rw [encodeBinaryFrame, decodeBinaryFrame, if_neg hlong, List.take_left' hlength, List.drop_left' hlength]

end BinaryCodec

end PairionClient
