import IcSqliteVfs.Stable.Superblock

namespace IcSqliteVfs.Stable

open IcSqliteVfs.Data

theorem u64_roundtrip (value : UInt64) : UInt64.ofNat (leValue (u64LeBytes value)) = value := by
  have fits : value.toNat < 256 ^ 8 := value.toNat_lt
  rw [u64LeBytes, leValue_leBytes_of_lt fits, UInt64.ofNat_toNat]

theorem u32_roundtrip (value : UInt32) : UInt32.ofNat (leValue (u32LeBytes value)) = value := by
  have fits : value.toNat < 256 ^ 4 := value.toNat_lt
  rw [u32LeBytes, leValue_leBytes_of_lt fits, UInt32.ofNat_toNat]

theorem bytesAt_toList {width : Nat} {bytes : List UInt8} {start : Nat} {chunk : List UInt8}
    (length : chunk.length = width)
    (positions : ∀ index, index < width → bytes.getD (start + index) 0 = chunk.getD index 0) :
    (bytesAt width bytes start).toList = chunk := by
  apply ext_getD 0
  · rw [Vector.length_toList, length]
  · intro index inside
    rw [Vector.length_toList] at inside
    rw [bytesAt, Vector.toList_ofFn, List.getD_eq_getElem _ _ (by simpa using inside), List.getElem_ofFn]
    exact positions index inside

/-- A buffer that starts with a record of chunks, whatever follows it. -/
def StartsWith (bytes : List UInt8) (chunks : List (List UInt8)) : Prop :=
  ∀ index, index < chunks.flatten.length → bytes.getD index 0 = chunks.flatten.getD index 0

namespace StartsWith

variable {bytes : List UInt8} {chunks : List (List UInt8)} {chunk : List UInt8} {position : Nat}

theorem getD_chunk (starts : StartsWith bytes chunks) (widths : ∀ chunk ∈ chunks, chunk.length = 8)
    (selected : chunks[position]? = some chunk) {index : Nat} (inside : index < 8) :
    bytes.getD (position * 8 + index) 0 = chunk.getD index 0 := by
  have room : position < chunks.length := (List.getElem?_eq_some_iff.mp selected).1
  have bound : position * 8 + index < chunks.flatten.length := by
    rw [length_flatten_of_widths widths]
    omega
  have content := window_flatten [] widths selected
  rw [List.append_nil] at content
  rw [starts _ bound, ← content, getD_window, if_pos inside]

theorem eight_eq (starts : StartsWith bytes chunks) (widths : ∀ chunk ∈ chunks, chunk.length = 8)
    (selected : chunks[position]? = some chunk) : (eight bytes (position * 8)).toList = chunk :=
  bytesAt_toList (widths chunk (List.mem_of_getElem? selected))
    (fun _ inside => starts.getD_chunk widths selected inside)

theorem u64_eq (starts : StartsWith bytes chunks) (widths : ∀ chunk ∈ chunks, chunk.length = 8)
    {value : UInt64} (selected : chunks[position]? = some (u64LeBytes value)) :
    u64FromLeBytes (eight bytes (position * 8)) = value := by
  rw [u64FromLeBytes, starts.eight_eq widths selected, u64_roundtrip]

end StartsWith

namespace Superblock

variable (block : Superblock)

theorem headerChunks_widths : ∀ chunk ∈ block.headerChunks, chunk.length = 8 := by
  simp [headerChunks, u64LeBytes, u32LeBytes]

theorem extentChunks_widths : ∀ chunk ∈ block.extentChunks, chunk.length = 8 := by
  intro chunk member
  obtain ⟨extent, _, made⟩ := List.mem_flatMap.mp member
  rcases List.mem_cons.mp made with same | made
  · simp [same, u64LeBytes]
  · simp [List.mem_singleton.mp made, u64LeBytes]

theorem chunks_widths : ∀ chunk ∈ block.headerChunks ++ block.extentChunks, chunk.length = 8 := by
  intro chunk member
  rcases List.mem_append.mp member with header | extents
  · exact block.headerChunks_widths chunk header
  · exact block.extentChunks_widths chunk extents

theorem length_extentChunks : block.extentChunks.length = 2 * min maxZeroExtents block.zeroExtents.length := by
  simp [extentChunks, List.length_flatMap, Nat.mul_comm]

theorem length_chunks :
    (block.headerChunks ++ block.extentChunks).flatten.length = block.encodedLenOf := by
  rw [length_flatten_of_widths block.chunks_widths, List.length_append, block.length_extentChunks]
  simp only [headerChunks, List.length_cons, List.length_nil, encodedLenOf, extentsOffset, zeroExtentBytes]
  omega

theorem encodedLenOf_le : block.encodedLenOf ≤ encodedLen := by
  simp only [encodedLenOf, encodedLen]
  exact Nat.add_le_add_left (Nat.mul_le_mul_right _ (Nat.min_le_right _ _)) _

@[simp] theorem length_encode : block.encode.length = encodedLen := length_resize _ _ _

/-- The part of the encoding that is written to stable memory. -/
theorem take_encode :
    block.encode.take block.encodedLenOf = (block.headerChunks ++ block.extentChunks).flatten := by
  have whole := block.length_chunks
  have fits := block.encodedLenOf_le
  have kept : (block.headerChunks ++ block.extentChunks).flatten.take encodedLen =
      (block.headerChunks ++ block.extentChunks).flatten := List.take_of_length_le (by omega)
  rw [encode, resize, kept, ← whole, List.take_left]

theorem length_take_encode : (block.encode.take block.encodedLenOf).length = block.encodedLenOf := by
  rw [take_encode, length_chunks]

private theorem pairs_getElem (first second : ZeroExtent → List UInt8) (extents : List ZeroExtent)
    (index : Nat) :
    (extents.flatMap fun extent => [first extent, second extent])[2 * index]? = extents[index]?.map first ∧
    (extents.flatMap fun extent => [first extent, second extent])[2 * index + 1]? =
      extents[index]?.map second := by
  induction extents generalizing index with
  | nil => simp
  | cons extent rest ih =>
      cases index with
      | zero => simp
      | succ index =>
          have position : 2 * (index + 1) = 2 * index + 1 + 1 := by omega
          have later : 2 * (index + 1) + 1 = 2 * index + 1 + 1 + 1 := by omega
          rw [later, position]
          simpa using ih index

variable {block} {bytes : List UInt8}

section Decode

variable (starts : StartsWith bytes (block.headerChunks ++ block.extentChunks))
include starts

theorem decode_header (position : Nat) {chunk : List UInt8}
    (selected : block.headerChunks[position]? = some chunk) : (eight bytes (position * 8)).toList = chunk := by
  apply starts.eight_eq block.chunks_widths
  rw [List.getElem?_append_left (List.getElem?_eq_some_iff.mp selected).1, selected]

theorem decode_word (position : Nat) {value : UInt64}
    (selected : block.headerChunks[position]? = some (u64LeBytes value)) :
    u64FromLeBytes (eight bytes (position * 8)) = value := by
  rw [u64FromLeBytes, decode_header starts position selected, u64_roundtrip]

/-- The two `u32` fields share the second chunk. -/
theorem decode_half_words :
    u32FromLeBytes (four bytes 8) = block.version ∧
      u32FromLeBytes (four bytes 12) = block.sqlitePageSize := by
  have selected : (block.headerChunks ++ block.extentChunks)[1]? =
      some (u32LeBytes block.version ++ u32LeBytes block.sqlitePageSize) := rfl
  have low : (four bytes 8).toList = u32LeBytes block.version := by
    apply bytesAt_toList (by simp [u32LeBytes])
    intro index inside
    have content := starts.getD_chunk block.chunks_widths selected (show index < 8 by omega)
    rwa [getD_append, if_pos (by simpa [u32LeBytes] using inside)] at content
  have high : (four bytes 12).toList = u32LeBytes block.sqlitePageSize := by
    apply bytesAt_toList (by simp [u32LeBytes])
    intro index inside
    have content := starts.getD_chunk block.chunks_widths selected (show 4 + index < 8 by omega)
    rw [getD_append, if_neg (by simp [u32LeBytes])] at content
    simpa [u32LeBytes, ← Nat.add_assoc] using content
  rw [u32FromLeBytes, u32FromLeBytes, low, high, u32_roundtrip, u32_roundtrip]
  exact ⟨rfl, rfl⟩

theorem decode_extents (limit : block.zeroExtents.length ≤ maxZeroExtents) :
    ((List.range block.zeroExtents.length).map fun index =>
      (⟨u64FromLeBytes (eight bytes (extentsOffset + index * zeroExtentBytes)),
        u64FromLeBytes (eight bytes (extentsOffset + index * zeroExtentBytes + 8))⟩ : ZeroExtent)) =
      block.zeroExtents := by
  apply List.ext_getElem (by simp)
  intro index inLeft inside
  have found : block.zeroExtents[index]? = some block.zeroExtents[index] := List.getElem?_eq_getElem inside
  have pairs := pairs_getElem (fun extent => u64LeBytes extent.lower)
    (fun extent => u64LeBytes extent.upper) (block.zeroExtents.take maxZeroExtents) index
  rw [List.take_of_length_le limit, found] at pairs
  have header : block.headerChunks.length = 20 := rfl
  have chunk (offset : Nat) : (block.headerChunks ++ block.extentChunks)[20 + offset]? =
      block.extentChunks[offset]? := by
    rw [List.getElem?_append_right (by omega), header, Nat.add_sub_cancel_left]
  have lowerAt : extentsOffset + index * zeroExtentBytes = (20 + 2 * index) * 8 := by
    simp only [extentsOffset, zeroExtentBytes]
    omega
  have upperAt : extentsOffset + index * zeroExtentBytes + 8 = (20 + (2 * index + 1)) * 8 := by
    simp only [extentsOffset, zeroExtentBytes]
    omega
  have lower := starts.u64_eq block.chunks_widths ((chunk (2 * index)).trans (by
    rw [extentChunks, List.take_of_length_le limit, pairs.1]; rfl))
  have upper := starts.u64_eq block.chunks_widths ((chunk (2 * index + 1)).trans (by
    rw [extentChunks, List.take_of_length_le limit, pairs.2]; rfl))
  rw [List.getElem_map, List.getElem_range, upperAt, lowerAt, lower, upper]

/-- Decoding reads no byte past the chunks that the extent count announces. -/
theorem decode_of_startsWith (limit : block.zeroExtents.length ≤ maxZeroExtents) :
    decode bytes = block := by
  have small : block.zeroExtents.length < u64Bound := by
    simp only [maxZeroExtents, u64Bound] at limit ⊢
    omega
  have count : (u64FromLeBytes (eight bytes 144)).toNat = block.zeroExtents.length := by
    have word : u64FromLeBytes (eight bytes 144) =
        UInt64.ofNat (min block.zeroExtents.length (u64Bound - 1)) := decode_word starts 18 rfl
    rw [word, Nat.min_eq_left (by omega)]
    exact UInt64.toNat_ofNat_of_lt' small
  have magicEq : eight bytes 0 = block.magic := Vector.toList_inj.mp (decode_header starts 0 rfl)
  obtain ⟨versionEq, pageSizeEq⟩ := decode_half_words starts
  have metaEq : u64FromLeBytes (eight bytes metaChecksumOffset) = block.metaChecksum :=
    decode_word starts 19 rfl
  unfold decode
  simp only [count, if_pos limit, decode_extents starts limit, magicEq, versionEq, pageSizeEq,
    decode_word starts 2 rfl, decode_word starts 3 rfl, decode_word starts 4 rfl,
    decode_word starts 5 rfl, decode_word starts 6 rfl, decode_word starts 7 rfl,
    decode_word starts 8 rfl, decode_word starts 9 rfl, decode_word starts 10 rfl,
    decode_word starts 11 rfl, decode_word starts 12 rfl, decode_word starts 13 rfl,
    decode_word starts 14 rfl, decode_word starts 15 rfl, decode_word starts 16 rfl,
    decode_word starts 17 rfl, metaEq]

end Decode

/-- The whole fixed buffer, zero filled behind the chunks. -/
theorem decode_encode (limit : block.zeroExtents.length ≤ maxZeroExtents) : decode block.encode = block := by
  apply decode_of_startsWith _ limit
  intro index inside
  have within : index < encodedLen := by
    rw [length_chunks] at inside
    exact Nat.lt_of_lt_of_le inside block.encodedLenOf_le
  rw [encode, getD_resize, if_pos within]

end Superblock

end IcSqliteVfs.Stable
