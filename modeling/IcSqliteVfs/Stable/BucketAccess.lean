import IcSqliteVfs.Stable.BucketAllocation

namespace IcSqliteVfs.Stable

open IcSqliteVfs.Data IcSqliteVfs.Semantics

/-! # Reads and writes through buckets -/

/-- Where a position of a virtual memory lies in the raw memory. -/
def MemoryManagerInner.addressOf (inner : MemoryManagerInner) (id : MemoryId) (position : Nat) : Nat :=
  place bucketsOffsetInBytes inner.bucketSizeInBytes (inner.memoryBuckets id) position

/-- The cache of a handle is empty or names a bucket of its memory. -/
inductive Cached (inner : MemoryManagerInner) (id : MemoryId) (cache : BucketCache) : Prop where
  | empty (length : cache.bucket.length = 0)
  | bucket (index bucket : Nat) (found : (inner.memoryBuckets id)[index]? = some bucket)
      (segment : cache.bucket = ⟨index * inner.bucketSizeInBytes, inner.bucketSizeInBytes⟩)
      (real : cache.realAddress = inner.bucketAddress bucket)

theorem cached_new (inner : MemoryManagerInner) (id : MemoryId) : Cached inner id BucketCache.new := .empty rfl

variable {owners : List MemoryId} {inner : MemoryManagerInner} {raw : Raw} {memory : Memory} {id : MemoryId}
  {cache : BucketCache} {offset count : Nat}

theorem Laid.unitBytes (laid : Laid owners inner memory) : 0 < inner.bucketSizeInBytes :=
  Nat.mul_pos laid.unit (by decide)

theorem Laid.of_pages {other : Memory} (laid : Laid owners inner memory) (pages : other.pages = memory.pages) :
    Laid owners inner other :=
  ⟨laid.allocated, laid.limit, laid.unit, laid.unitLimit, laid.buckets, laid.sizes, pages ▸ laid.pages⟩

/-- The buckets handed out lie inside the raw memory. -/
theorem Laid.bucket_room (laid : Laid owners inner memory) {index bucket : Nat}
    (found : (inner.memoryBuckets id)[index]? = some bucket) :
    inner.bucketAddress bucket + inner.bucketSizeInBytes ≤ memory.capacity := by
  have member : bucket ∈ owned owners id := by
    rw [laid.buckets] at found
    exact List.mem_of_getElem? found
  have below := lt_of_mem_owned member
  have used : inner.bucketSizeInPages * (bucket + 1) ≤ inner.bucketSizeInPages * owners.length :=
    Nat.mul_le_mul_left _ below
  have pages := (Nat.add_le_add_left used bucketsOffsetInPages).trans laid.pages
  have bytes : (bucketsOffsetInPages + inner.bucketSizeInPages * (bucket + 1)) * stablePageSize ≤
      memory.capacity := Nat.mul_le_mul_right _ pages
  have split : inner.bucketAddress bucket + inner.bucketSizeInBytes =
      (bucketsOffsetInPages + inner.bucketSizeInPages * (bucket + 1)) * stablePageSize := by
    rw [MemoryManagerInner.bucketAddress, MemoryManagerInner.bucketSizeInBytes, bucketsOffsetInBytes]
    ring
  rw [split]
  exact bytes

theorem addressOf_eq {index bucket inBucket : Nat} (found : (inner.memoryBuckets id)[index]? = some bucket)
    (inside : inBucket < inner.bucketSizeInBytes) :
    inner.addressOf id (index * inner.bucketSizeInBytes + inBucket) = inner.bucketAddress bucket + inBucket := by
  rw [MemoryManagerInner.addressOf, place_eq inside, List.getD_eq_getElem?_getD, found]
  rfl

/-! ## The cached bucket -/

/-- A hit lies inside the cached bucket. -/
theorem Cached.get_of (cached : Cached inner id cache) {real : Nat} (nonempty : 0 < count)
    (hit : cache.get ⟨offset, count⟩ = some real) :
    ∃ index bucket inBucket, (inner.memoryBuckets id)[index]? = some bucket ∧
      offset = index * inner.bucketSizeInBytes + inBucket ∧ inBucket + count ≤ inner.bucketSizeInBytes ∧
      real = inner.bucketAddress bucket + inBucket := by
  rw [BucketCache.get] at hit
  by_cases contained : cache.bucket.contains ⟨offset, count⟩ = true
  · rw [if_pos contained] at hit
    have same := Option.some.inj hit
    simp only [VirtualSegment.contains, virtualSegmentContains] at contained
    by_cases wide : u64Bound - 1 - cache.bucket.address < cache.bucket.length
    · simp [wide] at contained
    · by_cases otherWide : u64Bound - 1 - offset < count
      · simp [wide, otherWide] at contained
      · simp only [if_neg wide, if_neg otherWide, Bool.and_eq_true, decide_eq_true_eq] at contained
        obtain ⟨above, below⟩ := contained
        cases cached with
        | empty length => omega
        | bucket index bucket found segment address =>
            rw [segment] at above below same
            rw [address] at same
            dsimp only at above below same
            exact ⟨index, bucket, offset - index * inner.bucketSizeInBytes, found, by omega, by omega, by omega⟩
  · rw [if_neg contained] at hit
    cases hit

/-! ## The loop over the buckets -/

theorem bucket_exists {index inBucket : Nat}
    (inside : index * inner.bucketSizeInBytes + inBucket <
      (inner.memoryBuckets id).length * inner.bucketSizeInBytes) :
    ∃ bucket, (inner.memoryBuckets id)[index]? = some bucket := by
  have below : index < (inner.memoryBuckets id).length := by
    by_contra past
    have far := Nat.mul_le_mul_right inner.bucketSizeInBytes (Nat.not_lt.mp past)
    omega
  exact ⟨_, List.getElem?_eq_getElem below⟩

/-- The bytes of a range of a virtual memory. -/
def MemoryManagerInner.bytesAt (inner : MemoryManagerInner) (memory : Memory) (id : MemoryId)
    (offset count : Nat) : List UInt8 :=
  (List.range count).map fun index => memory.bytes (inner.addressOf id (offset + index))

theorem bytesAt_zero (inner : MemoryManagerInner) (memory : Memory) (id : MemoryId) (offset : Nat) :
    inner.bytesAt memory id offset 0 = [] := rfl

theorem bytesAt_append (inner : MemoryManagerInner) (memory : Memory) (id : MemoryId) (offset first second : Nat) :
    inner.bytesAt memory id offset (first + second) =
      inner.bytesAt memory id offset first ++ inner.bytesAt memory id (offset + first) second := by
  simp only [MemoryManagerInner.bytesAt, List.range_add, List.map_append, List.map_map,
    List.append_cancel_left_eq]
  apply List.map_congr_left
  intro index _
  simp only [Function.comp_apply, Nat.add_assoc]

theorem bytesAt_bucket {memory : Memory} {index bucket inBucket : Nat}
    (found : (inner.memoryBuckets id)[index]? = some bucket) (inside : inBucket + count ≤ inner.bucketSizeInBytes) :
    inner.bytesAt memory id (index * inner.bucketSizeInBytes + inBucket) count =
      memory.read (inner.bucketAddress bucket + inBucket) count := by
  apply List.map_congr_left
  intro piece member
  have bound := List.mem_range.mp member
  rw [Nat.add_assoc, addressOf_eq found (by omega), Nat.add_assoc]

theorem onAccessRaw_of {α : Type} {call : RawM α} {outcome : Outcome MemoryManagerInitError α} {after : Raw}
    (ended : call raw = (outcome, after)) : onAccessRaw call ⟨raw, cache⟩ = (outcome, ⟨after, cache⟩) := by
  simp [onAccessRaw, Action.zoom, ended]

/-- The piece of a range that lies in its first bucket, and what is left of it. -/
theorem first_segment {unit index inBucket : Nat} (inside : inBucket < unit) (nonempty : 0 < count)
    (room : index * unit + inBucket + count ≤ offset * unit) :
    (index + 1) * unit + 0 + (count - min (unit - inBucket) count) ≤ offset * unit ∧
      0 < min (unit - inBucket) count ∧ inBucket + min (unit - inBucket) count ≤ unit ∧
      (count - min (unit - inBucket) count = 0 ∨
        index * unit + inBucket + min (unit - inBucket) count = (index + 1) * unit + 0) := by
  have next : (index + 1) * unit = index * unit + unit := Nat.succ_mul index unit
  have below : index < offset := by
    by_contra past
    have far := Nat.mul_le_mul_right unit (Nat.not_lt.mp past)
    omega
  have whole : (index + 1) * unit ≤ offset * unit := Nat.mul_le_mul_right unit below
  omega

/-- A piece inside a bucket lies in the raw memory. -/
theorem piece_room {start inBucket length unit capacity : Nat} (space : start + unit ≤ capacity)
    (inside : inBucket + length ≤ unit) : start + inBucket + length ≤ capacity := by
  omega

/-- One turn of the walk over the buckets.  The body handles its piece with that
bucket cached, and the later turns start from what the body leaves. -/
theorem forEachBucket_turn {body : Nat → Nat → Nat → AccessM (List UInt8)}
    {turns index inBucket handled bucket : Nat} {piece : List UInt8} {next : Access}
    {post : List UInt8 → Access → Prop} (nonempty : 0 < count)
    (found : (inner.memoryBuckets id)[index]? = some bucket)
    (first : body (inner.bucketAddress bucket + inBucket) (min (inner.bucketSizeInBytes - inBucket) count) handled
      ⟨raw, ⟨⟨index * inner.bucketSizeInBytes, inner.bucketSizeInBytes⟩, inner.bucketAddress bucket⟩⟩ =
        (.ok piece, next))
    (later : Action.Returns (inner.forEachBucket id body turns (index + 1) 0
      (count - min (inner.bucketSizeInBytes - inBucket) count)
      (handled + min (inner.bucketSizeInBytes - inBucket) count)) next fun rest after => post (piece ++ rest) after) :
    Action.Returns (inner.forEachBucket id body (turns + 1) index inBucket count handled) ⟨raw, cache⟩ post := by
  rw [MemoryManagerInner.forEachBucket, if_pos nonempty, found]
  refine Action.returns_after (Action.modify_apply _) (Action.returns_after first ?_)
  exact later.bind fun rest after holds => Action.returns_pure holds

theorem forEachBucket_read (laid : Laid owners inner raw.memory) (turns : Nat) :
    ∀ {index inBucket count handled : Nat} {cache : BucketCache}, inBucket < inner.bucketSizeInBytes →
      index * inner.bucketSizeInBytes + inBucket + count ≤
        (inner.memoryBuckets id).length * inner.bucketSizeInBytes →
      count ≤ turns → Cached inner id cache →
      Action.Returns (inner.forEachBucket id (fun address length _ => onAccessRaw (rawRead address length)) turns
        index inBucket count handled) ⟨raw, cache⟩ fun bytes after =>
          bytes = inner.bytesAt raw.memory id (index * inner.bucketSizeInBytes + inBucket) count ∧
            after.raw = raw ∧ Cached inner id after.cache := by
  induction turns with
  | zero =>
      intro index inBucket count handled cache _ _ short cached
      obtain rfl := Nat.le_zero.mp short
      exact Action.returns_pure ⟨rfl, rfl, cached⟩
  | succ turns ih =>
      intro index inBucket count handled cache inside room short cached
      by_cases nonempty : 0 < count
      · obtain ⟨bucket, found⟩ := bucket_exists (Nat.lt_of_lt_of_le (Nat.lt_add_of_pos_right nonempty) room)
        obtain ⟨left, positive, fits, meets⟩ := first_segment inside nonempty room
        have space := laid.bucket_room found
        have piece : rawRead (inner.bucketAddress bucket + inBucket)
            (min (inner.bucketSizeInBytes - inBucket) count) raw = (.ok (raw.memory.read
              (inner.bucketAddress bucket + inBucket) (min (inner.bucketSizeInBytes - inBucket) count)), raw) :=
          rawRead_of (piece_room space fits)
        have filled : Cached inner id ⟨⟨index * inner.bucketSizeInBytes, inner.bucketSizeInBytes⟩,
            inner.bucketAddress bucket⟩ := .bucket index bucket found rfl rfl
        refine forEachBucket_turn nonempty found (onAccessRaw_of piece) ?_
        refine (ih laid.unitBytes left (by omega) filled).imp ?_
        rintro rest after ⟨restEq, sameRaw, cachedAfter⟩
        refine ⟨?_, sameRaw, cachedAfter⟩
        rw [restEq, ← bytesAt_bucket found fits]
        have total : count = min (inner.bucketSizeInBytes - inBucket) count +
            (count - min (inner.bucketSizeInBytes - inBucket) count) := by omega
        conv_rhs => rw [total, bytesAt_append]
        rcases meets with none | next
        · rw [none, bytesAt_zero, bytesAt_zero]
        · rw [next]
      · obtain rfl : count = 0 := Nat.eq_zero_of_not_pos nonempty
        exact Action.returns_pure ⟨rfl, rfl, cached⟩

/-- The bytes of a range of a virtual memory were replaced, and no other byte
of the raw memory. -/
structure Written (inner : MemoryManagerInner) (id : MemoryId) (offset : Nat) (source : List UInt8)
    (before after : Memory) : Prop where
  pages : after.pages = before.pages
  inside : ∀ index, index < source.length →
    after.bytes (inner.addressOf id (offset + index)) = source.getD index 0
  outside : ∀ address, (∀ index, index < source.length → address ≠ inner.addressOf id (offset + index)) →
    after.bytes address = before.bytes address

theorem written_nil (inner : MemoryManagerInner) (id : MemoryId) (offset : Nat) (memory : Memory) :
    Written inner id offset [] memory memory :=
  ⟨rfl, fun _ impossible => absurd impossible (Nat.not_lt_zero _), fun _ _ => rfl⟩

theorem Written.nil_at {before after : Memory} (written : Written inner id offset [] before after) (other : Nat) :
    Written inner id other [] before after :=
  ⟨written.pages, fun _ impossible => absurd impossible (Nat.not_lt_zero _),
    fun address _ => written.outside address fun _ impossible => absurd impossible (Nat.not_lt_zero _)⟩

theorem written_bucket {memory : Memory} {source : List UInt8} {index bucket inBucket : Nat}
    (found : (inner.memoryBuckets id)[index]? = some bucket)
    (inside : inBucket + source.length ≤ inner.bucketSizeInBytes)
    (space : inner.bucketAddress bucket + inner.bucketSizeInBytes ≤ memory.capacity) :
    Written inner id (index * inner.bucketSizeInBytes + inBucket) source memory
      (memory.write (inner.bucketAddress bucket + inBucket) source) := by
  have room := piece_room space inside
  have address : ∀ piece, piece < source.length →
      inner.addressOf id (index * inner.bucketSizeInBytes + inBucket + piece) =
        inner.bucketAddress bucket + inBucket + piece := by
    intro piece bound
    rw [Nat.add_assoc, addressOf_eq found (by omega), Nat.add_assoc]
  refine ⟨Memory.write_pages _ _ _, ?_, ?_⟩
  · intro piece bound
    rw [address piece bound, Memory.write_bytes _ room, if_pos (by omega), Nat.add_sub_cancel_left]
  · intro other apart
    rw [Memory.write_bytes _ room, if_neg]
    rintro ⟨above, below⟩
    have bound : other - (inner.bucketAddress bucket + inBucket) < source.length := by omega
    have differs := apart _ bound
    rw [address _ bound] at differs
    omega

/-- Inside one virtual memory the second of two adjacent writes leaves the first alone. -/
theorem Written.append (laid : Laid owners inner raw.memory) {front back : List UInt8}
    {before middle after : Memory} (first : Written inner id offset front before middle)
    (second : Written inner id (offset + front.length) back middle after)
    (room : offset + front.length + back.length ≤ (inner.memoryBuckets id).length * inner.bucketSizeInBytes) :
    Written inner id offset (front ++ back) before after := by
  have distinct : (inner.memoryBuckets id).Nodup := by
    rw [laid.buckets]
    exact nodup_owned owners id
  refine ⟨second.pages.trans first.pages, ?_, ?_⟩
  · intro index bound
    rw [List.length_append] at bound
    rw [getD_append]
    by_cases early : index < front.length
    · rw [if_pos early, second.outside, first.inside index early]
      intro later laterBound same
      have equal := place_inj laid.unitBytes distinct (by omega) (by omega) same
      omega
    · have shifted := second.inside (index - front.length) (by omega)
      have position : offset + front.length + (index - front.length) = offset + index := by omega
      rw [if_neg early, ← shifted, position]
  · intro address apart
    rw [second.outside, first.outside]
    · intro index bound
      exact apart index (by rw [List.length_append]; omega)
    · intro index bound
      have differs := apart (front.length + index) (by rw [List.length_append]; omega)
      rwa [← Nat.add_assoc] at differs

/-- The piece a turn of the loop writes, and what is left for the later turns. -/
theorem drop_eq_window_append (source : List UInt8) (handled length : Nat) :
    source.drop handled = window source handled length ++ source.drop (handled + length) := by
  rw [window, ← List.drop_drop, List.take_append_drop]

theorem writeSegment_of {source : List UInt8} {address length written : Nat}
    (room : address + (window source written length).length ≤ raw.memory.capacity) :
    (do
      onAccessRaw (rawWrite address (window source written length))
      pure [] : AccessM (List UInt8)) ⟨raw, cache⟩ =
        (.ok [], ⟨{ raw with memory := raw.memory.write address (window source written length) }, cache⟩) :=
  Action.bind_of_ok _ (onAccessRaw_of (rawWrite_of room))

theorem forEachBucket_write {source : List UInt8} (turns : Nat) :
    ∀ {index inBucket count handled : Nat} {cache : BucketCache} {raw : Raw}, Laid owners inner raw.memory →
      inBucket < inner.bucketSizeInBytes →
      index * inner.bucketSizeInBytes + inBucket + count ≤
        (inner.memoryBuckets id).length * inner.bucketSizeInBytes →
      handled + count = source.length → count ≤ turns → Cached inner id cache →
      Action.Returns (inner.forEachBucket id (fun address length written => do
          onAccessRaw (rawWrite address (window source written length))
          pure []) turns index inBucket count handled) ⟨raw, cache⟩ fun _ after =>
        Written inner id (index * inner.bucketSizeInBytes + inBucket) (source.drop handled) raw.memory
          after.raw.memory ∧ Cached inner id after.cache := by
  induction turns with
  | zero =>
      intro index inBucket count handled cache raw laid _ _ total short cached
      obtain rfl := Nat.le_zero.mp short
      rw [List.drop_eq_nil_of_le (by omega)]
      exact Action.returns_pure ⟨written_nil inner id _ _, cached⟩
  | succ turns ih =>
      intro index inBucket count handled cache raw laid inside room total short cached
      by_cases nonempty : 0 < count
      · obtain ⟨bucket, found⟩ := bucket_exists (Nat.lt_of_lt_of_le (Nat.lt_add_of_pos_right nonempty) room)
        obtain ⟨left, positive, fits, meets⟩ := first_segment inside nonempty room
        have space := laid.bucket_room found
        have small := Nat.min_le_right (inner.bucketSizeInBytes - inBucket) count
        generalize segmentEq : min (inner.bucketSizeInBytes - inBucket) count = segmentLen
          at left positive fits meets small
        have pieceLength : (window source handled segmentLen).length = segmentLen :=
          length_window (total ▸ Nat.add_le_add_left small handled)
        have pieceFits : inBucket + (window source handled segmentLen).length ≤ inner.bucketSizeInBytes := by
          rwa [pieceLength]
        have first : Written inner id (index * inner.bucketSizeInBytes + inBucket)
            (window source handled segmentLen) raw.memory
            (raw.memory.write (inner.bucketAddress bucket + inBucket) (window source handled segmentLen)) :=
          written_bucket found pieceFits space
        have filled : Cached inner id ⟨⟨index * inner.bucketSizeInBytes, inner.bucketSizeInBytes⟩,
            inner.bucketAddress bucket⟩ := .bucket index bucket found rfl rfl
        have rest : handled + segmentLen + (count - segmentLen) = source.length := by
          rw [Nat.add_assoc, Nat.add_sub_cancel' small, total]
        have laidAfter : Laid owners inner (raw.memory.write (inner.bucketAddress bucket + inBucket)
            (window source handled segmentLen)) := laid.of_pages (Memory.write_pages _ _ _)
        have others := @ih (index + 1) 0 _ _ _ ⟨_, raw.grants, raw.reserves⟩ laidAfter laid.unitBytes left rest
          (by omega) filled
        refine forEachBucket_turn nonempty found (writeSegment_of (piece_room space (segmentEq ▸ pieceFits))) ?_
        rw [segmentEq]
        refine others.imp ?_
        rintro _ after ⟨written, cachedAfter⟩
        refine ⟨?_, cachedAfter⟩
        rw [drop_eq_window_append source handled segmentLen]
        refine Written.append laid first ?_ ?_
        · rcases meets with none | next
          · rw [List.drop_eq_nil_of_le (by omega)] at written ⊢
            exact written.nil_at _
          · rw [pieceLength, next]
            exact written
        · rw [pieceLength, List.length_drop]
          omega
      · obtain rfl : count = 0 := Nat.eq_zero_of_not_pos nonempty
        rw [List.drop_eq_nil_of_le (by omega)]
        exact Action.returns_pure ⟨written_nil inner id _ _, cached⟩

/-! ## Calls inside and outside the memory -/

/-- A range is inside a virtual memory. -/
def MemoryManagerInner.inBounds (inner : MemoryManagerInner) (id : MemoryId) (offset count : Nat) : Prop :=
  offset + count ≤ inner.memorySizesInPages id * stablePageSize

instance (inner : MemoryManagerInner) (id : MemoryId) (offset count : Nat) :
    Decidable (inner.inBounds id offset count) :=
  inferInstanceAs (Decidable (_ ≤ _))

theorem assertBounds_of (laid : Laid owners inner raw.memory) (bounds : inner.inBounds id offset count) :
    inner.assertBounds id offset count ⟨raw, cache⟩ = (.ok (), ⟨raw, cache⟩) := by
  have addressable : inner.memorySize id * stablePageSize < u64Bound := laid.addressable id
  have fits : offset + count < u64Bound := Nat.lt_of_le_of_lt bounds addressable
  rw [MemoryManagerInner.assertBounds, Action.bind_of_ok _ (Action.require_of fits),
    Action.bind_of_ok _ (Action.require_of addressable)]
  exact Action.require_of bounds

theorem assertBounds_panic (outside : ¬ inner.inBounds id offset count) (access : Access) :
    inner.assertBounds id offset count access = (.panic, access) := by
  have outer : (Action.require (offset + count ≤ inner.memorySize id * stablePageSize) : AccessM Unit) access =
      (.panic, access) := by
    have past : ¬ offset + count ≤ inner.memorySize id * stablePageSize := outside
    rw [Action.require, if_neg past]
    rfl
  rw [MemoryManagerInner.assertBounds, Action.require]
  split
  · rw [Action.require, Action.pure_bind_apply]
    split
    · rw [Action.pure_bind_apply, outer]
    · rfl
  · rfl

/-- A range inside a memory lies in its buckets. -/
theorem Laid.range_room (laid : Laid owners inner memory) (bounds : inner.inBounds id offset count) :
    offset + count ≤ (owned owners id).length * inner.bucketSizeInBytes := by
  have bytes := Nat.mul_le_mul_right stablePageSize (laid.size_le id)
  rw [MemoryManagerInner.bucketSizeInBytes, ← Nat.mul_assoc]
  exact Nat.le_trans bounds bytes

/-- A read inside the memory returns its bytes, through the cached bucket or
over as many buckets as it crosses. -/
theorem read_of (laid : Laid owners inner raw.memory) (cached : Cached inner id cache)
    (bounds : inner.inBounds id offset count) :
    Action.Returns (inner.read id offset count) ⟨raw, cache⟩ fun bytes after =>
      bytes = inner.bytesAt raw.memory id offset count ∧ after.raw = raw ∧ Cached inner id after.cache := by
  rw [MemoryManagerInner.read]
  by_cases empty : count = 0
  · subst empty
    rw [if_pos rfl]
    exact Action.returns_pure ⟨rfl, rfl, cached⟩
  · rw [if_neg empty]
    refine Action.returns_after (assertBounds_of laid bounds) (Action.returns_after (Action.read_apply) ?_)
    cases hit : cache.get ⟨offset, count⟩ with
    | some real =>
        obtain ⟨index, bucket, inBucket, found, rfl, fits, rfl⟩ := cached.get_of (Nat.pos_of_ne_zero empty) hit
        have space := laid.bucket_room found
        refine Action.returns_of (onAccessRaw_of (rawRead_of ?_)) ⟨(bytesAt_bucket found fits).symm, rfl, cached⟩
        omega
    | none =>
        have room := laid.range_room bounds
        have position := Nat.div_add_mod' offset inner.bucketSizeInBytes
        have looped := @forEachBucket_read owners inner raw id laid count (offset / inner.bucketSizeInBytes)
          (offset % inner.bucketSizeInBytes) count 0 cache (Nat.mod_lt _ laid.unitBytes)
          (by rw [position, laid.buckets]; exact room) (Nat.le_refl _) cached
        rw [position] at looped
        exact looped

theorem write_of {source : List UInt8} (laid : Laid owners inner raw.memory) (cached : Cached inner id cache)
    (bounds : inner.inBounds id offset source.length) :
    Action.Returns (inner.write id offset source) ⟨raw, cache⟩ fun _ after =>
      Written inner id offset source raw.memory after.raw.memory ∧ Cached inner id after.cache := by
  rw [MemoryManagerInner.write]
  by_cases empty : source.isEmpty = true
  · rw [if_pos empty]
    obtain rfl := List.isEmpty_iff.mp empty
    exact Action.returns_pure ⟨written_nil inner id offset _, cached⟩
  · rw [if_neg empty]
    have nonempty : 0 < source.length := List.length_pos_iff.mpr fun none => empty (List.isEmpty_iff.mpr none)
    refine Action.returns_after (assertBounds_of laid bounds) (Action.returns_after (Action.read_apply) ?_)
    cases hit : cache.get ⟨offset, source.length⟩ with
    | some real =>
        obtain ⟨index, bucket, inBucket, found, rfl, fits, rfl⟩ := cached.get_of nonempty hit
        have space := laid.bucket_room found
        have written := written_bucket found fits space
        refine Action.returns_of (onAccessRaw_of (rawWrite_of ?_)) ⟨written, cached⟩
        omega
    | none =>
        have room := laid.range_room bounds
        have position := Nat.div_add_mod' offset inner.bucketSizeInBytes
        have looped := @forEachBucket_write owners inner id source source.length
          (offset / inner.bucketSizeInBytes) (offset % inner.bucketSizeInBytes) source.length 0 cache raw laid
          (Nat.mod_lt _ laid.unitBytes) (by rw [position, laid.buckets]; exact room) (Nat.zero_add _) (Nat.le_refl _) cached
        rw [position, List.drop_zero] at looped
        exact looped.bind fun _ after holds => Action.returns_pure holds

theorem read_panics (nonempty : count ≠ 0) (outside : ¬ inner.inBounds id offset count) (access : Access) :
    inner.read id offset count access = (.panic, access) := by
  rw [MemoryManagerInner.read, if_neg nonempty, Action.bind_of_panic _ (assertBounds_panic outside access)]

theorem write_panics {source : List UInt8} (nonempty : source ≠ [])
    (outside : ¬ inner.inBounds id offset source.length) (access : Access) :
    inner.write id offset source access = (.panic, access) := by
  rw [MemoryManagerInner.write, if_neg (by simpa using nonempty),
    Action.bind_of_panic _ (assertBounds_panic outside access)]

/-- Cached buckets stay where they are when other buckets are handed out. -/
theorem Cached.extended {after : MemoryManagerInner} (cached : Cached inner id cache)
    (unit : after.bucketSizeInPages = inner.bucketSizeInPages)
    (more : inner.memoryBuckets id <+: after.memoryBuckets id) : Cached after id cache := by
  have bytes : after.bucketSizeInBytes = inner.bucketSizeInBytes := by
    rw [MemoryManagerInner.bucketSizeInBytes, MemoryManagerInner.bucketSizeInBytes, unit]
  cases cached with
  | empty length => exact .empty length
  | bucket index bucket found segment real =>
      refine .bucket index bucket ?_ (by rw [segment, bytes]) ?_
      · obtain ⟨inside, _⟩ := List.getElem?_eq_some_iff.mp found
        obtain ⟨new, extended⟩ := more
        rw [← extended, List.getElem?_append_left inside, found]
      · rw [real, MemoryManagerInner.bucketAddress, MemoryManagerInner.bucketAddress, bytes]

end IcSqliteVfs.Stable
