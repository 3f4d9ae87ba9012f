import Mathlib.Data.List.GetD
import Datapress.DataFusion.ResidentProofs

/-! The gathering of rows as the source counts them: row ids and the places of a page are
`u32`, and a place outside its list panics. -/
namespace Datapress.DataFusion.RowGathering
open Resident Positions

/-- `u32::checked_add` -/
def checkedAdd (a b : UInt32) : Option UInt32 :=
  if a.toNat + b.toNat < 2 ^ 32 then some (a + b) else none

/-- The first row id of each chunk, and at last the row count. No result where the source
panics because `row count exceeds u32::MAX`. -/
def rowOffsets : List RecordBatch → (acc : UInt32) → Option (List UInt32)
  | [], acc => some [acc]
  | batch :: rest, acc => do
    let next ← checkedAdd acc (.ofNat batch.length)
    let offsets ← rowOffsets rest next
    some (acc :: offsets)

/-- The chunk that holds a row id, and the row there. -/
def placeOf (offsets : List UInt32) (gid : UInt32) : Nat × UInt32 :=
  let bi := (offsets.takeWhile (· ≤ gid)).length - 1
  (bi, gid - offsets.getD bi 0)

/-- The rows asked of one chunk, each after its place in the page. -/
abbrev Bucket := List (UInt32 × UInt32)

def fillBuckets (offsets : List UInt32) :
    List UInt32 → (outPos : Nat) → List Bucket → Option (List Bucket)
  | [], _, buckets => some buckets
  | gid :: rest, outPos, buckets =>
    let (bi, row) := placeOf offsets gid
    if bi < buckets.length then
      fillBuckets offsets rest (outPos + 1) (buckets.modify bi (· ++ [(.ofNat outPos, row)]))
    else none

/-- `compute::take` on all columns of a batch. -/
def takeRows (batch : RecordBatch) (indices : List UInt32) : Option RecordBatch :=
  indices.mapM fun i => batch[i.toNat]?

/-- The rows that the chunks give, one chunk after the other, and the places they go to. -/
def takeBuckets : List (RecordBatch × Bucket) → Option (RecordBatch × List UInt32)
  | [] => some ([], [])
  | (chunk, bucket) :: rest => do
    let taken ← takeRows chunk (bucket.map (·.2))
    let (stitched, dest) ← takeBuckets rest
    some (taken ++ stitched, bucket.map (·.1) ++ dest)

/-- Writes to each place the index of the row that goes there. -/
def invert : (dest : List UInt32) → (i : Nat) → List UInt32 → Option (List UInt32)
  | [], _, inv => some inv
  | d :: rest, i, inv =>
    if d.toNat < inv.length then invert rest (i + 1) (inv.set d.toNat (.ofNat i)) else none

def takePage (chunks : List RecordBatch) (rows : List UInt32) (offset limit : Nat) :
    Option RecordBatch :=
  let start := min offset rows.length
  let len := min limit (rows.length - start)
  if len = 0 || chunks.isEmpty then some []
  else do
    let offsets ← rowOffsets chunks 0
    let buckets ← fillBuckets offsets ((rows.drop start).take len) 0 (.replicate chunks.length [])
    let (stitched, dest) ← takeBuckets (chunks.zip buckets)
    let inv ← invert dest 0 (.replicate len 0)
    takeRows stitched inv

/-! ### Offsets -/

theorem checkedAdd_eq {a b : UInt32} (fits : a.toNat + b.toNat < 2 ^ 32) :
    checkedAdd a b = some (a + b) ∧ (a + b).toNat = a.toNat + b.toNat := by
  constructor
  · rw [checkedAdd, if_pos fits]
  · rw [UInt32.toNat_add, Nat.mod_eq_of_lt fits]

/-- Chunks that `u32` can count begin where their offsets say. -/
theorem rowOffsets_eq {chunks : List RecordBatch} {acc : UInt32}
    (counted : acc.toNat + chunks.flatten.length < 2 ^ 32) :
    ∃ offsets, rowOffsets chunks acc = some offsets ∧
      offsets.map UInt32.toNat = starts acc.toNat chunks := by
  induction chunks generalizing acc with
  | nil => exact ⟨[acc], rfl, rfl⟩
  | cons batch rest ih =>
      rw [List.flatten_cons, List.length_append] at counted
      have length : (UInt32.ofNat batch.length).toNat = batch.length := by
        rw [UInt32.toNat_ofNat']
        omega
      obtain ⟨added, sum⟩ := @checkedAdd_eq acc (.ofNat batch.length) (by omega)
      rw [length] at sum
      obtain ⟨offsets, later, same⟩ := @ih (acc + .ofNat batch.length) (by omega)
      refine ⟨acc :: offsets, ?_, ?_⟩
      · simp [rowOffsets, added, later]
      · rw [List.map_cons, same, sum, starts]

/-- Rows that `u32` cannot count are refused, when it can count those of each chunk. -/
theorem rowOffsets_eq_none {chunks : List RecordBatch} {acc : UInt32}
    (small : ∀ batch ∈ chunks, batch.length < 2 ^ 32)
    (uncounted : 2 ^ 32 ≤ acc.toNat + chunks.flatten.length) : rowOffsets chunks acc = none := by
  induction chunks generalizing acc with
  | nil =>
      have := acc.toNat_lt
      simp only [List.flatten_nil, List.length_nil] at uncounted
      omega
  | cons batch rest ih =>
      rw [List.flatten_cons, List.length_append] at uncounted
      obtain ⟨first, others⟩ := List.forall_mem_cons.mp small
      have length : (UInt32.ofNat batch.length).toNat = batch.length := by
        rw [UInt32.toNat_ofNat']
        omega
      by_cases fits : acc.toNat + (UInt32.ofNat batch.length).toNat < 2 ^ 32
      · obtain ⟨added, sum⟩ := checkedAdd_eq fits
        have later := @ih (acc + .ofNat batch.length) others (by omega)
        simp [rowOffsets, added, later]
      · rw [rowOffsets, checkedAdd, if_neg fits]
        rfl

/-- A row id is looked up where the chunks begin. -/
theorem placeOf_eq {chunks : List RecordBatch} {offsets : List UInt32} (gid : UInt32)
    (same : offsets.map UInt32.toNat = starts 0 chunks) :
    (placeOf offsets gid).1 = reached 0 chunks gid.toNat - 1 ∧
    (placeOf offsets gid).2.toNat =
      gid.toNat - (starts 0 chunks).getD (reached 0 chunks gid.toNat - 1) 0 := by
  have count : (offsets.takeWhile (· ≤ gid)).length = reached 0 chunks gid.toNat := by
    rw [reached, ← same, List.takeWhile_map, List.length_map]
    rfl
  have start : (offsets.getD (reached 0 chunks gid.toNat - 1) 0).toNat =
      (starts 0 chunks).getD (reached 0 chunks gid.toNat - 1) 0 := by
    rw [← same, List.getD_eq_getElem?_getD, List.getD_eq_getElem?_getD, List.getElem?_map]
    cases offsets[reached 0 chunks gid.toNat - 1]? <;> rfl
  constructor
  · rw [placeOf, count]
  · rw [placeOf, count, UInt32.toNat_sub_of_le _ _ ?_, start]
    rw [UInt32.le_iff_toNat_le, start]
    exact start_le chunks gid.toNat

/-! ### Buckets -/

/-- What a page puts into the bucket of one chunk. -/
def bucketOf (offsets : List UInt32) (page : List UInt32) (outPos bi : Nat) : Bucket :=
  ((page.zipIdx outPos).filter fun entry => (placeOf offsets entry.1).1 = bi).map
    fun entry => (.ofNat entry.2, (placeOf offsets entry.1).2)

theorem fillBuckets_eq {offsets page : List UInt32} {buckets : List Bucket} {outPos : Nat}
    (inside : ∀ gid ∈ page, (placeOf offsets gid).1 < buckets.length) :
    fillBuckets offsets page outPos buckets =
      some (buckets.mapIdx fun bi bucket => bucket ++ bucketOf offsets page outPos bi) := by
  induction page generalizing buckets outPos with
  | nil =>
      have same : (buckets.mapIdx fun bi bucket => bucket ++ bucketOf offsets [] outPos bi) =
          buckets := by
        apply List.ext_getElem? fun bi => ?_
        rw [List.getElem?_mapIdx]
        cases buckets[bi]? <;> simp [bucketOf]
      rw [fillBuckets, same]
  | cons gid rest ih =>
      obtain ⟨here, others⟩ := List.forall_mem_cons.mp inside
      simp only [fillBuckets, if_pos here]
      rw [ih (by simpa using others)]
      congr 1
      apply List.ext_getElem?
      intro bi
      rw [List.getElem?_mapIdx, List.getElem?_mapIdx, List.getElem?_modify]
      by_cases same : (placeOf offsets gid).1 = bi
      · cases found : buckets[bi]? <;> simp [same, bucketOf]
      · cases found : buckets[bi]? <;> simp [same, bucketOf]

theorem takeRows_eq {batch : RecordBatch} {indices : List UInt32}
    (inside : ∀ i ∈ indices, i.toNat < batch.length) :
    takeRows batch indices = some (indices.map fun i => batch.getD i.toNat []) := by
  induction indices with
  | nil => rfl
  | cons i rest ih =>
      obtain ⟨here, others⟩ := List.forall_mem_cons.mp inside
      have later := ih others
      rw [takeRows] at later ⊢
      rw [List.mapM_cons, later, List.getElem?_eq_getElem here, List.map_cons,
        List.getD_eq_getElem _ _ here]
      rfl

theorem takeBuckets_eq {pairs : List (RecordBatch × Bucket)}
    (inside : ∀ pair ∈ pairs, ∀ entry ∈ pair.2, entry.2.toNat < pair.1.length) :
    takeBuckets pairs = some (
      pairs.flatMap fun pair => pair.2.map fun entry => pair.1.getD entry.2.toNat [],
      pairs.flatMap fun pair => pair.2.map (·.1)) := by
  induction pairs with
  | nil => rfl
  | cons pair rest ih =>
      obtain ⟨here, others⟩ := List.forall_mem_cons.mp inside
      have taken : takeRows pair.1 (pair.2.map (·.2)) = _ :=
        takeRows_eq (List.forall_mem_map.mpr here)
      rw [List.map_map] at taken
      simp only [takeBuckets, taken, ih others]
      rfl

/-! ### The order of the page -/

theorem invert_eq {dest inv : List UInt32} {i : Nat} (inside : ∀ d ∈ dest, d.toNat < inv.length)
    (counted : i + dest.length ≤ 2 ^ 32) :
    ∃ out, invert dest i inv = some out ∧
      out.map UInt32.toNat = scatter (dest.map UInt32.toNat) i (inv.map UInt32.toNat) := by
  induction dest generalizing i inv with
  | nil => exact ⟨inv, rfl, rfl⟩
  | cons d rest ih =>
      obtain ⟨here, others⟩ := List.forall_mem_cons.mp inside
      rw [List.length_cons] at counted
      have index : (UInt32.ofNat i).toNat = i := by
        rw [UInt32.toNat_ofNat']
        omega
      obtain ⟨out, written, same⟩ := @ih (inv.set d.toNat (.ofNat i)) (i + 1)
        (by simpa using others) (by omega)
      refine ⟨out, by rw [invert, if_pos here, written], ?_⟩
      rw [same, List.map_set, index]
      rfl

theorem bucketOf_eq {chunks : List RecordBatch} {offsets page : List UInt32} (bi : Nat)
    (same : offsets.map UInt32.toNat = starts 0 chunks) (short : page.length ≤ 2 ^ 32) :
    (bucketOf offsets page 0 bi).map (fun entry => (entry.1.toNat, entry.2.toNat)) =
      ((placed chunks (page.map UInt32.toNat)).filter (·.1 = bi)).map (·.2) := by
  have numbered : (page.map UInt32.toNat).zipIdx = page.zipIdx.map (Prod.map UInt32.toNat id) :=
    List.zipIdx_map ..
  rw [bucketOf, placed, numbered, List.map_map, List.map_map, List.filter_map, List.map_map]
  have passes : page.zipIdx.filter (fun entry => (placeOf offsets entry.1).1 = bi) =
      page.zipIdx.filter fun entry => reached 0 chunks entry.1.toNat - 1 = bi := by
    apply List.filter_congr
    intro entry _
    rw [(placeOf_eq entry.1 same).1]
  rw [passes]
  apply List.map_congr_left
  rintro ⟨gid, outPos⟩ member
  have listed := List.mem_zipIdx_iff_getElem?.mp (List.mem_filter.mp member).1
  have position : outPos < page.length := (List.getElem?_eq_some_iff.mp listed).1
  have place : (UInt32.ofNat outPos).toNat = outPos := by
    rw [UInt32.toNat_ofNat']
    omega
  simp only [Function.comp_apply, Prod.map_apply, id_eq, place, (placeOf_eq gid same).2]

theorem zip_buckets {α : Type} (chunks : List RecordBatch) (f : Nat → α) :
    chunks.zip ((List.range chunks.length).map f) =
      (List.range chunks.length).map fun bi => (chunks.getD bi [], f bi) := by
  apply List.ext_getElem
  · simp
  · intro i left right
    have inside : i < chunks.length := by simpa using right
    simp [inside]

/-- What is taken out of the chunks, and where to. -/
theorem takeBuckets_moved {chunks : List RecordBatch} {offsets page : List UInt32}
    (same : offsets.map UInt32.toNat = starts 0 chunks) (short : page.length ≤ 2 ^ 32)
    (within : ∀ gid ∈ page, gid.toNat < chunks.flatten.length) :
    ∃ dest, takeBuckets (chunks.zip ((List.range chunks.length).map (bucketOf offsets page 0))) =
      some ((moved chunks (page.map UInt32.toNat)).map (·.2), dest) ∧
      dest.map UInt32.toNat = (moved chunks (page.map UInt32.toNat)).map (·.1) := by
  have inside := placed_inside (List.forall_mem_map.mpr within)
  have entries (bi : Nat) : (bucketOf offsets page 0 bi).map
      (fun entry => (entry.1.toNat, entry.2.toNat)) =
        ((placed chunks (page.map UInt32.toNat)).filter (·.1 = bi)).map (·.2) :=
    bucketOf_eq bi same short
  have rows : ((List.range chunks.length).flatMap fun bi =>
      (bucketOf offsets page 0 bi).map fun entry => (chunks.getD bi []).getD entry.2.toNat []) =
        (moved chunks (page.map UInt32.toNat)).map (·.2) := by
    rw [moved, List.map_flatMap]
    congr 1
    funext bi
    have rows := congrArg (List.map fun entry => (chunks.getD bi []).getD entry.2 []) (entries bi)
    rw [List.map_map, List.map_map] at rows
    rw [List.map_map]
    exact rows
  refine ⟨(List.range chunks.length).flatMap fun bi => (bucketOf offsets page 0 bi).map (·.1),
    ?_, ?_⟩
  · rw [zip_buckets, takeBuckets_eq, List.flatMap_map, List.flatMap_map]
    · exact congrArg some (Prod.ext rows rfl)
    rw [List.forall_mem_map]
    intro bi _ entry member
    have listed := List.mem_map_of_mem (f := fun e : UInt32 × UInt32 => (e.1.toNat, e.2.toNat)) member
    rw [entries bi] at listed
    obtain ⟨place, of_chunk, equal⟩ := List.mem_map.mp listed
    obtain ⟨of_page, here⟩ := List.mem_filter.mp of_chunk
    have bounded := (inside place of_page).2
    rw [of_decide_eq_true here, equal] at bounded
    exact bounded
  · rw [moved, List.map_flatMap, List.map_flatMap]
    congr 1
    funext bi
    have places := congrArg (List.map Prod.fst) (entries bi)
    rw [List.map_map, List.map_map] at places
    rw [List.map_map, List.map_map]
    exact places

/-- A page whose rows and places `u32` can count is the page that unbounded ids give. -/
theorem takePage_refines {chunks : List RecordBatch} {rows : List UInt32} {offset limit : Nat}
    (counted : chunks.flatten.length < 2 ^ 32)
    (valid : ∀ gid ∈ rows, gid.toNat < chunks.flatten.length)
    (short : (window rows offset limit).length ≤ 2 ^ 32) :
    takePage chunks rows offset limit =
      some (Resident.takePage chunks (rows.map UInt32.toNat) offset limit) := by
  rw [← window_clip rows offset limit] at short
  unfold takePage Resident.takePage
  simp only [List.length_map]
  rw [← List.map_drop, ← List.map_take]
  have length := congrArg List.length (window_clip rows offset limit)
  generalize paged : (rows.drop (min offset rows.length)).take
    (min limit (rows.length - min offset rows.length)) = page
  have size : page.length = min limit (rows.length - min offset rows.length) := by
    rw [← paged, List.length_take, List.length_drop, Nat.min_eq_left (Nat.min_le_right ..)]
  rw [← size]
  rw [window, paged] at short
  have within : ∀ gid ∈ page, gid.toNat < chunks.flatten.length := by
    intro gid member
    rw [← paged] at member
    exact valid gid (List.drop_subset _ _ (List.take_subset _ _ member))
  have empty : decide (page.length = 0) = (page.map UInt32.toNat).isEmpty := by
    cases page <;> rfl
  rw [empty]
  split
  · rfl
  obtain ⟨offsets, counts, same⟩ := @rowOffsets_eq chunks 0 (by simpa using counted)
  have reach : ∀ gid ∈ page, (placeOf offsets gid).1 < chunks.length := by
    intro gid member
    rw [(placeOf_eq gid same).1]
    exact (chunk_of_gid (within gid member)).1
  have filled := @fillBuckets_eq offsets page (.replicate chunks.length []) 0 (by simpa using reach)
  have buckets : ((List.replicate chunks.length ([] : Bucket)).mapIdx fun bi bucket =>
      bucket ++ bucketOf offsets page 0 bi) =
        (List.range chunks.length).map (bucketOf offsets page 0) := by
    apply List.ext_getElem <;> simp
  obtain ⟨dest, taken, places⟩ := takeBuckets_moved same short within
  have order := moved_order (List.forall_mem_map.mpr within)
  have size := order.length_eq
  rw [List.length_map, List.length_map, List.length_range] at size
  have lengths := congrArg List.length places
  rw [List.length_map, List.length_map] at lengths
  have room : ∀ d ∈ dest, d.toNat < (List.replicate page.length (0 : UInt32)).length := by
    intro d member
    have position : d.toNat ∈ dest.map UInt32.toNat := List.mem_map_of_mem member
    rw [places, order.mem_iff, List.mem_range, List.length_map] at position
    rwa [List.length_replicate]
  obtain ⟨inv, inverted, inverse⟩ := @invert_eq dest _ 0 room (by omega)
  rw [places, List.map_replicate, UInt32.toNat_zero] at inverse
  have inside : ∀ i ∈ inv, i.toNat < ((moved chunks (page.map UInt32.toNat)).map (·.2)).length := by
    intro i member
    have index : i.toNat ∈ inv.map UInt32.toNat := List.mem_map_of_mem member
    rw [inverse] at index
    rw [List.length_map]
    rcases mem_scatter index with zero | written
    · obtain ⟨positive, zero⟩ := List.mem_replicate.mp zero
      omega
    · rwa [List.length_map, Nat.zero_add] at written
  have stitched := takeRows_eq inside
  have gathered : inv.map (fun i => ((moved chunks (page.map UInt32.toNat)).map (·.2)).getD i.toNat []) =
      (scatter ((moved chunks (page.map UInt32.toNat)).map (·.1)) 0 (.replicate page.length 0)).map
        fun i => ((moved chunks (page.map UInt32.toNat)).map (·.2)).getD i [] := by
    rw [← inverse, List.map_map]
    rfl
  rw [gathered] at stitched
  simp only [counts, Option.bind_eq_bind, Option.bind_some, filled, buckets, taken, inverted,
    List.length_map]
  exact stitched

/-! ### What a gather returns -/

theorem takePage_eq {chunks : List RecordBatch} {rows : List UInt32} {offset limit : Nat}
    (counted : chunks.flatten.length < 2 ^ 32)
    (valid : ∀ gid ∈ rows, gid.toNat < chunks.flatten.length)
    (short : (window rows offset limit).length ≤ 2 ^ 32) :
    takePage chunks rows offset limit =
      some ((window rows offset limit).map fun gid => chunks.flatten.getD gid.toNat []) := by
  rw [takePage_refines counted valid short, Resident.takePage_eq _ _ (List.forall_mem_map.mpr valid),
    window, window, ← List.map_drop, ← List.map_take, List.map_map]
  rfl

theorem takePage_nil {chunks : List RecordBatch} {rows : List UInt32} {offset limit : Nat}
    (empty : window rows offset limit = []) : takePage chunks rows offset limit = some [] := by
  have none := congrArg List.length empty
  rw [← window_clip, window, List.length_take, List.length_drop, List.length_nil,
    Nat.min_eq_left (Nat.min_le_right ..)] at none
  rw [takePage, none]
  rfl

/-- A row count that `u32` cannot hold panics, as soon as a row is asked for. -/
theorem takePage_eq_none {chunks : List RecordBatch} {rows : List UInt32} {offset limit : Nat}
    (small : ∀ chunk ∈ chunks, chunk.length < 2 ^ 32)
    (uncounted : 2 ^ 32 ≤ chunks.flatten.length) (asked : window rows offset limit ≠ []) :
    takePage chunks rows offset limit = none := by
  have length : min limit (rows.length - min offset rows.length) ≠ 0 := by
    rw [← window_clip, window, ← List.length_pos_iff, List.length_take, List.length_drop,
      Nat.min_eq_left (Nat.min_le_right ..)] at asked
    omega
  have some_chunk : chunks.isEmpty = false := by
    cases chunks with
    | nil => simp at uncounted
    | cons chunk rest => rfl
  have panics := @rowOffsets_eq_none chunks 0 small (by simpa using uncounted)
  unfold takePage
  rw [if_neg (by simpa [some_chunk] using length), panics]
  rfl

/-- A slice is the asked part of the concatenation. A gather is the rows of the asked part of
the ids, in their order, when `u32` can count the rows of the chunks; it panics when it can
count those of each chunk but not all of them. -/
theorem rows_gathered (chunks : List RecordBatch) :
    (∀ offset limit, sliceGlobal chunks offset limit = window chunks.flatten offset limit) ∧
    ∀ (rows : List UInt32) offset limit, (∀ gid ∈ rows, gid.toNat < chunks.flatten.length) →
      (window rows offset limit = [] → takePage chunks rows offset limit = some []) ∧
      (chunks.flatten.length < 2 ^ 32 → (window rows offset limit).length ≤ 2 ^ 32 →
        takePage chunks rows offset limit =
          some ((window rows offset limit).map fun gid => chunks.flatten.getD gid.toNat [])) ∧
      (2 ^ 32 ≤ chunks.flatten.length → (∀ chunk ∈ chunks, chunk.length < 2 ^ 32) →
        window rows offset limit ≠ [] → takePage chunks rows offset limit = none) := by
  constructor
  · exact sliceGlobal_eq chunks
  · intro rows offset limit valid
    refine ⟨takePage_nil, ?_, ?_⟩
    · intro counted short
      exact takePage_eq counted valid short
    · intro uncounted small asked
      exact takePage_eq_none small uncounted asked

/-- Rows of one column, with an empty chunk between the others. -/
def letters : List RecordBatch := [[[.utf8 "a"], [.utf8 "b"]], [], [[.utf8 "c"]]]

theorem rows_gathered_letters :
    sliceGlobal letters 1 5 = [[.utf8 "b"], [.utf8 "c"]] ∧
    takePage letters [2, 0, 1, 0] 1 2 = some [[.utf8 "a"], [.utf8 "b"]] := by
  have slices := (rows_gathered letters).1 1 5
  have counted : letters.flatten.length = 3 := rfl
  have valid : ∀ gid ∈ [2, 0, 1, (0 : UInt32)], gid.toNat < letters.flatten.length := by
    simp only [List.forall_mem_cons, counted]
    exact ⟨by decide, by decide, by decide, by decide, fun _ impossible => nomatch impossible⟩
  have short : (window [2, 0, 1, (0 : UInt32)] 1 2).length = 2 := rfl
  have gathers := ((rows_gathered letters).2 [2, 0, 1, 0] 1 2 valid).2.1 (by omega) (by omega)
  exact ⟨slices, gathers⟩

/-- One more row than `u32` can count, and the first of them asked for. -/
theorem rows_not_gathered : ∃ (chunks : List RecordBatch) (rows : List UInt32) (offset limit : Nat),
    (∀ gid ∈ rows, gid.toNat < chunks.flatten.length) ∧ takePage chunks rows offset limit ≠
      some ((window rows offset limit).map fun gid => chunks.flatten.getD gid.toNat []) := by
  obtain ⟨most, length⟩ : ∃ most : RecordBatch, most.length = 4294967295 :=
    ⟨.replicate 4294967295 [.null], List.length_replicate⟩
  have total : [most, [[Cell.null]]].flatten.length = 4294967296 := by
    simp only [List.flatten_cons, List.flatten_nil, List.append_nil, List.length_append, length,
      List.length_singleton]
  refine ⟨[most, [[.null]]], [0], 0, 1, ?_, ?_⟩
  · intro gid member
    rw [List.mem_singleton.mp member, total]
    decide
  · have small : ∀ chunk ∈ [most, [[Cell.null]]], chunk.length < 2 ^ 32 := by
      simp only [List.forall_mem_cons, length, List.length_singleton]
      exact ⟨by omega, by omega, fun _ impossible => nomatch impossible⟩
    rw [takePage_eq_none small (by omega) (by decide)]
    exact (Option.some_ne_none _).symm

end Datapress.DataFusion.RowGathering
