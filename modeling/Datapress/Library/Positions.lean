import Mathlib.Data.List.Induction
import Mathlib.Data.List.Sort

/-! Positions in a list and in a list of chunks: the rows at the positions of the items that
pass a test, the chunk of a position in the concatenation, and lists that are put back into
an order they were taken out of. -/
namespace Positions

variable {α β : Type}

/-- What another list has at the positions of the items that pass. -/
theorem map_findIdxs (p : α → Bool) (items : List α) (f : α → β) (default : β) :
    (items.findIdxs p).map (fun i => (items.map f).getD i default) = (items.filter p).map f := by
  apply List.ext_getElem
  · rw [List.length_map, List.length_map, List.length_findIdxs, List.countP_eq_length_filter]
  intro i inLeft inRight
  have inIds : i < (items.findIdxs p).length := by simpa using inLeft
  have inFilter : i < (items.filter p).length := by simpa using inRight
  have bound : (items.findIdxs p)[i] < items.length := by
    have := List.getElem_findIdxs_lt (p := p) (s := 0) inIds
    omega
  rw [List.getElem_map, List.getElem_map,
    List.getElem_filter_eq_getElem_getElem_findIdxs inFilter, List.getD_eq_getElem?_getD,
    List.getElem?_map, List.getElem?_eq_getElem bound, Option.map_some, Option.getD_some]

/-- What maps alike passes alike, when the images of the items that pass one test are the images
that pass the other. -/
theorem passes_alike [DecidableEq β] {p : α → Bool} {q : β → Bool} {f : α → β} {items : List α}
    (same : (items.filter p).map f = (items.map f).filter q) :
    ∀ item ∈ items, p item = q (f item) := by
  intro item member
  cases passes : q (f item) with
  | false =>
      by_contra other
      have image : f item ∈ (items.filter p).map f :=
        List.mem_map_of_mem (List.mem_filter.mpr ⟨member, by simpa using other⟩)
      rw [same, List.mem_filter, passes] at image
      cases image.2
  | true =>
      -- of the items with this image as many pass as there are
      let alike := items.filter (f · = f item)
      have counted : (alike.filter p).length = alike.length := by
        have count := congrArg (List.count (f item)) same
        simp only [List.count, List.countP_map, List.countP_filter] at count
        rw [List.filter_filter, ← List.countP_eq_length_filter, ← List.countP_eq_length_filter]
        calc
          _ = items.countP fun a => (f a == f item) && p a :=
            List.countP_congr fun a _ => by simp [and_comm]
          _ = items.countP ((fun a => a == f item && q a) ∘ f) := count
          _ = _ := List.countP_congr fun a _ => by
            simp only [Function.comp_apply, Bool.and_eq_true, beq_iff_eq, decide_eq_true_eq]
            exact and_iff_left_of_imp fun same => same ▸ passes
      have all := List.filter_sublist.eq_of_length counted
      exact List.filter_eq_self.mp all item (List.mem_filter.mpr ⟨member, by simp⟩)

/-- The positions of the items that pass are the only sorted list of their members. -/
theorem eq_findIdxs {ids : List Nat} (p : α → Bool) (items : List α)
    (sorted : ids.Pairwise (· < ·))
    (members : ∀ i, i ∈ ids ↔ ∃ inside : i < items.length, p items[i]) :
    ids = items.findIdxs p := by
  apply sorted.eq_of_mem_iff List.pairwise_findIdxs
  intro i
  rw [members, List.mem_findIdxs_iff_exists_getElem_pos]

/-- The last item that passes, by its position. -/
theorem find?_reverse (p : α → Bool) (items : List α) :
    match items.reverse.find? p with
    | none => (items.findIdxs p).getLast? = none
    | some item => ∃ i, (items.findIdxs p).getLast? = some i ∧ items[i]? = some item := by
  induction items using List.reverseRecOn with
  | nil => rfl
  | append_singleton items item ih =>
      rw [List.reverse_append, List.reverse_singleton, List.singleton_append, List.find?_cons,
        List.findIdxs_append, List.findIdxs_singleton]
      cases passes : p item with
      | true =>
          refine ⟨items.length, ?_, ?_⟩
          · rw [if_pos rfl, List.getLast?_concat, Nat.zero_add]
          · rw [List.getElem?_concat_length]
      | false =>
          simp only [Bool.false_eq_true, if_false, List.append_nil]
          cases found : items.reverse.find? p with
          | none =>
              rw [found] at ih
              exact ih
          | some other =>
              rw [found] at ih
              obtain ⟨i, last, here⟩ := ih
              have inside := (List.getElem?_eq_some_iff.mp here).1
              exact ⟨i, last, by rw [List.getElem?_append_left inside, here]⟩

/-! ### The last item that passes -/

/-- The last item that passes; the test also sees its position. -/
def IsLast (p : α → Nat → Prop) (items : List α) (i : Nat) : Prop :=
  (∃ item, items[i]? = some item ∧ p item i) ∧
  ∀ j, i < j → ∀ item, items[j]? = some item → ¬ p item j

theorem IsLast.unique {p : α → Nat → Prop} {items : List α} {i j : Nat}
    (first : IsLast p items i) (second : IsLast p items j) : i = j := by
  obtain ⟨⟨a, atI, passes⟩, last⟩ := first
  obtain ⟨⟨b, atJ, passes'⟩, last'⟩ := second
  rcases Nat.lt_trichotomy i j with before | same | after
  · exact absurd passes' (last j before b atJ)
  · exact same
  · exact absurd passes (last' i after a atI)

theorem IsLast.congr {p q : α → Nat → Prop} {items : List α} {i : Nat}
    (same : ∀ i item, items[i]? = some item → (p item i ↔ q item i)) :
    IsLast p items i ↔ IsLast q items i := by
  refine and_congr ?_ ?_
  · exact exists_congr fun item => and_congr_right fun found => same i item found
  · exact forall₂_congr fun j _ => forall₂_congr fun item found => not_congr (same j item found)

theorem getElem?_concat_iff {items : List α} {item other : α} {i : Nat} :
    (items ++ [item])[i]? = some other ↔
      items[i]? = some other ∨ i = items.length ∧ item = other := by
  rcases Nat.lt_trichotomy i items.length with inside | rfl | outside
  · rw [List.getElem?_append_left inside]
    simp [inside.ne]
  · simp
  · have length : (items ++ [item]).length ≤ i := by
      rw [List.length_append, List.length_singleton]
      omega
    rw [List.getElem?_eq_none length, List.getElem?_eq_none outside.le]
    simp [outside.ne']

/-- A later item that does not pass leaves the last one where it is. -/
theorem isLast_append_singleton {p : α → Nat → Prop} {items : List α} {item : α} {i : Nat} :
    IsLast p (items ++ [item]) i ↔
      p item items.length ∧ i = items.length ∨ ¬ p item items.length ∧ IsLast p items i := by
  simp only [IsLast, getElem?_concat_iff]
  constructor
  · rintro ⟨⟨a, found | ⟨rfl, rfl⟩, passes⟩, last⟩
    · have inside := (List.getElem?_eq_some_iff.mp found).1
      refine .inr ⟨last _ inside item (.inr ⟨rfl, rfl⟩), ⟨a, found, passes⟩, ?_⟩
      exact fun j later b here => last j later b (.inl here)
    · exact .inl ⟨passes, rfl⟩
  · rintro (⟨passes, rfl⟩ | ⟨fails, ⟨a, found, passes⟩, last⟩)
    · refine ⟨⟨item, .inr ⟨rfl, rfl⟩, passes⟩, fun j later b here => ?_⟩
      rcases here with here | ⟨rfl, _⟩
      · have inside := (List.getElem?_eq_some_iff.mp here).1
        omega
      · exact absurd later (lt_irrefl _)
    · refine ⟨⟨a, .inl found, passes⟩, fun j later b here => ?_⟩
      rcases here with here | ⟨rfl, rfl⟩
      · exact last j later b here
      · exact fails

theorem exists_isLast {p : α → Nat → Prop} {items : List α} {i : Nat} {item : α}
    (found : items[i]? = some item) (passes : p item i) : ∃ last, IsLast p items last := by
  classical
  induction items using List.reverseRecOn with
  | nil => cases found
  | append_singleton items last ih =>
      simp only [isLast_append_singleton]
      by_cases ends : p last items.length
      · exact ⟨_, .inl ⟨ends, rfl⟩⟩
      · rcases getElem?_concat_iff.mp found with found | ⟨rfl, rfl⟩
        · obtain ⟨i, first⟩ := ih found
          exact ⟨i, .inr ⟨ends, first⟩⟩
        · exact absurd passes ends

theorem find?_zipIdx_reverse {p : α × Nat → Bool} {items : List α} {i : Nat} :
    (items.zipIdx.reverse.find? p).map (·.2) = some i ↔
      IsLast (fun item i => p (item, i) = true) items i := by
  induction items using List.reverseRecOn with
  | nil => simp [IsLast]
  | append_singleton items item ih =>
      rw [isLast_append_singleton, ← ih, List.zipIdx_append, List.reverse_append]
      simp only [List.zipIdx_singleton, List.reverse_singleton, List.singleton_append,
        List.find?_cons, Nat.zero_add]
      cases p (item, items.length) <;> simp [eq_comm]

theorem getLast?_findIdxs {p : α → Bool} {items : List α} {i : Nat} :
    (items.findIdxs p).getLast? = some i ↔ IsLast (fun item _ => p item = true) items i := by
  induction items using List.reverseRecOn with
  | nil => simp [IsLast]
  | append_singleton items item ih =>
      rw [isLast_append_singleton, ← ih, List.findIdxs_append]
      cases passes : p item <;> simp [passes, List.findIdxs_cons, eq_comm]

/-! ### Pages -/

/-- The items of a page. -/
def window (items : List α) (offset limit : Nat) : List α :=
  (items.drop offset).take limit

theorem window_clip (items : List α) (offset limit : Nat) :
    window items (min offset items.length) (min limit (items.length - min offset items.length)) =
      window items offset limit := by
  unfold window
  rcases Nat.le_total offset items.length with inside | beyond
  · rw [Nat.min_eq_left inside, List.take_eq_take_iff, List.length_drop]
    omega
  · rw [Nat.min_eq_right beyond, List.drop_length, List.drop_of_length_le beyond]
    simp

/-- The pages of one size, one after the other, are the items. -/
theorem flatten_windows (items : List α) (size pages : Nat) :
    ((List.range pages).map fun i => window items (i * size) size).flatten =
      items.take (pages * size) := by
  induction pages with
  | zero => simp
  | succ pages ih =>
      rw [List.range_succ, List.map_append, List.flatten_append, ih, List.map_singleton,
        List.flatten_singleton, Nat.succ_mul, List.take_add]
      rfl

/-- The windows that end at a cap are the windows of the items before it. -/
theorem window_take (items : List α) (offset size cap : Nat) :
    window items offset (min size (cap - offset)) = window (items.take cap) offset size := by
  simp only [window, List.drop_take, List.take_take]

theorem length_window_le (items : List α) (offset limit : Nat) :
    (window items offset limit).length ≤ limit :=
  List.length_take_le ..

/-- Items that have the same pages are the same. -/
theorem eq_of_pages {xs ys : List α} {size : Nat} (positive : 0 < size)
    (same : ∀ pages, xs.take (pages * size) = ys.take (pages * size)) : xs = ys := by
  have enough : max xs.length ys.length ≤ max xs.length ys.length * size :=
    Nat.le_mul_of_pos_right _ positive
  have whole := same (max xs.length ys.length)
  rwa [List.take_of_length_le (by omega), List.take_of_length_le (by omega)] at whole

/-! ### Chunks -/

/-- The position where each chunk begins, and at last where the last one ends. -/
def starts (base : Nat) : List (List α) → List Nat
  | [] => [base]
  | chunk :: rest => base :: starts (base + chunk.length) rest

/-- The number of starts that are not after a position. -/
def reached (base : Nat) (chunks : List (List α)) (position : Nat) : Nat :=
  ((starts base chunks).takeWhile (· ≤ position)).length

theorem reached_pos {base position : Nat} (chunks : List (List α)) (from_base : base ≤ position) :
    0 < reached base chunks position := by
  cases chunks <;> simp [reached, starts, from_base]

/-- The last chunk that begins at the position or before it does so. -/
theorem start_le (chunks : List (List α)) (position : Nat) :
    (starts 0 chunks).getD (reached 0 chunks position - 1) 0 ≤ position := by
  have positive := reached_pos chunks (Nat.zero_le position)
  have inside : reached 0 chunks position - 1 <
      ((starts 0 chunks).takeWhile (· ≤ position)).length := by
    rw [reached] at positive ⊢
    omega
  have passes := List.all_eq_true.mp List.all_takeWhile _ (List.getElem_mem inside)
  rw [(List.takeWhile_prefix _).getElem inside] at passes
  have bound := inside.trans_le (List.takeWhile_prefix _).length_le
  rw [List.getD_eq_getElem?_getD, List.getElem?_eq_getElem bound, Option.getD_some]
  exact of_decide_eq_true passes

/-- The last chunk that begins at the position or before it holds the item at the position. -/
theorem getElem?_flatten (base : Nat) {position : Nat} {chunks : List (List α)}
    (begun : base ≤ position) (inside : position < base + chunks.flatten.length) :
    ∃ chunk start, chunks[reached base chunks position - 1]? = some chunk ∧
      (starts base chunks)[reached base chunks position - 1]? = some start ∧
      chunk[position - start]? = chunks.flatten[position - base]? := by
  induction chunks generalizing base with
  | nil => simp at inside; omega
  | cons chunk rest ih =>
      by_cases here : position < base + chunk.length
      · have stop : (starts (base + chunk.length) rest).takeWhile (· ≤ position) = [] := by
          cases rest <;> simp [starts, here]
        refine ⟨chunk, base, ?_, ?_, ?_⟩
        · simp [reached, starts, begun, stop]
        · simp [reached, starts, begun, stop]
        · rw [List.flatten_cons, List.getElem?_append_left (by omega)]
      · have later : base + chunk.length ≤ position := by omega
        obtain ⟨found, start, at_chunk, at_start, same⟩ :=
          ih (base + chunk.length) later (by simpa [Nat.add_assoc] using inside)
        have step : reached base (chunk :: rest) position =
            reached (base + chunk.length) rest position + 1 := by
          simp [reached, starts, begun]
        have positive := reached_pos rest later
        refine ⟨found, start, ?_, ?_, ?_⟩
        · rw [step, Nat.add_sub_cancel, List.getElem?_cons, if_neg (by omega), at_chunk]
        · rw [step, Nat.add_sub_cancel, starts, List.getElem?_cons, if_neg (by omega), at_start]
        · rw [same, List.flatten_cons, List.getElem?_append_right (by omega)]
          congr 1
          omega

/-! ### Order -/

/-- A list written to the given places of another one. -/
def scatter (places : List Nat) (first : Nat) (into : List Nat) : List Nat :=
  (places.zipIdx first).foldl (fun out (place, i) => out.set place i) into

theorem length_scatter (places : List Nat) (first : Nat) (into : List Nat) :
    (scatter places first into).length = into.length := by
  induction places generalizing first into with
  | nil => rfl
  | cons place rest ih =>
      have next := ih (first + 1) (into.set place first)
      rw [List.length_set] at next
      exact next

theorem scatter_of_notMem {place : Nat} {places : List Nat} (first : Nat) (into : List Nat)
    (absent : place ∉ places) : (scatter places first into)[place]? = into[place]? := by
  induction places generalizing first into with
  | nil => rfl
  | cons other rest ih =>
      obtain ⟨different, later⟩ := List.ne_and_not_mem_of_not_mem_cons absent
      have next := ih (first + 1) (into.set other first) later
      rw [List.getElem?_set_ne (Ne.symm different)] at next
      exact next

/-- Each place holds the index of its own entry. -/
theorem scatter_getElem? {places : List Nat} {into : List Nat} (first : Nat)
    (distinct : places.Nodup) {i place : Nat} (entry : places[i]? = some place)
    (inside : place < into.length) :
    (scatter places first into)[place]? = some (first + i) := by
  induction places generalizing first into i with
  | nil => cases entry
  | cons head rest ih =>
      obtain ⟨fresh, others⟩ := List.nodup_cons.mp distinct
      cases i with
      | zero =>
          obtain rfl : head = place := by simpa using entry
          have kept := scatter_of_notMem (first + 1) (into.set head first) fresh
          rw [List.getElem?_set_self inside] at kept
          exact kept
      | succ i =>
          have next : (scatter rest (first + 1) (into.set head first))[place]? =
              some (first + 1 + i) := ih (first + 1) others entry (by rwa [List.length_set])
          rw [show first + (i + 1) = first + 1 + i by omega]
          exact next

theorem mem_scatter {places into : List Nat} {first x : Nat}
    (member : x ∈ scatter places first into) : x ∈ into ∨ x < first + places.length := by
  induction places generalizing first into with
  | nil => exact .inl member
  | cons place rest ih =>
      rw [List.length_cons]
      rcases @ih (into.set place first) (first + 1) member with kept | written
      · rcases List.mem_or_eq_of_mem_set kept with old | rfl
        · exact .inl old
        · right; omega
      · right; omega

/-- Items that were moved together with their places are put back by the places. -/
theorem map_scatter (moved : List (Nat × α)) (target : List α) (default : α)
    (items : ∀ entry ∈ moved, target[entry.1]? = some entry.2)
    (distinct : (moved.map (·.1)).Nodup)
    (covered : ∀ place < target.length, place ∈ moved.map (·.1)) :
    (scatter (moved.map (·.1)) 0 (.replicate target.length 0)).map
      (fun i => (moved.map (·.2)).getD i default) = target := by
  have sizes := length_scatter (moved.map (·.1)) 0 (List.replicate target.length 0)
  rw [List.length_replicate] at sizes
  apply List.ext_getElem?
  intro place
  by_cases inside : place < target.length
  · obtain ⟨i, bound, at_place⟩ := List.getElem_of_mem (covered place inside)
    rw [List.length_map] at bound
    have entry : (moved.map (·.1))[i]? = some place := by
      rw [List.getElem?_eq_getElem (by simpa using bound), at_place]
    have written := scatter_getElem? 0 distinct entry
      (by rwa [List.length_replicate] : place < (List.replicate target.length 0).length)
    have item := items moved[i] (List.getElem_mem bound)
    rw [List.getElem_map] at at_place
    rw [at_place] at item
    rw [List.getElem?_map, written, item]
    simp [bound]
  · rw [List.getElem?_eq_none (by simp [sizes]; omega), List.getElem?_eq_none (by omega)]

/-- Taking the items of one key after the other leaves none out. -/
theorem perm_flatMap_filter (key : α → Nat) (items : List α) (bound : Nat) :
    ((List.range bound).flatMap fun k => items.filter (key · = k)).Perm
      (items.filter (key · < bound)) := by
  induction bound with
  | zero => simp
  | succ bound ih =>
      rw [List.range_succ, List.flatMap_append, List.flatMap_singleton]
      have split := List.filter_append_perm (decide <| key · < bound)
        (items.filter (key · < bound + 1))
      simp only [List.filter_filter] at split
      have below : items.filter (fun item => decide (key item < bound) &&
          decide (key item < bound + 1)) = items.filter (key · < bound) := by
        apply List.filter_congr
        intro item _
        simp only [← Bool.decide_and, decide_eq_decide]
        omega
      have last : items.filter (fun item => !decide (key item < bound) &&
          decide (key item < bound + 1)) = items.filter (key · = bound) := by
        apply List.filter_congr
        intro item _
        simp only [← decide_not, ← Bool.decide_and, decide_eq_decide]
        omega
      rw [below, last] at split
      exact (ih.append_right _).trans split

end Positions
