import Mathlib.Data.List.Infix

/-! Replacing a word in a text. The words here begin with a mark that they hold nowhere else, so
that their occurrences cannot overlap: a text is cut into the pieces behind its marks, and the
word occurs where a piece begins with the rest of it. -/
namespace Replacing

variable {α : Type} [DecidableEq α]

/-- Replaces the occurrences from the left after `skip` letters, which have been replaced. -/
def replaceFrom (old new : List α) : Nat → List α → List α
  | _, [] => []
  | skip + 1, _ :: rest => replaceFrom old new skip rest
  | 0, c :: rest =>
    if old <+: c :: rest then new ++ replaceFrom old new (old.length - 1) rest
    else c :: replaceFrom old new 0 rest

def replaceAll (old new text : List α) : List α := replaceFrom old new 0 text

/-- A text by its pieces behind the marks. -/
def pieces (m : α) (first : List α) (rest : List (List α)) : List α :=
  first ++ rest.flatMap (m :: ·)

/-- What becomes of the piece behind a mark. -/
def exchange (old new piece : List α) : List α :=
  if old <+: piece then new ++ piece.drop old.length else piece

variable {m : α} {old new word text first piece : List α} {rest : List (List α)}

omit [DecidableEq α] in
theorem exists_pieces (m : α) (text : List α) : ∃ first rest,
    text = pieces m first rest ∧ m ∉ first ∧ ∀ piece ∈ rest, m ∉ piece := by
  classical
  induction text with
  | nil => exact ⟨[], [], rfl, List.not_mem_nil, List.forall_mem_nil _⟩
  | cons c text ih =>
    obtain ⟨first, rest, rfl, free, frees⟩ := ih
    by_cases mark : c = m
    · subst mark
      exact ⟨[], first :: rest, rfl, List.not_mem_nil, List.forall_mem_cons.mpr ⟨free, frees⟩⟩
    · exact ⟨c :: first, rest, rfl, List.not_mem_cons_of_ne_of_not_mem (Ne.symm mark) free, frees⟩

omit [DecidableEq α] in
/-- The rest of a word ends before the next mark. -/
theorem prefix_piece_iff (plain : m ∉ word) :
    word <+: piece ++ rest.flatMap (m :: ·) ↔ word <+: piece := by
  constructor
  · intro starts
    obtain within | ⟨after, rfl⟩ :=
      List.prefix_or_prefix_of_prefix starts (List.prefix_append piece _)
    · exact within
    · have ahead := (List.prefix_append_right_inj piece).mp starts
      cases after with
      | nil => rw [List.append_nil]
      | cons c after =>
        cases rest with
        | nil => cases List.prefix_nil.mp ahead
        | cons next rest =>
          obtain ⟨rfl, _⟩ := List.cons_prefix_cons.mp ahead
          exact absurd (List.mem_append_right _ List.mem_cons_self) plain
  · intro starts
    exact starts.trans (List.prefix_append _ _)

omit [DecidableEq α] in
theorem infix_append_of_free (free : m ∉ first) :
    m :: word <:+: first ++ text ↔ m :: word <:+: text := by
  induction first with
  | nil => rfl
  | cons c first ih =>
    obtain ⟨apart, free⟩ := List.ne_and_not_mem_of_not_mem_cons free
    rw [List.cons_append, List.infix_cons_iff, ih free, List.cons_prefix_cons]
    exact or_iff_right fun both => apart both.1

omit [DecidableEq α] in
theorem infix_pieces_iff (plain : m ∉ word) (free : m ∉ first)
    (frees : ∀ piece ∈ rest, m ∉ piece) :
    m :: word <:+: pieces m first rest ↔ ∃ piece ∈ rest, word <+: piece := by
  rw [pieces, infix_append_of_free free]
  induction rest with
  | nil => simp
  | cons piece rest ih =>
    obtain ⟨free, frees⟩ := List.forall_mem_cons.mp frees
    rw [List.flatMap_cons, List.cons_append, List.infix_cons_iff, List.cons_prefix_cons,
      prefix_piece_iff plain, infix_append_of_free free, ih frees, List.exists_mem_cons_iff]
    simp only [true_and]

theorem replaceFrom_skip (old new skipped text : List α) :
    replaceFrom old new skipped.length (skipped ++ text) = replaceFrom old new 0 text := by
  induction skipped with
  | nil => rfl
  | cons c skipped ih => exact ih

theorem replaceFrom_free (free : m ∉ first) (text : List α) :
    replaceFrom (m :: old) new 0 (first ++ text) = first ++ replaceFrom (m :: old) new 0 text := by
  induction first with
  | nil => rfl
  | cons c first ih =>
    obtain ⟨apart, free⟩ := List.ne_and_not_mem_of_not_mem_cons free
    have elsewhere : ¬ m :: old <+: c :: (first ++ text) := fun starts =>
      apart (List.cons_prefix_cons.mp starts).1
    rw [List.cons_append, replaceFrom, if_neg elsewhere, ih free]
    rfl

/-- Each piece is exchanged by itself. -/
theorem replaceAll_pieces (plain : m ∉ old) (free : m ∉ first)
    (frees : ∀ piece ∈ rest, m ∉ piece) :
    replaceAll (m :: old) (m :: new) (pieces m first rest) =
      pieces m first (rest.map (exchange old new)) := by
  rw [replaceAll, pieces, replaceFrom_free free, pieces]
  congr 1
  induction rest with
  | nil => rfl
  | cons piece rest ih =>
    obtain ⟨free, frees⟩ := List.forall_mem_cons.mp frees
    have later := ih frees
    have here : m :: old <+: m :: (piece ++ rest.flatMap (m :: ·)) ↔ old <+: piece := by
      rw [List.cons_prefix_cons, prefix_piece_iff plain, and_iff_right rfl]
    rw [List.flatMap_cons, List.cons_append, List.map_cons, List.flatMap_cons, replaceFrom, exchange]
    by_cases starts : old <+: piece
    · rw [if_pos (here.mpr starts), if_pos starts]
      obtain ⟨after, rfl⟩ := starts
      have rested : m ∉ after := fun member => free (List.mem_append_right _ member)
      rw [List.drop_left, List.length_cons, Nat.add_sub_cancel, List.append_assoc,
        replaceFrom_skip, replaceFrom_free rested, later, List.cons_append, List.cons_append,
        List.append_assoc]
    · rw [if_neg (mt here.mp starts), if_neg starts, replaceFrom_free free, later]
      rfl

theorem exchange_free (plain : m ∉ new) (free : m ∉ piece) : m ∉ exchange old new piece := by
  rw [exchange]
  split
  · intro member
    obtain fresh | old := List.mem_append.mp member
    · exact plain fresh
    · exact free (List.mem_of_mem_drop old)
  · exact free

/-- A word that cannot begin where the new one does occurs after a replacement only where it
occurred before, and no occurrence of the old word is left. -/
theorem infix_of_replaceAll (plain : m ∉ old) (fresh : m ∉ new) (bare : m ∉ word)
    (longer : ¬ word <+: new) (shorter : ¬ new <+: word)
    (occurs : m :: word <:+: replaceAll (m :: old) (m :: new) text) :
    word ≠ old ∧ m :: word <:+: text := by
  obtain ⟨first, rest, rfl, free, frees⟩ := exists_pieces m text
  have exchanged : ∀ piece ∈ rest.map (exchange old new), m ∉ piece := by
    rw [List.forall_mem_map]
    exact fun piece member => exchange_free fresh (frees piece member)
  rw [replaceAll_pieces plain free frees, infix_pieces_iff bare free exchanged] at occurs
  obtain ⟨_, member, starts⟩ := occurs
  obtain ⟨piece, listed, rfl⟩ := List.mem_map.mp member
  rw [exchange] at starts
  split at starts
  case isTrue =>
    obtain inside | around := List.prefix_or_prefix_of_prefix starts (List.prefix_append _ _)
    · exact absurd inside longer
    · exact absurd around shorter
  case isFalse absent =>
    refine ⟨?_, (infix_pieces_iff bare free frees).mpr ⟨piece, listed, starts⟩⟩
    rintro rfl
    exact absent starts

/-- A text without the word is left as it is. -/
theorem replaceAll_of_absent (absent : ¬ old <:+: text) : replaceAll old new text = text := by
  rw [replaceAll]
  induction text with
  | nil => rfl
  | cons c text ih =>
    rw [List.infix_cons_iff, not_or] at absent
    rw [replaceFrom, if_neg absent.1, ih absent.2]

end Replacing
