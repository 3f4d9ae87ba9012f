import Datapress.Library.JsonTexts
import Mathlib.Tactic.Choose

/-! JSON documents, and the objects and lists that are put together of them without blanks. -/
namespace JsonReader

/-- The text stands for the value, alone and in front of a delimiter. -/
def Document (text : List Char) (value : Value) : Prop := Reads text.length text value

/-- A text that cannot be taken for the end of the list around it. -/
def Opens (text : List Char) : Prop := ∃ c, text.head? = some c ∧ c ≠ ']' ∧ isBlank c = false

theorem Reads.mono {shallow deep : Nat} {text : List Char} {value : Value}
    (reads : Reads shallow text value) (deeper : shallow ≤ deep) : Reads deep text value :=
  fun fuel rest enough => reads fuel rest (Nat.le_trans deeper enough)

theorem Document.read {text : List Char} {value : Value} (document : Document text value) :
    read text = some value := by
  have whole := document (text.length + 1) [] (Nat.le_succ _) fun _ none => by cases none
  rw [List.append_nil] at whole
  simp only [JsonReader.read, whole, Option.bind_eq_bind, Option.bind_some, skip,
    List.dropWhile_nil, List.isEmpty_nil, if_true]

/-- What is read without going deeper is no empty text. -/
theorem document_of_reads {text : List Char} {value : Value} (reads : Reads 1 text value) :
    Document text value := by
  cases text with
  | nil =>
      have none : readValue 1 ([] ++ []) = none := rfl
      cases none.symm.trans (reads 1 [] (Nat.le_refl 1) fun _ impossible => by cases impossible)
  | cons c cs => exact reads.mono (Nat.succ_le_succ (Nat.zero_le _))

theorem document_nat (n : Nat) : Document (toString n).toList (.number n 0) :=
  document_of_reads (reads_number n)

/-- The length of the longest text. -/
def longest (texts : List (List Char)) : Nat := (texts.map List.length).foldr max 0

theorem length_le_longest {texts : List (List Char)} {text : List Char} (member : text ∈ texts) :
    text.length ≤ longest texts := by
  induction texts with
  | nil => cases member
  | cons first others ih =>
      rcases List.mem_cons.mp member with rfl | later
      · exact Nat.le_max_left ..
      · exact Nat.le_trans (ih later) (Nat.le_max_right ..)

theorem longest_add_lt_memberTexts (ms : List Member) :
    longest (ms.map fun m => m.2.1) + ms.length < (memberTexts (ms.map Member.written)).length := by
  induction ms with
  | nil => exact Nat.zero_lt_one
  | cons m ms ih =>
      obtain ⟨more, whole, found⟩ := memberTexts_cons m ms
      rw [whole]
      simp only [longest, List.map_cons, List.foldr_cons, List.length_cons, List.length_append] at ih ⊢
      subst found
      cases ms with
      | nil => simp; omega
      | cons n ns =>
          rw [if_neg (List.cons_ne_nil n ns)]
          simp only [List.length_cons] at ih ⊢
          omega

theorem longest_add_lt_itemTexts (item : List Char) (items : List (List Char)) :
    longest (item :: items) + items.length < (itemTexts (item :: items)).length := by
  induction items generalizing item with
  | nil => simp [longest, itemTexts]
  | cons next others ih =>
      have later := ih next
      rw [itemTexts.eq_3 _ _ (List.cons_ne_nil next others)]
      simp only [longest, List.map_cons, List.foldr_cons, List.length_cons, List.length_append] at later ⊢
      omega

/-- An object of documents. -/
theorem document_object {ms : List Member} (keys : ∀ m ∈ ms, m.1.all plain = true)
    (each : ∀ m ∈ ms, Document m.2.1 m.2.2) :
    Document ('{' :: memberTexts (ms.map Member.written)) (.object (ms.map Member.value)) := by
  have reads : ∀ m ∈ ms, Reads (longest (ms.map fun m => m.2.1)) m.2.1 m.2.2 := fun m member =>
    (each m member).mono (length_le_longest (List.mem_map.mpr ⟨m, member, rfl⟩))
  refine (reads_object keys reads).mono ?_
  exact Nat.succ_le_succ (Nat.le_of_lt (longest_add_lt_memberTexts ms))

theorem reads_list {depth : Nat} {items : List (List Char × Value)}
    (opens : ∀ item ∈ items, Opens item.1) (reads : ∀ item ∈ items, Reads depth item.1 item.2) :
    Reads (depth + items.length + 1) ('[' :: itemTexts (items.map Prod.fst))
      (.array (items.map Prod.snd)) := by
  intro fuel rest enough delimits
  cases fuel with
  | zero => omega
  | succ fuel =>
      rw [List.cons_append]
      cases items with
      | nil =>
          rw [readValue, skip_cons (by decide)]
          simp only [List.map_nil, itemTexts, List.cons_append, List.nil_append,
            skip_cons (show isBlank ']' = false by decide)]
      | cons item items =>
          have read := readElements_itemTexts (List.cons_ne_nil item items)
            (show depth + (item :: items).length ≤ fuel by omega) reads rest
          obtain ⟨c, first, other⟩ := opens item List.mem_cons_self
          have begins : ∃ cs, itemTexts ((item :: items).map Prod.fst) ++ rest = c :: cs := by
            rw [List.map_cons, itemTexts_eq]
            cases text : item.1 with
            | nil =>
                rw [text] at first
                cases first
            | cons d ds =>
                rw [text] at first
                cases first
                exact ⟨_, rfl⟩
          obtain ⟨cs, begins⟩ := begins
          rw [begins] at read ⊢
          rw [readValue_list other, read]
          rfl

/-- A list of documents. -/
theorem document_list {items : List (List Char × Value)} (opens : ∀ item ∈ items, Opens item.1)
    (each : ∀ item ∈ items, Document item.1 item.2) :
    Document ('[' :: itemTexts (items.map Prod.fst)) (.array (items.map Prod.snd)) := by
  have reads : ∀ item ∈ items, Reads (longest (items.map Prod.fst)) item.1 item.2 :=
    fun item member =>
      (each item member).mono (length_le_longest (List.mem_map.mpr ⟨item, member, rfl⟩))
  refine (reads_list opens reads).mono ?_
  cases items with
  | nil => decide
  | cons item items =>
      have short := longest_add_lt_itemTexts item.1 (items.map Prod.fst)
      rw [List.length_map] at short
      rw [List.length_cons, List.length_cons, List.map_cons]
      omega

/-! Documents of which only that they are some is known. -/

theorem exists_document_object {α : Type} {name text : α → List Char} {members : List α}
    (each : ∀ m ∈ members, (name m).all plain = true ∧ ∃ value, Document (text m) value) :
    ∃ value : α → Value, (∀ m ∈ members, Document (text m) (value m)) ∧
      Document ('{' :: memberTexts (members.map fun m => (name m, text m)))
        (.object (members.map fun m => (name m, value m))) := by
  have nonempty : Nonempty Value := ⟨.null⟩
  choose! value document using fun m listed => (each m listed).2
  refine ⟨value, document, ?_⟩
  have whole := @document_object (members.map fun m => (name m, text m, value m)) ?_ ?_
  · rw [List.map_map, List.map_map] at whole
    exact whole
  · rw [List.forall_mem_map]
    exact fun m listed => (each m listed).1
  · rw [List.forall_mem_map]
    exact document

theorem exists_document_list {α : Type} {text : α → List Char} {items : List α}
    (each : ∀ item ∈ items, Opens (text item) ∧ ∃ value, Document (text item) value) :
    ∃ value : α → Value, (∀ item ∈ items, Document (text item) (value item)) ∧
      Document ('[' :: itemTexts (items.map text)) (.array (items.map value)) := by
  have nonempty : Nonempty Value := ⟨.null⟩
  choose! value document using fun item listed => (each item listed).2
  refine ⟨value, document, ?_⟩
  have whole := @document_list (items.map fun item => (text item, value item)) ?_ ?_
  · rw [List.map_map, List.map_map] at whole
    exact whole
  · rw [List.forall_mem_map]
    exact fun item listed => (each item listed).1
  · rw [List.forall_mem_map]
    exact document

end JsonReader
