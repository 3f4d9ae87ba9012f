import Mathlib.Data.List.AList
import Mathlib.Data.String.Basic

/-! The places that paths lead to, and the tree of files that stand there. A path is read
component by component, and a file system may take several spellings for one name. -/
namespace FileTree

/-- The names that lead to a file or directory from the top. -/
abbrev Place := List String

/-- The working directory, and the name that the spelling of a component stands for. -/
structure FileSystem where
  cwd : Place
  fold : String → String

/-- Whether a component is a name: an empty one and `.` stay where they are, `..` goes up. -/
def Named (component : String) : Prop := component ≠ "" ∧ component ≠ "." ∧ component ≠ ".."

instance (component : String) : Decidable (Named component) :=
  inferInstanceAs (Decidable (_ ∧ _ ∧ _))

namespace FileSystem

def walk (fs : FileSystem) (here : Place) (component : String) : Place :=
  if component = "" ∨ component = "." then here
  else if component = ".." then here.dropLast
  else here ++ [fs.fold component]

/-- Reads a path on from a place and the characters of the component it is in. -/
def read (fs : FileSystem) (position : Place × List Char) (c : Char) : Place × List Char :=
  if c = '/' then (fs.walk position.1 (.ofList position.2), [])
  else (position.1, position.2 ++ [c])

end FileSystem

def absolute (path : String) : Bool := path.toList.head? == some '/'

/-- The place that a path leads to. -/
def FileSystem.locate (fs : FileSystem) (path : String) : Place :=
  let position := path.toList.foldl fs.read (if absolute path then [] else fs.cwd, [])
  fs.walk position.1 (.ofList position.2)

/-- A path with another after it, which replaces it when absolute. -/
def join (base part : String) : String :=
  if absolute part then part
  else if base = "" ∨ base.toList.getLast? = some '/' then base ++ part
  else base ++ "/" ++ part

section
variable {fs : FileSystem} {base part : String}

theorem walk_named {here : Place} (named : Named part) :
    fs.walk here part = here ++ [fs.fold part] := by
  obtain ⟨occupied, stays, up⟩ := named
  rw [FileSystem.walk, if_neg (by simp [occupied, stays]), if_neg up]

theorem foldl_read {text : List Char} (simple : '/' ∉ text) (here : Place) (before : List Char) :
    text.foldl fs.read (here, before) = (here, before ++ text) := by
  induction text generalizing before with
  | nil => simp
  | cons c rest ih =>
      rw [List.mem_cons, not_or] at simple
      obtain ⟨notSlash, simple⟩ := simple
      rw [List.foldl_cons, FileSystem.read, if_neg (Ne.symm notSlash), ih simple]
      simp

theorem absolute_append {text : String} (occupied : base ≠ "") :
    absolute (base ++ text) = absolute base := by
  have some : base.toList ≠ [] := fun none => occupied (String.toList_eq_nil_iff.mp none)
  rw [absolute, absolute, String.toList_append, List.head?_append_of_ne_nil _ some]

/-- A joined component is one step from where the base leads. -/
theorem locate_join (simple : '/' ∉ part.toList) :
    fs.locate (join base part) = fs.walk (fs.locate base) part := by
  have relative : absolute part = false := by
    rw [absolute, beq_eq_false_iff_ne]
    intro first
    exact simple (List.mem_of_head? first)
  rw [join, relative, if_neg (by decide)]
  by_cases blank : base = ""
  · subst blank
    rw [if_pos (.inl rfl), String.empty_append, FileSystem.locate, relative, foldl_read simple]
    simp [FileSystem.locate, FileSystem.walk, absolute]
  by_cases slash : base.toList.getLast? = some '/'
  · obtain ⟨front, whole⟩ := List.getLast?_eq_some_iff.mp slash
    rw [if_pos (.inr slash), FileSystem.locate, absolute_append blank, String.toList_append,
      List.foldl_append, whole, List.foldl_append]
    simp only [FileSystem.locate, whole, List.foldl_append, List.foldl_cons, List.foldl_nil]
    generalize front.foldl fs.read _ = position
    rw [FileSystem.read, if_pos rfl, foldl_read simple]
    simp [FileSystem.walk]
  · rw [if_neg (by simp [blank, slash]), FileSystem.locate, String.append_assoc,
      absolute_append blank, String.toList_append, List.foldl_append]
    simp only [FileSystem.locate]
    generalize base.toList.foldl fs.read _ = position
    have text : ("/" ++ part).toList = '/' :: part.toList := String.toList_append
    rw [text, List.foldl_cons, FileSystem.read, if_pos rfl, foldl_read simple]
    simp

end

/-! ### Trees -/

/-- The files by their places; a directory is there as long as a file is below it. -/
abbrev Files (Content : Type) := AList fun _ : Place => Content

/-- Whether a place is strictly inside another. -/
def Below (place below : Place) : Prop := ∃ name rest, below = place ++ name :: rest

instance (place below : Place) : Decidable (Below place below) :=
  decidable_of_iff (place <+: below ∧ place ≠ below) <| by
    constructor
    · rintro ⟨⟨rest, rfl⟩, different⟩
      cases rest with
      | nil => exact absurd (List.append_nil place).symm different
      | cons name rest => exact ⟨name, rest, rfl⟩
    · rintro ⟨name, rest, rfl⟩
      refine ⟨List.prefix_append _ _, ?_⟩
      simp

theorem Below.of_append {place below : Place} {names : List String}
    (inside : Below (place ++ names) below) : Below place below := by
  obtain ⟨name, rest, rfl⟩ := inside
  cases names with
  | nil => exact ⟨name, rest, by simp⟩
  | cons first others => exact ⟨first, others ++ name :: rest, by simp⟩

namespace Files
variable {Content : Type}

def keep (tree : Files Content) (kept : Place → Bool) : Files Content where
  entries := tree.entries.filter fun entry => kept entry.1
  nodupKeys := tree.nodupKeys.sublist List.filter_sublist

/-- Removes the files inside a directory, except those whose removal fails. -/
def removeAll (tree : Files Content) (place : Place) (stuck : Place → Bool) : Files Content :=
  tree.keep fun below => !decide (Below place below) || stuck below

/-- The directories directly inside a place. -/
def directories (tree : Files Content) (place : Place) : List String :=
  (tree.keys.filterMap fun below =>
    match below.drop place.length with
    | name :: _ :: _ => if place <+: below then some name else none
    | _ => none).dedup

theorem lookup_keep (tree : Files Content) (kept : Place → Bool) (place : Place) :
    (tree.keep kept).lookup place = if kept place then tree.lookup place else none := by
  ext content
  have after := List.mem_dlookup_iff (tree.keep kept).nodupKeys (a := place) (b := content)
  have before := List.mem_dlookup_iff tree.nodupKeys (a := place) (b := content)
  rw [Option.mem_def] at after before
  rw [AList.lookup, AList.lookup, after, keep, List.mem_filter]
  cases kept place <;> simp [before]

theorem lookup_removeAll (tree : Files Content) {place : Place} (stuck : Place → Bool)
    {below : Place} (outside : ¬ Below place below) :
    (tree.removeAll place stuck).lookup below = tree.lookup below := by
  rw [removeAll, lookup_keep, if_pos (by simp [outside])]

/-- Two trees with the same files but inside one place. -/
def SameOutside (place : Place) (tree tree' : Files Content) : Prop :=
  ∀ other, ¬ Below place other → tree'.lookup other = tree.lookup other

namespace SameOutside
variable {place : Place} {tree tree' tree'' : Files Content}

theorem refl (tree : Files Content) : SameOutside place tree tree := fun _ _ => rfl

theorem trans (first : SameOutside place tree tree') (second : SameOutside place tree' tree'') :
    SameOutside place tree tree'' :=
  fun other outside => (second other outside).trans (first other outside)

theorem removeAll {names : List String} (stuck : Place → Bool) :
    SameOutside place tree (tree.removeAll (place ++ names) stuck) :=
  fun _ outside => tree.lookup_removeAll stuck fun inside => outside inside.of_append

theorem insert {name : String} {rest : List String} (content : Content) :
    SameOutside place tree (tree.insert (place ++ name :: rest) content) := by
  intro other outside
  apply AList.lookup_insert_ne
  rintro rfl
  exact outside ⟨name, rest, rfl⟩

end SameOutside

end Files

end FileTree
