import Mathlib.Data.List.DropRight

namespace SunburstChip

/-!
# Blanks at the ends of a text

What is left of a list without the blanks at both of its ends, and what this
makes of a list of which a part has been cut off at its front.
-/

namespace Strip

variable {α : Type} (blank : α -> Bool)

/-- Without the blanks at both ends. -/
def strip (text : List α) : List α := (text.dropWhile blank).rdropWhile blank

/-- The number of blanks at the front. -/
def leading (text : List α) : Nat := (text.takeWhile blank).length

theorem rdropWhile_append (front back : List α) : (front ++ back).rdropWhile blank =
    if back.rdropWhile blank = [] then front.rdropWhile blank
    else front ++ back.rdropWhile blank := by
  unfold List.rdropWhile
  rw [List.reverse_append, List.dropWhile_append]
  by_cases none : List.dropWhile blank back.reverse = []
  · simp [none]
  · simp [none]

section

variable {blank}

/-- A character that is not blank keeps the ones before it. -/
theorem rdropWhile_cons {char : α} (dark : blank char = false) (text : List α) :
    (char :: text).rdropWhile blank = char :: text.rdropWhile blank := by
  have single : [char].rdropWhile blank = [char] := by
    rw [List.rdropWhile_singleton, dark]
    rfl
  have split := rdropWhile_append blank [char] text
  rw [single] at split
  by_cases none : text.rdropWhile blank = []
  · rw [if_pos none] at split
    rw [none]
    exact split
  · rw [if_neg none] at split
    exact split

theorem rdropWhile_blank {text : List α} (blanks : forall char, char ∈ text -> blank char = true) :
    text.rdropWhile blank = [] :=
  List.rdropWhile_eq_nil_iff.mpr blanks

theorem strip_append_left {front : List α} (blanks : forall char, char ∈ front -> blank char = true)
    (text : List α) : strip blank (front ++ text) = strip blank text := by
  unfold strip
  rw [List.dropWhile_append_of_pos blanks]

theorem strip_append_right {back : List α} (blanks : forall char, char ∈ back -> blank char = true)
    (text : List α) : strip blank (text ++ back) = strip blank text := by
  unfold strip
  rw [List.dropWhile_append]
  by_cases none : text.dropWhile blank = []
  · have nothing : back.dropWhile blank = [] := List.dropWhile_eq_nil_iff.mpr blanks
    simp [none, nothing]
  · have rest : (text.dropWhile blank).isEmpty = false := by
      simpa using none
    rw [rest, if_neg (by decide), rdropWhile_append, if_pos (rdropWhile_blank blanks)]

/-- The blanks at the back. -/
theorem strip_back (blank : α -> Bool) (text : List α) : Exists fun back =>
    (forall char, char ∈ back -> blank char = true) ∧
      text.dropWhile blank = strip blank text ++ back :=
  ⟨(text.dropWhile blank).rtakeWhile blank, fun _ inside => List.mem_rtakeWhile_imp inside,
    (List.rdropWhile_append_rtakeWhile).symm⟩

theorem drop_leading (text : List α) : text.drop (leading blank text) = text.dropWhile blank := by
  have split := List.takeWhile_append_dropWhile (p := blank) (l := text)
  have cut : (text.takeWhile blank ++ text.dropWhile blank).drop (leading blank text) =
      text.dropWhile blank := List.drop_left
  rw [split] at cut
  exact cut

/-- What is cut off a stripped text is cut off the text behind its leading blanks. -/
theorem strip_drop_strip (text : List α) (count : Nat) :
    strip blank ((strip blank text).drop count) =
      strip blank (text.drop (count + leading blank text)) := by
  rcases strip_back blank text with ⟨back, blanks, split⟩
  rw [Nat.add_comm, <- List.drop_drop, drop_leading, split, List.drop_append]
  exact (strip_append_right (fun char inside => blanks char (List.mem_of_mem_drop inside)) _).symm

/-- What is stripped gets no longer by cutting off a front. -/
theorem strip_length_le {back text : List α} (suffix : back <:+ text) :
    (strip blank back).length <= (text.rdropWhile blank).length := by
  rcases suffix with ⟨front, rfl⟩
  have shorter : (strip blank back).length <= (back.rdropWhile blank).length := by
    have split := List.takeWhile_append_dropWhile (p := blank) (l := back)
    have whole := rdropWhile_append blank (back.takeWhile blank) (back.dropWhile blank)
    rw [split] at whole
    unfold strip
    rw [whole]
    by_cases none : (back.dropWhile blank).rdropWhile blank = []
    · rw [none]
      exact Nat.zero_le _
    · rw [if_neg none, List.length_append]
      exact Nat.le_add_left _ _
  refine Nat.le_trans shorter ?_
  rw [rdropWhile_append]
  by_cases none : back.rdropWhile blank = []
  · rw [none]
    exact Nat.zero_le _
  · rw [if_neg none, List.length_append]
    exact Nat.le_add_left _ _

/-- Nothing behind a character that is not blank is the same without it. -/
theorem strip_ne_of_suffix {char : α} (dark : blank char = false) {back text : List α}
    (suffix : back <:+ text) : strip blank back ≠ strip blank (char :: text) := by
  have first : strip blank (char :: text) = char :: text.rdropWhile blank := by
    unfold strip
    rw [List.dropWhile_cons_of_neg (by simp [dark]), rdropWhile_cons dark]
  have bound : (strip blank back).length <= (text.rdropWhile blank).length := strip_length_le suffix
  intro same
  rw [same, first, List.length_cons] at bound
  exact Nat.not_succ_le_self _ bound

/-- A front can be cut off exactly if it is blank. -/
theorem strip_drop_iff (text : List α) (count : Nat) :
    strip blank (text.drop count) = strip blank text ↔
      forall char, char ∈ text.take count -> blank char = true := by
  constructor
  · intro same
    have split := List.takeWhile_append_dropWhile (p := blank) (l := text)
    by_contra other
    cases rest : text.dropWhile blank with
    | nil =>
        exact other (fun char inside =>
          List.dropWhile_eq_nil_iff.mp rest char (List.mem_of_mem_take inside))
    | cons char behind =>
        have blanks : forall char, char ∈ text.takeWhile blank -> blank char = true :=
          fun _ inside => List.mem_takeWhile_imp inside
        have dark : blank char = false := by
          have first := List.head_dropWhile_not (p := blank) (l := text) (by rw [rest]; exact nofun)
          simpa [rest] using first
        rw [rest] at split
        clear rest
        generalize text.takeWhile blank = front at split blanks
        subst split
        -- the character lies in the part that is cut off, since not all of it is blank
        have inside : front.length < count := by
          by_contra short
          apply other
          intro char inside
          rw [List.take_append_of_le_length (Nat.le_of_not_lt short)] at inside
          exact blanks char (List.mem_of_mem_take inside)
        have suffix : (front ++ char :: behind).drop count <:+ behind := by
          rcases Nat.exists_eq_add_of_lt inside with ⟨more, rfl⟩
          rw [Nat.add_assoc, <- List.drop_drop, List.drop_left, List.drop_succ_cons]
          exact List.drop_suffix _ _
        exact strip_ne_of_suffix dark suffix (same.trans (strip_append_left blanks _))
  · intro blanks
    have split := List.take_append_drop count text
    have left := strip_append_left blanks (text.drop count)
    rw [split] at left
    exact left.symm

end

end Strip
end SunburstChip
