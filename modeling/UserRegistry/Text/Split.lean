/-!
# Parts of a text

A text cut at every occurrence of one character, which is left out (`split`), or after every item
of a certain kind, which stays with what stood before it (`cutAfter`).
-/

namespace UserRegistry.Text

/-- The parts of a text between the occurrences of a character. There is always at least one. -/
def split (sep : Char) : List Char → List (List Char)
  | [] => [[]]
  | c :: cs =>
    if c = sep then [] :: split sep cs
    else match split sep cs with
      | [] => [[c]]
      | p :: ps => (c :: p) :: ps

theorem split_ne_nil (sep : Char) (cs : List Char) : split sep cs ≠ [] := by
  cases cs with
  | nil => simp [split]
  | cons c cs =>
    simp only [split]
    split
    · simp
    · split <;> simp

/-- A list cut after every item of a kind. -/
def cutAfter (ends : α → Bool) : List α → List (List α)
  | [] => []
  | a :: as =>
    if ends a then [a] :: cutAfter ends as
    else match cutAfter ends as with
      | [] => [[a]]
      | p :: ps => (a :: p) :: ps

end UserRegistry.Text
