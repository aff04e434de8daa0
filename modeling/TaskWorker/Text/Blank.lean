/-!
# Blanks

A blank is a character of Unicode's White_Space class. Names, numbers and list entries in settings
are read without the blanks around them.

* `isBlank`, the class; `trim` takes the blanks off both ends;
* `isBlank_of_isWhitespace`: every character that core calls white space is a blank;
  `isBlank_of_isDigit`: a digit is none;
* **`trim_trim`**: trimming twice is trimming once.
-/

namespace TaskWorker.Text

/-- The White_Space class of Unicode. -/
def isBlank (c : Char) : Bool :=
  let n := c.toNat
  (0x09 ≤ n && n ≤ 0x0D) || n == 0x20 || n == 0x85 || n == 0xA0 || n == 0x1680 ||
    (0x2000 ≤ n && n ≤ 0x200A) || n == 0x2028 || n == 0x2029 || n == 0x202F || n == 0x205F ||
    n == 0x3000

/-- Takes the blanks off the front. -/
def trimFront (s : List Char) : List Char := s.dropWhile isBlank

/-- Takes the blanks off the end. -/
def trimBack (s : List Char) : List Char := (trimFront s.reverse).reverse

/-- Takes the blanks off both ends. -/
def trim (s : List Char) : List Char := trimBack (trimFront s)

/-- A text is blank when it holds nothing but blanks. -/
def isBlankText (s : List Char) : Bool := s.all isBlank

theorem isBlank_of_isWhitespace {c : Char} (h : c.isWhitespace = true) : isBlank c = true := by
  simp only [Char.isWhitespace, Bool.or_eq_true, decide_eq_true_eq] at h
  rcases h with ((rfl | rfl) | rfl) | rfl <;> decide

theorem isBlank_of_isDigit {c : Char} (digit : c.isDigit = true) : isBlank c = false := by
  simp only [Char.isDigit, Bool.and_eq_true, decide_eq_true_eq] at digit
  have low : 48 ≤ c.toNat := digit.1
  have high : c.toNat ≤ 57 := digit.2
  simp [isBlank]
  omega

/-! ## Trimming -/

theorem trimFront_eq_nil_iff {s : List Char} : trimFront s = [] ↔ isBlankText s = true := by
  induction s with
  | nil => simp [trimFront, isBlankText]
  | cons c s ih =>
    by_cases h : isBlank c
    · simp only [trimFront, isBlankText, List.dropWhile_cons, List.all_cons, h, if_true,
        Bool.true_and] at ih ⊢
      exact ih
    · simp [trimFront, isBlankText, h]

theorem trimFront_trimFront (s : List Char) : trimFront (trimFront s) = trimFront s := by
  induction s with
  | nil => rfl
  | cons c s ih => by_cases h : isBlank c <;> simp_all [trimFront]

theorem trimBack_trimBack (s : List Char) : trimBack (trimBack s) = trimBack s := by
  simp [trimBack, trimFront_trimFront]

/-- What front-trimming leaves starts with no blank. -/
theorem head_trimFront {s : List Char} {c : Char} {r : List Char} (h : trimFront s = c :: r) :
    isBlank c = false := by
  induction s with
  | nil => simp [trimFront] at h
  | cons d s ih =>
    by_cases hd : isBlank d
    · exact ih (by simpa [trimFront, List.dropWhile_cons, hd] using h)
    · simp only [trimFront, List.dropWhile_cons, hd, Bool.false_eq_true, if_false] at h
      cases h
      simpa using hd

theorem trimFront_cons_of_not_blank {c : Char} {s : List Char} (h : isBlank c = false) :
    trimFront (c :: s) = c :: s := by
  simp [trimFront, h]

/-- Trimming the end leaves a first character that is no blank in place. -/
theorem trimBack_cons_of_not_blank {c : Char} {s : List Char} (h : isBlank c = false) :
    ∃ r, trimBack (c :: s) = c :: r := by
  have key : ∀ t : List Char, ∃ u, trimFront (t ++ [c]) = u ++ [c] := by
    intro t
    induction t with
    | nil => exact ⟨[], by simp [trimFront, h]⟩
    | cons d t ih =>
      by_cases hd : isBlank d
      · obtain ⟨u, hu⟩ := ih
        exact ⟨u, by simpa [trimFront, List.dropWhile_cons, hd] using hu⟩
      · exact ⟨d :: t, by simp [trimFront, hd]⟩
  obtain ⟨u, hu⟩ := key s.reverse
  exact ⟨u.reverse, by simp [trimBack, hu]⟩

/-- **Trimming twice is trimming once.** -/
theorem trim_trim (s : List Char) : trim (trim s) = trim s := by
  unfold trim
  cases h : trimFront s with
  | nil => rfl
  | cons c r =>
    obtain ⟨u, hu⟩ := trimBack_cons_of_not_blank (s := r) (head_trimFront h)
    have : trimFront (trimBack (c :: r)) = trimBack (c :: r) := by
      rw [hu, trimFront_cons_of_not_blank (head_trimFront h)]
    rw [this, trimBack_trimBack]

end TaskWorker.Text
