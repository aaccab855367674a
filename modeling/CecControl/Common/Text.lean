/-
# Text as the standard library reads it

Configuration files and command lines are bytes to the program: what counts as white space and
as a digit is fixed by the C locale, and numbers are read by `std::stoi`, which skips leading
white space, takes the longest run of digits and ignores what follows it unless its caller
asks how far it got. Texts are lists of characters here.

The last section says what an integer is without reading it, and that `std::stoi` answers the one
a text begins with.
-/

import Mathlib.Algebra.Order.Ring.Int
import Mathlib.Data.Int.Notation

namespace CecControl

abbrev Text := List Char

/-- `std::isspace` in the C locale. -/
def isSpace (c : Char) : Bool :=
  c == ' ' || c == '\t' || c == '\n' || c == '\x0b' || c == '\x0c' || c == '\r'

/-- Erase white space at both ends. -/
def trim (text : Text) : Text :=
  (((text.dropWhile isSpace).reverse).dropWhile isSpace).reverse

/-- The number a list of digits stands for. -/
def digitsValue (digits : Text) : ℕ :=
  digits.foldl (fun value c => 10 * value + (c.toNat - '0'.toNat)) 0

/-- An optional sign: whether it is a minus, how many characters it takes, and what follows. -/
def readSign : Text → Bool × ℕ × Text
  | '-' :: rest => (true, 1, rest)
  | '+' :: rest => (false, 1, rest)
  | rest => (false, 0, rest)

/-- The integer at the beginning of a text, of whatever size, and how many characters it
takes: white space, a sign and at least one digit. -/
def readInteger (text : Text) : Option (ℤ × ℕ) :=
  let blanks := text.takeWhile isSpace
  let (negative, signLength, rest) := readSign (text.dropWhile isSpace)
  let digits := rest.takeWhile Char.isDigit
  if digits.isEmpty then none
  else
    let magnitude : ℤ := digitsValue digits
    some (if negative then -magnitude else magnitude, blanks.length + signLength + digits.length)

/-- The exceptions of `std::stoi`. -/
inductive StoiError
  | invalidArgument
  | outOfRange
  deriving DecidableEq, Repr

/-- `std::stoi` with a 32-bit `int`: the value and how many characters were consumed. -/
def stoi (text : Text) : Except StoiError (ℤ × ℕ) :=
  match readInteger text with
  | none => .error .invalidArgument
  | some (value, consumed) =>
      if -0x80000000 ≤ value ∧ value ≤ 0x7fffffff then .ok (value, consumed)
      else .error .outOfRange

example : stoi " -12ms".toList = .ok (-12, 4) := by decide

example : stoi "99999999999".toList = .error .outOfRange := by decide

/-- A value of `std::stoi` is the integer written at the beginning of the text. -/
theorem readInteger_of_stoi {text : Text} {value : ℤ} {consumed : ℕ}
    (h : stoi text = .ok (value, consumed)) :
    readInteger text = some (value, consumed) ∧ -0x80000000 ≤ value ∧ value ≤ 0x7fffffff := by
  unfold stoi at h
  split at h
  · cases h
  · split_ifs at h with hrange
    cases h
    exact ⟨‹_›, hrange⟩

/-! ## Integers as they are written -/

/-- A sign, and whether it is a minus. -/
inductive IsSign : Text → Bool → Prop
  | none : IsSign [] false
  | plus : IsSign ['+'] false
  | minus : IsSign ['-'] true

/-- The text is an integer and nothing else: white space, a sign, and at least one digit. -/
inductive IsInteger : Text → ℤ → Prop
  | intro {blanks sign digits : Text} {negative : Bool} (hblanks : ∀ c ∈ blanks, isSpace c = true)
      (hsign : IsSign sign negative) (hdigits : ∀ c ∈ digits, c.isDigit = true)
      (hsome : digits ≠ []) :
      IsInteger (blanks ++ (sign ++ digits))
        (if negative then -(digitsValue digits : ℤ) else digitsValue digits)

/-- The digits of a number end here. -/
def NoDigit (rest : Text) : Prop := ∀ c, rest.head? = some c → c.isDigit = false

theorem isSpace_eq_false_of_isDigit {c : Char} (h : c.isDigit = true) : isSpace c = false := by
  by_contra hspace
  simp only [isSpace, Bool.not_eq_false, Bool.or_eq_true, beq_iff_eq] at hspace
  rcases hspace with ((((rfl | rfl) | rfl) | rfl) | rfl) | rfl <;> exact absurd h (by decide)

/-- A run of the characters of a class ends where the class does. -/
theorem takeWhile_run {p : Char → Bool} {run rest : Text} (hrun : ∀ c ∈ run, p c = true)
    (hrest : ∀ c, rest.head? = some c → p c = false) :
    (run ++ rest).takeWhile p = run ∧ (run ++ rest).dropWhile p = rest := by
  rw [List.takeWhile_append_of_pos hrun, List.dropWhile_append_of_pos hrun]
  cases rest with
  | nil => exact ⟨List.append_nil run, rfl⟩
  | cons c rest =>
      have hc : p c = false := hrest c rfl
      rw [List.takeWhile_cons, List.dropWhile_cons, hc]
      exact ⟨List.append_nil run, rfl⟩

/-- What is read of a sign is one. -/
theorem readSign_sound (text : Text) :
    ∃ sign, text = sign ++ (readSign text).2.2 ∧ sign.length = (readSign text).2.1 ∧
      IsSign sign (readSign text).1 := by
  unfold readSign
  split
  · exact ⟨['-'], rfl, rfl, .minus⟩
  · exact ⟨['+'], rfl, rfl, .plus⟩
  · exact ⟨[], rfl, rfl, .none⟩

/-- A sign in front of digits is read. -/
theorem readSign_complete {sign digits : Text} {negative : Bool} (hsign : IsSign sign negative)
    (hdigits : ∀ c ∈ digits, c.isDigit = true) (hsome : digits ≠ []) (rest : Text) :
    readSign (sign ++ (digits ++ rest)) = (negative, sign.length, digits ++ rest) := by
  cases hsign with
  | plus => rfl
  | minus => rfl
  | none =>
      obtain ⟨d, digits, rfl⟩ := List.exists_cons_of_ne_nil hsome
      have hd : d.isDigit = true := hdigits d List.mem_cons_self
      change readSign (d :: (digits ++ rest)) = (false, 0, d :: (digits ++ rest))
      unfold readSign
      split
      · next heq =>
          cases heq
          exact absurd hd (by decide)
      · next heq =>
          cases heq
          exact absurd hd (by decide)
      · rfl

/-- The integer at the beginning of a text is read to its last digit. -/
theorem readInteger_complete {number rest : Text} {value : ℤ} (hnumber : IsInteger number value)
    (hrest : NoDigit rest) : readInteger (number ++ rest) = some (value, number.length) := by
  cases hnumber with
  | @intro blanks sign digits negative hblanks hsign hdigits hsome =>
      have hhead : ∀ c, (sign ++ (digits ++ rest)).head? = some c → isSpace c = false := by
        intro c hc
        cases hsign with
        | plus =>
            cases hc
            decide
        | minus =>
            cases hc
            decide
        | none =>
            cases digits with
            | nil => exact absurd rfl hsome
            | cons d digits =>
                obtain rfl : d = c := Option.some.inj hc
                exact isSpace_eq_false_of_isDigit (hdigits d List.mem_cons_self)
      obtain ⟨htake, hdrop⟩ := takeWhile_run hblanks hhead
      have hrun := (takeWhile_run hdigits hrest).1
      have hnonempty : digits.isEmpty = false := by simp [hsome]
      unfold readInteger
      rw [List.append_assoc, List.append_assoc, htake, hdrop,
        readSign_complete hsign hdigits hsome rest]
      dsimp only
      rw [hrun, hnonempty]
      simp [Nat.add_assoc]

/-- What is read is the integer at the beginning of the text. -/
theorem readInteger_sound {text : Text} {value : ℤ} {consumed : ℕ}
    (h : readInteger text = some (value, consumed)) :
    ∃ number rest, text = number ++ rest ∧ number.length = consumed ∧ IsInteger number value ∧
      NoDigit rest := by
  obtain ⟨sign, htext, hlength, hsign⟩ := readSign_sound (text.dropWhile isSpace)
  unfold readInteger at h
  dsimp only at h
  generalize hread : readSign (text.dropWhile isSpace) = read at h htext hlength hsign
  obtain ⟨negative, signLength, rest⟩ := read
  dsimp only at h htext hlength hsign
  by_cases hempty : (rest.takeWhile Char.isDigit).isEmpty = true
  · rw [if_pos hempty] at h
    cases h
  · rw [if_neg hempty] at h
    cases h
    refine ⟨text.takeWhile isSpace ++ (sign ++ rest.takeWhile Char.isDigit),
      rest.dropWhile Char.isDigit, ?_, ?_, ?_, ?_⟩
    · rw [List.append_assoc, List.append_assoc, List.takeWhile_append_dropWhile, ← htext,
        List.takeWhile_append_dropWhile]
    · simp [← hlength, Nat.add_assoc]
    · apply IsInteger.intro (List.all_eq_true.mp List.all_takeWhile) hsign
        (List.all_eq_true.mp List.all_takeWhile)
      simpa using hempty
    · intro c hc
      have hstop := List.head?_dropWhile_not Char.isDigit rest
      rwa [hc] at hstop

/-- `std::stoi` answers the integer at the beginning of a text, if it is in range. -/
theorem stoi_eq_ok_iff {text : Text} {value : ℤ} {consumed : ℕ} :
    stoi text = .ok (value, consumed) ↔
      (∃ number rest, text = number ++ rest ∧ number.length = consumed ∧ IsInteger number value ∧
        NoDigit rest) ∧ -0x80000000 ≤ value ∧ value ≤ 0x7fffffff := by
  constructor
  · intro h
    obtain ⟨hread, hrange⟩ := readInteger_of_stoi h
    exact ⟨readInteger_sound hread, hrange⟩
  · rintro ⟨⟨number, rest, rfl, rfl, hnumber, hrest⟩, hrange⟩
    unfold stoi
    rw [readInteger_complete hnumber hrest]
    exact if_pos hrange

/-- It takes the whole text just where that is an integer. -/
theorem stoi_whole_iff {text : Text} {value : ℤ} :
    stoi text = .ok (value, text.length) ↔
      IsInteger text value ∧ -0x80000000 ≤ value ∧ value ≤ 0x7fffffff := by
  rw [stoi_eq_ok_iff]
  apply and_congr_left
  intro _
  constructor
  · rintro ⟨number, rest, rfl, hlength, hnumber, -⟩
    have hrest : rest = [] := by
      rw [List.length_append] at hlength
      exact List.eq_nil_of_length_eq_zero (by omega)
    rwa [hrest, List.append_nil]
  · intro hnumber
    exact ⟨text, [], (List.append_nil text).symm, rfl, hnumber, fun c hc => nomatch hc⟩

end CecControl
