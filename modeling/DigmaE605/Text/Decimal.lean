import Mathlib.Tactic.Common

/-!
# Decimal text in C streams

The C library functions that carry an `int` through a text file:

* `decimalText` is what `fprintf` writes for `"%d"`;
* `atoi` skips white space, takes an optional sign and the digits that follow,
  and stops at the first other character;
* `fgets` takes one line, newline included, of at most `size - 1` characters.

`atoi_decimalText` and `fgets_decimalText` say that a 32-bit value survives the
way out and back, whatever non-digit follows it.  `decimalText_length_le`
bounds the text by eleven characters.

`long` has 32 bits here, so `strtol` saturates exactly at the `int` range.
-/

namespace DigmaE605
namespace Text

/-- The characters `fprintf(stream, "%d", value)` writes. -/
def decimalText (value : Int) : List Char :=
  if value < 0 then '-' :: Nat.toDigits 10 value.natAbs
  else Nat.toDigits 10 value.natAbs

/-- `isspace` in the "C" locale. -/
def isSpace (c : Char) : Bool :=
  c == ' ' || ('\t' ≤ c && c ≤ '\r')

/-- The value of the digits a text starts with. -/
def leadingDigits (text : List Char) : Nat :=
  Nat.ofDigitChars 10 (text.takeWhile Char.isDigit) 0

/-- `strtol(text, NULL, 10)` before it is cut to the range of `long`. -/
def signedDigits (text : List Char) : Int :=
  match text.dropWhile isSpace with
  | '-' :: digits => -(leadingDigits digits : Int)
  | '+' :: digits => leadingDigits digits
  | digits => leadingDigits digits

/-- `atoi(text)`. -/
def atoi (text : List Char) : Int32 :=
  Int32.ofIntClamp (signedDigits text)

/-- One line of at most `room` characters, newline included, and what is left. -/
def takeLine : Nat → List Char → List Char × List Char
  | 0, unread => ([], unread)
  | _ + 1, [] => ([], [])
  | room + 1, c :: unread =>
      if c = '\n' then ([c], unread)
      else
        let rest := takeLine room unread
        (c :: rest.1, rest.2)

/-- `fgets(buffer, size, stream)`: `none` at the end of the file, otherwise the
line; with it the unread rest of the stream. -/
def fgets (size : Nat) (unread : List Char) : Option (List Char) × List Char :=
  if unread = [] then (none, [])
  else (some (takeLine (size - 1) unread).1, (takeLine (size - 1) unread).2)

/-- The text does not start with a digit. -/
def NoDigitAhead (text : List Char) : Prop :=
  ∀ c ∈ text.head?, c.isDigit = false

theorem leadingDigits_toDigits_append (n : Nat) {rest : List Char}
    (hrest : NoDigitAhead rest) : leadingDigits (Nat.toDigits 10 n ++ rest) = n := by
  have hdigits : ∀ c ∈ Nat.toDigits 10 n, c.isDigit = true := fun c hc =>
    Nat.isDigit_of_mem_toDigits (by omega) (by omega) hc
  have hstop : rest.takeWhile Char.isDigit = [] := by
    cases rest with
    | nil => rfl
    | cons c rest => simp [hrest c rfl]
  unfold leadingDigits
  rw [List.takeWhile_append_of_pos hdigits, hstop, List.append_nil]
  exact Nat.ofDigitChars_ten_toDigits

theorem isSpace_of_isDigit {c : Char} (h : c.isDigit = true) : isSpace c = false := by
  have hrange : '0' ≤ c ∧ c ≤ '9' := by
    simpa [Char.isDigit, Char.le_def] using h
  have hblank : c ≠ ' ' := by
    rintro rfl
    exact absurd hrange.1 (by decide)
  have hcontrol : ¬ c ≤ '\r' := fun hc =>
    absurd (Char.le_trans hrange.1 hc) (by decide)
  simp [isSpace, hblank, hcontrol]

/-- The digits of a number start with a digit. -/
theorem toDigits_eq_cons (n : Nat) :
    ∃ c digits, Nat.toDigits 10 n = c :: digits ∧ c.isDigit = true := by
  cases htext : Nat.toDigits 10 n with
  | nil => exact absurd htext Nat.toDigits_ne_nil
  | cons c digits =>
      have hmem : c ∈ Nat.toDigits 10 n := by simp [htext]
      exact ⟨c, digits, rfl, Nat.isDigit_of_mem_toDigits (by omega) (by omega) hmem⟩

/-- Reading back what was written, with anything but a digit behind it. -/
theorem signedDigits_decimalText_append (value : Int) {rest : List Char}
    (hrest : NoDigitAhead rest) : signedDigits (decimalText value ++ rest) = value := by
  by_cases hneg : value < 0
  · have hsign : isSpace '-' = false := by decide
    have htext : decimalText value ++ rest =
        '-' :: (Nat.toDigits 10 value.natAbs ++ rest) := by
      simp [decimalText, hneg]
    simp only [signedDigits, htext, List.dropWhile_cons, hsign,
      Bool.false_eq_true, if_false, leadingDigits_toDigits_append _ hrest]
    omega
  · have htext : decimalText value = Nat.toDigits 10 value.natAbs := by
      simp [decimalText, hneg]
    obtain ⟨c, digits, hcons, hdigit⟩ := toDigits_eq_cons value.natAbs
    have hlead : leadingDigits (c :: (digits ++ rest)) = value.natAbs := by
      rw [← List.cons_append, ← hcons]
      exact leadingDigits_toDigits_append _ hrest
    have hminus : c ≠ '-' := by
      rintro rfl
      exact absurd hdigit (by decide)
    have hplus : c ≠ '+' := by
      rintro rfl
      exact absurd hdigit (by decide)
    rw [signedDigits, htext, hcons, List.cons_append, List.dropWhile_cons,
      isSpace_of_isDigit hdigit]
    simp only [Bool.false_eq_true, if_false]
    split
    · rename_i heq
      exact absurd (List.cons.inj heq).1 hminus
    · rename_i heq
      exact absurd (List.cons.inj heq).1 hplus
    · rw [hlead]
      omega

/-- **A 32-bit value survives `%d` and `atoi`**, whatever non-digit follows. -/
theorem atoi_decimalText (value : Int32) {rest : List Char}
    (hrest : NoDigitAhead rest) :
    atoi (decimalText value.toInt ++ rest) = value := by
  unfold atoi
  rw [signedDigits_decimalText_append _ hrest, Int32.ofIntClamp_toInt]

theorem newline_not_mem_decimalText (value : Int) : '\n' ∉ decimalText value := by
  have hdigits : '\n' ∉ Nat.toDigits 10 value.natAbs := fun hmem =>
    absurd (Nat.isDigit_of_mem_toDigits (by omega) (by omega) hmem) (by decide)
  unfold decimalText
  split
  · simpa using hdigits
  · exact hdigits

/-- Sign and ten digits are enough for every 32-bit value. -/
theorem decimalText_length_le (value : Int32) :
    (decimalText value.toInt).length ≤ 11 := by
  have hlower := value.le_toInt
  have hupper := value.toInt_lt
  have hdigits : (Nat.toDigits 10 value.toInt.natAbs).length ≤ 10 :=
    (Nat.length_toDigits_le_iff (by omega) (by omega)).mpr (by omega)
  unfold decimalText
  split
  · simp only [List.length_cons]
    omega
  · omega

theorem decimalText_ne_nil (value : Int) : decimalText value ≠ [] := by
  unfold decimalText
  split
  · exact List.cons_ne_nil _ _
  · exact Nat.toDigits_ne_nil

/-- A line that fits is taken whole, up to the end of the file. -/
theorem takeLine_of_fits {room : Nat} {line : List Char} (hfits : line.length ≤ room)
    (hline : '\n' ∉ line) : takeLine room line = (line, []) := by
  induction room generalizing line with
  | zero =>
      have hnil : line = [] := List.eq_nil_of_length_eq_zero (by omega)
      subst hnil
      rfl
  | succ room ih =>
      cases line with
      | nil => rfl
      | cons c line =>
          have hc : c ≠ '\n' := fun h => hline (h ▸ List.mem_cons_self)
          have hrest : takeLine room line = (line, []) :=
            ih (by simp at hfits; omega) (fun h => hline (List.mem_cons_of_mem _ h))
          simp [takeLine, hc, hrest]

/-- A line that fits is taken whole, up to its newline. -/
theorem takeLine_newline {room : Nat} {line rest : List Char}
    (hfits : line.length < room) (hline : '\n' ∉ line) :
    takeLine room (line ++ '\n' :: rest) = (line ++ ['\n'], rest) := by
  induction line generalizing room with
  | nil =>
      cases room with
      | zero => simp at hfits
      | succ room => simp [takeLine]
  | cons c line ih =>
      cases room with
      | zero => simp at hfits
      | succ room =>
          have hc : c ≠ '\n' := fun h => hline (h ▸ List.mem_cons_self)
          have hrest : takeLine room (line ++ '\n' :: rest) = (line ++ ['\n'], rest) :=
            ih (by simp at hfits; omega) (fun h => hline (List.mem_cons_of_mem _ h))
          simp [takeLine, hc, hrest]

/-- **Reading a value back through `fgets`**: a file that holds the text of a
32-bit value, with or without a trailing newline, yields a line that `atoi`
turns into the value. -/
theorem fgets_decimalText (value : Int32) {size : Nat} (hsize : 13 ≤ size)
    {content : List Char}
    (hcontent : content = decimalText value.toInt ∨
      content = decimalText value.toInt ++ ['\n']) :
    ∃ line, (fgets size content).1 = some line ∧ atoi line = value := by
  have hlength := decimalText_length_le value
  have hnewline := newline_not_mem_decimalText value.toInt
  rcases hcontent with rfl | rfl
  · refine ⟨decimalText value.toInt, ?_, ?_⟩
    · simp [fgets, decimalText_ne_nil,
        takeLine_of_fits (by omega : (decimalText value.toInt).length ≤ size - 1) hnewline]
    · have hvalue : atoi (decimalText value.toInt ++ []) = value :=
        atoi_decimalText value (by simp [NoDigitAhead])
      rwa [List.append_nil] at hvalue
  · refine ⟨decimalText value.toInt ++ ['\n'], ?_, ?_⟩
    · have hline : takeLine (size - 1) (decimalText value.toInt ++ ['\n']) =
          (decimalText value.toInt ++ ['\n'], []) :=
        takeLine_newline (by omega) hnewline
      simp [fgets, hline]
    · exact atoi_decimalText value (by simp [NoDigitAhead])

end Text
end DigmaE605
