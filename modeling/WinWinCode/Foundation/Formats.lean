import Mathlib

/-!
Texts that can be read back. A way of writing values `Splits` when what is written
first in a text determines the value and the rest of the text; texts written one after
the other can then be told apart. Numbers split before a mark that is no digit, and
quoted texts split because their quotes are escaped.
-/

namespace WinWinCode.Formats

open List

universe u
variable {Value : Type u}

/-- What is written determines the value and where it ends. -/
def Splits (write : Value → List Char) : Prop :=
  ∀ {left right : Value} {rest more : List Char},
    write left ++ rest = write right ++ more → left = right ∧ rest = more

variable {rest more right left : List Char}

theorem append_ne (length : Nat) (left_long : length ≤ left.length)
    (right_long : length ≤ right.length) (differ : left.take length ≠ right.take length) :
    left ++ rest ≠ right ++ more := by
  intro same
  have heads := congrArg (List.take length) same
  rw [take_append_of_le_length left_long, take_append_of_le_length right_long] at heads
  exact differ heads

variable {mark : Char}

theorem cut_at_mark (left_free : mark ∉ left) (right_free : mark ∉ right)
    (same : left ++ mark :: rest = right ++ mark :: more) : left = right ∧ rest = more := by
  have lengths : left.length = right.length := by
    have places := congrArg (List.idxOf mark) same
    simpa [idxOf_append_of_notMem, left_free, right_free] using places
  obtain ⟨heads, tails⟩ := append_inj same lengths
  exact ⟨heads, (List.cons.inj tails).2⟩

variable {base : Nat} {symbol : Char}

theorem mem_toDigits {number : Nat} (large : 1 < base)
    (member : symbol ∈ Nat.toDigits base number) :
    ∃ digit < base, symbol = Nat.digitChar digit := by
  induction number using Nat.strongRecOn with
  | _ number ih =>
    rw [Nat.toDigits_eq_if large] at member
    split at member
    · rename_i small
      exact ⟨number, small, mem_singleton.mp member⟩
    · rename_i not_small
      rcases mem_append.mp member with high | low
      · exact ih (number / base) (Nat.div_lt_self (by omega) large) high
      · exact ⟨number % base, Nat.mod_lt _ (by omega), mem_singleton.mp low⟩

theorem digitChar_injective {left right : Nat} (left_small : left < 16) (right_small : right < 16)
    (same : Nat.digitChar left = Nat.digitChar right) : left = right := by
  have all : ∀ left < 16, ∀ right < 16, Nat.digitChar left = Nat.digitChar right → left = right := by
    decide
  exact all left left_small right right_small same

theorem toDigits_injective (large : 1 < base) (small : base ≤ 16) {left right : Nat}
    (same : Nat.toDigits base left = Nat.toDigits base right) : left = right := by
  induction left using Nat.strongRecOn generalizing right with
  | _ left ih =>
    have digit (number : Nat) : number % base < 16 := (Nat.mod_lt number (by omega)).trans_le small
    rw [Nat.toDigits_eq_if large, Nat.toDigits_eq_if large (n := right)] at same
    split at same <;> split at same
    · rename_i left_one right_one
      exact digitChar_injective (by omega) (by omega) (singleton_inj.mp same)
    · have high := (append_inj' ((nil_append _).trans same) rfl).1
      exact absurd high.symm Nat.toDigits_ne_nil
    · have high := (append_inj' (same.trans (nil_append _).symm) rfl).1
      exact absurd high Nat.toDigits_ne_nil
    · rename_i left_more right_more
      obtain ⟨high, low⟩ := append_inj' same rfl
      have quotients := ih (left / base) (Nat.div_lt_self (by omega) large) high
      have remainders := digitChar_injective (digit left) (digit right)
        (singleton_inj.mp low)
      rw [← Nat.div_add_mod left base, ← Nat.div_add_mod right base, quotients, remainders]

theorem mark_not_mem_toDigits {number : Nat} (large : 1 < base)
    (other : ∀ digit < base, mark ≠ Nat.digitChar digit) : mark ∉ Nat.toDigits base number := by
  intro member
  obtain ⟨digit, small, same⟩ := mem_toDigits large member
  exact other digit small same

theorem digits_split (large : 1 < base) (small : base ≤ 16)
    (other : ∀ digit < base, mark ≠ Nat.digitChar digit) :
    Splits fun number => Nat.toDigits base number ++ [mark] := by
  intro _ _ _ _ same
  simp only [append_assoc, singleton_append] at same
  obtain ⟨digits, rests⟩ := cut_at_mark (mark_not_mem_toDigits large other)
    (mark_not_mem_toDigits large other) same
  exact ⟨toDigits_injective large small digits, rests⟩

section Quoted

/-- The characters that a quoted text escapes by a letter. -/
def shortEscapes : List (Char × Char) :=
  [('\x00', '0'), ('\t', 't'), ('\r', 'r'), ('\n', 'n'), ('\\', '\\'), ('\x22', '\x22')]

/-- `printable` says which characters beyond ASCII are written as they are. -/
def isPlain (printable : Char → Bool) (symbol : Char) : Bool :=
  if symbol.toNat < 128 then decide (32 ≤ symbol.toNat ∧ symbol.toNat ≤ 126)
  else printable symbol

def escape (printable : Char → Bool) (symbol : Char) : List Char :=
  match shortEscapes.lookup symbol with
  | some letter => ['\\', letter]
  | none =>
    if isPlain printable symbol then [symbol]
    else '\\' :: 'u' :: '\x7b' :: (Nat.toDigits 16 symbol.toNat ++ ['\x7d'])

def quoted (printable : Char → Bool) (text : String) : List Char :=
  '\x22' :: (text.toList.flatMap (escape printable) ++ ['\x22'])

variable (printable : Char → Bool)

inductive Escaped (symbol : Char) : List Char → Prop where
  | short {letter : Char} (listed : (symbol, letter) ∈ shortEscapes) :
      Escaped symbol ['\\', letter]
  | plain (free : symbol ≠ '\\') (unquoted : symbol ≠ '\x22') : Escaped symbol [symbol]
  | code : Escaped symbol ('\\' :: 'u' :: '\x7b' :: (Nat.toDigits 16 symbol.toNat ++ ['\x7d']))

theorem escape_cases (symbol : Char) : Escaped symbol (escape printable symbol) := by
  unfold escape
  split
  · rename_i letter listed
    obtain ⟨before, _, split, _⟩ := lookup_eq_some_iff.mp listed
    exact .short (split ▸ mem_append_right before mem_cons_self)
  · rename_i unlisted
    split
    · apply Escaped.plain
      · rintro rfl
        exact absurd unlisted (by decide)
      · rintro rfl
        exact absurd unlisted (by decide)
    · exact .code

theorem letter_ne_code {letter : Char} (listed : (symbol, letter) ∈ shortEscapes) :
    letter ≠ 'u' := by
  have all : ∀ pair ∈ shortEscapes, pair.2 ≠ 'u' := by decide
  exact all _ listed

theorem symbol_of_letter {left right letter : Char} (left_listed : (left, letter) ∈ shortEscapes)
    (right_listed : (right, letter) ∈ shortEscapes) : left = right := by
  have all : ∀ pair ∈ shortEscapes, ∀ other ∈ shortEscapes, pair.2 = other.2 →
      pair.1 = other.1 := by decide
  exact all _ left_listed _ right_listed rfl

theorem Escaped.split {left right : Char} {first second : List Char}
    (left_written : Escaped left first) (right_written : Escaped right second)
    (same : first ++ rest = second ++ more) : left = right ∧ rest = more := by
  cases left_written with
  | short left_listed =>
    cases right_written with
    | short right_listed =>
      obtain ⟨_, tails⟩ := List.cons.inj same
      obtain ⟨rfl, rests⟩ := List.cons.inj tails
      exact ⟨symbol_of_letter left_listed right_listed, rests⟩
    | plain free _ => exact absurd (List.cons.inj same).1.symm free
    | code => exact absurd (List.cons.inj (List.cons.inj same).2).1 (letter_ne_code left_listed)
  | plain free _ =>
    cases right_written with
    | short _ | code => exact absurd (List.cons.inj same).1 free
    | plain _ _ => exact List.cons.inj same
  | code =>
    cases right_written with
    | short right_listed =>
      exact absurd (List.cons.inj (List.cons.inj same).2).1.symm (letter_ne_code right_listed)
    | plain free _ => exact absurd (List.cons.inj same).1.symm free
    | code =>
      have numbers := (List.cons.inj (List.cons.inj (List.cons.inj same).2).2).2
      have split : Splits fun number => Nat.toDigits 16 number ++ ['\x7d'] :=
        digits_split (by decide) (by decide) (by decide)
      obtain ⟨codes, rests⟩ := split numbers
      exact ⟨Char.toNat_inj.mp codes, rests⟩

theorem Escaped.head_ne_quote {written : List Char} (escaped : Escaped symbol written) :
    written ++ rest ≠ '\x22' :: more := by
  intro same
  cases escaped with
  | short _ | code => exact absurd (List.cons.inj same).1 (by decide)
  | plain _ unquoted => exact unquoted (List.cons.inj same).1

theorem escapes_split (same : left.flatMap (escape printable) ++ '\x22' :: rest =
      right.flatMap (escape printable) ++ '\x22' :: more) : left = right ∧ rest = more := by
  induction left generalizing right with
  | nil =>
    cases right with
    | nil => exact ⟨rfl, (List.cons.inj same).2⟩
    | cons symbol _ =>
      rw [flatMap_cons, append_assoc] at same
      exact absurd same.symm (escape_cases printable symbol).head_ne_quote
  | cons symbol _ ih =>
    cases right with
    | nil =>
      rw [flatMap_cons, append_assoc] at same
      exact absurd same (escape_cases printable symbol).head_ne_quote
    | cons other _ =>
      rw [flatMap_cons, flatMap_cons, append_assoc, append_assoc] at same
      obtain ⟨rfl, tails⟩ :=
        (escape_cases printable symbol).split (escape_cases printable other) same
      obtain ⟨rfl, rests⟩ := ih tails
      exact ⟨rfl, rests⟩

/-- A quoted text ends at its first quote that is not escaped. -/
theorem quoted_split : Splits (quoted printable) := by
  intro _ _ _ _ same
  simp only [quoted, cons_append, append_assoc, nil_append, List.cons.injEq, true_and] at same
  obtain ⟨texts, rests⟩ := escapes_split printable same
  exact ⟨String.toList_inj.mp texts, rests⟩

theorem quoted_of_plain {text : String}
    (plain : ∀ symbol ∈ text.toList, escape printable symbol = [symbol]) :
    quoted printable text = '\x22' :: (text.toList ++ ['\x22']) := by
  have written : text.toList.flatMap (escape printable) = text.toList := by
    generalize text.toList = symbols at plain
    induction symbols with
    | nil => rfl
    | cons symbol _ ih =>
      rw [flatMap_cons, plain symbol mem_cons_self,
        ih fun other member => plain other (mem_cons_of_mem _ member)]
      rfl
  rw [quoted, written]

end Quoted

end WinWinCode.Formats
