import Mathlib

/-!
The wildcard patterns of the repository's rules. The matcher goes through a value once and
remembers only the last asterisk of the pattern, with the value at the place it was met.
-/

namespace WinWinCode.ExecutionPort.RulePacks

open List

def asterisk : UInt8 := 42

def matchFrom (last : Option (List UInt8 × List UInt8)) (pattern value : List UInt8) : Bool :=
  match value with
  | [] => (pattern.dropWhile (· == asterisk)).isEmpty
  | byte :: rest =>
    if pattern.head? = some byte then matchFrom last pattern.tail rest
    else if pattern.head? = some asterisk then
      matchFrom (some (pattern.tail, byte :: rest)) pattern.tail (byte :: rest)
    else
      match last with
      | some (after, met) => matchFrom (some (after, met.tail)) after met.tail
      | none => false
termination_by
  (last.elim pattern.length fun star => max star.1.length pattern.length,
    last.elim 0 fun star => star.2.length, value.length)
decreasing_by
  · obtain ⟨tail, rfl⟩ := head?_eq_some_iff.mp ‹pattern.head? = some byte›
    cases last with
    | none => exact .left _ _ (by simp)
    | some star =>
      simp [Prod.lex_def]
      omega
  · obtain ⟨tail, rfl⟩ := head?_eq_some_iff.mp ‹pattern.head? = some asterisk›
    refine .left _ _ ?_
    cases last <;> simp
  · simp only [Option.elim, Prod.lex_def, length_cons, length_tail]
    omega

def wildcardMatches (pattern value : List UInt8) : Bool := matchFrom none pattern value

/-- The value is the pattern with every asterisk replaced by some bytes. -/
def Fills : List UInt8 → List UInt8 → Prop
  | [], value => value = []
  | byte :: pattern, value =>
    ∃ part rest, part ++ rest = value ∧ (byte = asterisk ∨ part = [byte]) ∧ Fills pattern rest

/-- The value is the pattern with every asterisk replaced by some bytes, and one that stands at
an asterisk of the value by that one alone. -/
def FillsSingly : List UInt8 → List UInt8 → Prop
  | [], value => value = []
  | byte :: pattern, value =>
    ∃ part rest, part ++ rest = value ∧
      (byte = asterisk ∧ value.head? ≠ some asterisk ∨ part = [byte]) ∧ FillsSingly pattern rest

/-- The pattern is filled so by the value or by what is left of it later. -/
def FillsLater (pattern value : List UInt8) : Prop :=
  ∃ rest, rest <:+ value ∧ FillsSingly pattern rest

variable {pattern value rest : List UInt8} {byte : UInt8}

theorem FillsSingly.fills (filled : FillsSingly pattern value) : Fills pattern value := by
  induction pattern generalizing value with
  | nil => exact filled
  | cons _ _ ih =>
    obtain ⟨part, rest, split, replaced, filled⟩ := filled
    exact ⟨part, rest, split, replaced.imp_left And.left, ih filled⟩

theorem FillsLater.mono {whole : List UInt8} (within : value <:+ whole)
    (later : FillsLater pattern value) : FillsLater pattern whole := by
  obtain ⟨rest, suffix, filled⟩ := later
  exact ⟨rest, suffix.trans within, filled⟩

theorem fillsLater_iff :
    FillsLater pattern value ↔ FillsLater pattern value.tail ∨ FillsSingly pattern value := by
  cases value with
  | nil => simp [FillsLater]
  | cons byte rest =>
    simp only [FillsLater, tail_cons, suffix_cons_iff, or_and_right, exists_or, exists_eq_left,
      or_comm]

/-- Whatever the first byte of a pattern stands for, the rest of it is filled later. -/
theorem FillsLater.tail (later : FillsLater (byte :: pattern) value) :
    FillsLater pattern value := by
  obtain ⟨_, within, part, rest, rfl, _, filled⟩ := later
  exact ⟨rest, (suffix_append part rest).trans within, filled⟩

theorem fills_asterisk (plain : value.head? ≠ some asterisk) (later : FillsLater pattern value) :
    FillsSingly (asterisk :: pattern) value := by
  obtain ⟨rest, ⟨part, rfl⟩, filled⟩ := later
  exact ⟨part, rest, rfl, .inl ⟨rfl, plain⟩, filled⟩

theorem fills_nil :
    FillsSingly pattern [] ↔ (pattern.dropWhile (· == asterisk)).isEmpty = true := by
  induction pattern with
  | nil => simp [FillsSingly]
  | cons byte rest ih =>
    rw [FillsSingly, dropWhile_cons]
    by_cases star : byte = asterisk <;> simp [star, ih]

theorem fills_cons : FillsSingly (byte :: pattern) (byte :: rest) ↔ FillsSingly pattern rest := by
  constructor
  · rintro ⟨_, _, split, ⟨rfl, plain⟩ | rfl, filled⟩
    · exact absurd rfl plain
    · cases split
      exact filled
  · exact fun filled => ⟨[byte], rest, rfl, .inr rfl, filled⟩

theorem not_fills (other : pattern.head? ≠ some byte) (literal : pattern.head? ≠ some asterisk) :
    ¬ FillsSingly pattern (byte :: rest) := by
  cases pattern with
  | nil => exact cons_ne_nil _ _
  | cons first _ =>
    rintro ⟨_, _, split, ⟨rfl, _⟩ | rfl, _⟩
    · exact literal rfl
    · cases split
      exact other rfl

variable {last : Option (List UInt8 × List UInt8)}

theorem matchFrom_sound (found : matchFrom last pattern value = true) :
    FillsSingly pattern value ∨ ∃ star ∈ last, FillsLater star.1 star.2 := by
  fun_induction matchFrom last pattern value with
  | case1 => exact .inl (fills_nil.mpr found)
  | case2 _ _ _ _ same ih =>
    obtain ⟨_, rfl⟩ := head?_eq_some_iff.mp same
    exact (ih found).imp_left fills_cons.mpr
  | case3 _ _ _ _ other star ih =>
    obtain ⟨_, rfl⟩ := head?_eq_some_iff.mp star
    have plain := Ne.symm other
    rcases ih found with filled | ⟨_, ⟨⟩, later⟩
    · exact .inl (fills_asterisk plain ⟨_, suffix_rfl, filled⟩)
    · exact .inl (fills_asterisk plain later)
  | case4 _ _ _ _ _ _ met ih =>
    refine .inr ⟨_, rfl, ?_⟩
    rcases ih found with filled | ⟨_, ⟨⟩, later⟩
    · exact ⟨_, tail_suffix met, filled⟩
    · exact later.mono (tail_suffix met)
  | case5 => cases found

/-- What a later start after the last asterisk would fill, the present one does. -/
def Ahead (last : Option (List UInt8 × List UInt8)) (pattern value : List UInt8) : Prop :=
  ∀ star ∈ last, FillsLater star.1 star.2.tail → FillsLater pattern value

theorem ahead_start (pattern value : List UInt8) : Ahead (some (pattern, value)) pattern value := by
  rintro _ ⟨⟩
  exact .mono (tail_suffix value)

section
variable (ahead : Ahead last pattern value)
  (filled : (∃ star ∈ last, FillsLater star.1 star.2.tail) ∨ FillsSingly pattern value)
include ahead filled

theorem Ahead.later : FillsLater pattern value := by
  rcases filled with ⟨star, met, later⟩ | filled
  · exact ahead star met later
  · exact ⟨value, suffix_rfl, filled⟩

theorem Ahead.matched : matchFrom last pattern value = true := by
  fun_induction matchFrom last pattern value with
  | case1 =>
    obtain ⟨_, empty, filled⟩ := ahead.later filled
    cases suffix_nil.mp empty
    exact fills_nil.mp filled
  | case2 _ pattern byte rest same ih =>
    obtain ⟨_, rfl⟩ := head?_eq_some_iff.mp same
    apply ih
    · intro star met later
      -- the byte is used up here, or the pattern is filled by what comes after it
      rcases fillsLater_iff.mp (ahead star met later) with later | filled
      · exact later.tail
      · exact ⟨rest, suffix_rfl, fills_cons.mp filled⟩
    · exact filled.imp_right fills_cons.mp
  | case3 _ _ _ _ _ star ih =>
    obtain ⟨_, rfl⟩ := head?_eq_some_iff.mp star
    have later := (ahead.later filled).tail
    exact ih (ahead_start _ _) ((fillsLater_iff.mp later).imp_left fun later => ⟨_, rfl, later⟩)
  | case4 _ _ _ other literal _ _ ih =>
    rcases filled with ⟨_, ⟨⟩, later⟩ | filled
    · exact ih (ahead_start _ _) ((fillsLater_iff.mp later).imp_left fun later => ⟨_, rfl, later⟩)
    · exact absurd filled (not_fills other literal)
  | case5 _ _ _ other literal =>
    rcases filled with ⟨_, ⟨⟩, _⟩ | filled
    exact absurd filled (not_fills other literal)

end

theorem wildcardMatches_iff : wildcardMatches pattern value = true ↔ FillsSingly pattern value := by
  constructor
  · intro found
    rcases matchFrom_sound found with filled | ⟨_, ⟨⟩, _⟩
    exact filled
  · exact fun filled => Ahead.matched (fun _ met => by cases met) (.inr filled)

/-- A match is a filling, and the answer is right exactly for the values that can be filled, if
at all, without an asterisk of the pattern taking more than the asterisk it stands at. -/
theorem wildcard_matches_exact (pattern value : List UInt8) :
    (wildcardMatches pattern value = true → Fills pattern value) ∧
      ((wildcardMatches pattern value = true ↔ Fills pattern value) ↔
        (Fills pattern value → FillsSingly pattern value)) := by
  rw [wildcardMatches_iff]
  exact ⟨FillsSingly.fills, Iff.mpr, fun single => ⟨FillsSingly.fills, single⟩⟩

theorem wildcard_misses_asterisk : Fills [asterisk] [asterisk, 97] ∧
    wildcardMatches [asterisk] [asterisk, 97] = false := by
  constructor
  · exact ⟨[asterisk, 97], [], rfl, .inl rfl, rfl⟩
  · simp [wildcardMatches, matchFrom]

end WinWinCode.ExecutionPort.RulePacks
