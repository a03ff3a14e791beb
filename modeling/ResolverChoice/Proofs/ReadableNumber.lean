/-
When a number can be read, and what stops a reading.

Options and levels pass a run of digits to `readNumeral`.  The run is cut by a test
that lets more symbols through than a numeral may have, and it can be of any length,
so a reading that begins with digits may still fail.  A timeout has to fit binary64
besides.
-/

import ResolverChoice.Settings.Reading

namespace ResolverChoice

/-! ### Faults of results -/

section Faults

variable {α β : Type}

def faultOf? : Except Fault α → Option Fault
  | .error fault => some fault
  | .ok _ => none

theorem exists_ok_iff_faultOf?_eq_none (result : Except Fault α) :
    (∃ value, result = .ok value) ↔ faultOf? result = none := by
  cases result with
  | error fault =>
      constructor
      · rintro ⟨value, impossible⟩
        cases impossible
      · intro impossible
        cases impossible
  | ok value =>
      constructor
      · intro _
        rfl
      · intro _
        exact ⟨value, rfl⟩

theorem faultOf?_bind_of_ok (result : Except Fault α) {next : α → Except Fault β}
    (succeeds : ∀ value, faultOf? (next value) = none) :
    faultOf? (result >>= next) = faultOf? result := by
  cases result with
  | error fault => rfl
  | ok value => exact succeeds value

/-- Where a step fails on an item whatever was folded before, the first item that it
fails on decides how the fold fails. -/
theorem faultOf?_foldlM {step : β → α → Except Fault β} {fault? : α → Option Fault}
    (same : ∀ state item, faultOf? (step state item) = fault? item) (items : List α)
    (state : β) :
    faultOf? (items.foldlM step state) = items.findSome? fault? := by
  -- A step that succeeds changes the state, so the rest is claimed for every state.
  induction items generalizing state with
  | nil => rfl
  | cons item rest ih =>
      rw [List.foldlM_cons, List.findSome?_cons, ← same state item]
      cases step state item with
      | error fault => rfl
      | ok next => exact ih next

/-- An action that passes on a fault and cannot fail otherwise fails as its first part
does. -/
theorem exists_ok_run_bind_iff {σ : Type} {action : StateM σ (Except Fault α)}
    {next : Except Fault α → StateM σ (Except Fault β)}
    (stops : ∀ fault, next (.error fault) = pure (.error fault))
    (continues : ∀ value later, ∃ result, ((next (.ok value)).run later).1 = .ok result)
    (state : σ) :
    (∃ result, ((action >>= next).run state).1 = .ok result) ↔
      ∃ value, (action.run state).1 = .ok value := by
  rw [StateT.run_bind]
  cases action.run state with
  | mk outcome later =>
      cases outcome with
      | error fault =>
          change (∃ result, ((next (.error fault)).run later).1 = .ok result) ↔ _
          rw [stops]
          constructor
          · rintro ⟨result, impossible⟩
            cases impossible
          · rintro ⟨value, impossible⟩
            cases impossible
      | ok value =>
          constructor
          · intro _
            exact ⟨value, rfl⟩
          · intro _
            exact continues value later

end Faults

/-! ### Numerals -/

/-- What `readNumeral` takes: decimal digits of any script, at least one and not too
many. -/
structure IsNumeral (literal : Text) : Prop where
  nonempty : literal ≠ []
  decimal : ∀ symbol ∈ literal, symbol.isDecimal = true
  short : literal.length ≤ maximumDigits

private theorem length_takeWhile_eq_iff (test : Symbol → Bool) (text : Text) :
    (text.takeWhile test).length = text.length ↔ ∀ symbol ∈ text, test symbol = true := by
  constructor
  · intro sameLength
    have whole : text.takeWhile test = text :=
      (List.takeWhile_prefix test).eq_of_length sameLength
    have holds := @List.all_takeWhile _ test text
    rw [whole] at holds
    exact List.all_eq_true.mp holds
  · intro holds
    have whole := @List.takeWhile_append_of_pos _ test text [] holds
    rw [List.append_nil, List.takeWhile_nil, List.append_nil] at whole
    rw [whole]

theorem readNumeral_of_isNumeral {literal : Text} (numeral : IsNumeral literal) :
    readNumeral literal = .ok (decimalNumber literal) := by
  have counted := (length_takeWhile_eq_iff Symbol.isDecimal literal).mpr numeral.decimal
  have short := numeral.short
  have proper : ¬(literal = [] ∨ literal.length < literal.length) := by
    rintro (empty | impossible)
    · exact numeral.nonempty empty
    · exact Nat.lt_irrefl _ impossible
  simp only [readNumeral, counted]
  rw [if_neg (Nat.not_lt.mpr short), if_neg proper]

theorem faultOf?_readNumeral_eq_none_iff (literal : Text) :
    faultOf? (readNumeral literal) = none ↔ IsNumeral literal := by
  constructor
  · intro succeeds
    simp only [readNumeral] at succeeds
    split at succeeds
    · cases succeeds
    · split at succeeds
      · cases succeeds
      · rename_i short proper
        rw [not_or] at proper
        have atMost := (List.takeWhile_prefix (l := literal) Symbol.isDecimal).length_le
        have counted : (literal.takeWhile Symbol.isDecimal).length = literal.length := by
          omega
        exact {
          nonempty := proper.1
          decimal := (length_takeWhile_eq_iff _ _).mp counted
          short := by omega }
  · intro numeral
    rw [readNumeral_of_isNumeral numeral]
    rfl

namespace ResolverSettings

/-! ### Numbers of options -/

/-- The symbols at the start of an option's value that are taken for its number. -/
def leadingDigits (value : Text) : Text :=
  value.takeWhile Symbol.isDigit

/-- The number of the value can be read.  A value without digits has the number
zero. -/
structure HasReadableNumber (value : Text) : Prop where
  decimal : ∀ symbol ∈ leadingDigits value, symbol.isDecimal = true
  short : (leadingDigits value).length ≤ maximumDigits

theorem leadingNumber_of_readable {value : Text} (readable : HasReadableNumber value) :
    leadingNumber value = .ok (decimalNumber (leadingDigits value)) := by
  have decimal := readable.decimal
  have short := readable.short
  unfold leadingNumber
  unfold leadingDigits at *
  cases digits : value.takeWhile Symbol.isDigit with
  | nil => rfl
  | cons first rest =>
      rw [digits] at decimal short
      exact readNumeral_of_isNumeral ⟨List.cons_ne_nil first rest, decimal, short⟩

theorem faultOf?_leadingNumber_eq_none_iff (value : Text) :
    faultOf? (leadingNumber value) = none ↔ HasReadableNumber value := by
  constructor
  · intro succeeds
    unfold leadingNumber at succeeds
    cases digits : value.takeWhile Symbol.isDigit with
    | nil =>
        have noneLeft : leadingDigits value = [] := digits
        refine ⟨?_, ?_⟩
        · rw [noneLeft]
          exact List.forall_mem_nil _
        · rw [noneLeft]
          exact Nat.zero_le _
    | cons first rest =>
        have allDigits : leadingDigits value = first :: rest := digits
        rw [digits] at succeeds
        have numeral := (faultOf?_readNumeral_eq_none_iff _).mp succeeds
        rw [← allDigits] at numeral
        exact ⟨numeral.decimal, numeral.short⟩
  · intro readable
    rw [leadingNumber_of_readable readable]
    rfl

/-! ### Timeouts -/

/-- A timeout is a number that binary64 has a nearest value for. -/
structure HasReadableTimeout (value : Text) : Prop extends HasReadableNumber value where
  fits : decimalNumber (leadingDigits value) < Binary64.limit

theorem exceeds_natCast (number : Nat) :
    Binary64.exceeds (number : Rat) = decide (Binary64.limit ≤ number) := by
  have nonnegative : ¬((number : Rat) < 0) := Rat.not_lt.mpr Rat.natCast_nonneg
  simp only [Binary64.exceeds, magnitude, if_neg nonnegative, Rat.natCast_le_natCast]

theorem one_lt_limit : 1 < Binary64.limit := by
  decide +kernel

/-- The least timeout, one second, is far below the limit and never decides. -/
theorem readTimeout_of_number {value : Text} (readable : HasReadableNumber value) :
    readTimeout value =
      if Binary64.limit ≤ decimalNumber (leadingDigits value) then .error .beyondBinary64
      else .ok (Binary64.round (max (decimalNumber (leadingDigits value)) 1 : Nat)) := by
  have opened : readTimeout value =
      if Binary64.exceeds ((max (decimalNumber (leadingDigits value)) 1 : Nat) : Rat) then
        .error .beyondBinary64
      else .ok (Binary64.round (max (decimalNumber (leadingDigits value)) 1 : Nat)) := by
    unfold readTimeout
    rw [leadingNumber_of_readable readable]
    rfl
  have atLeastOne := one_lt_limit
  have same : Binary64.limit ≤ max (decimalNumber (leadingDigits value)) 1 ↔
      Binary64.limit ≤ decimalNumber (leadingDigits value) := by
    omega
  rw [opened, exceeds_natCast]
  simp only [decide_eq_true_eq, same]

/-- A number that cannot be read fails before it is tried as a timeout. -/
theorem faultOf?_readTimeout_of_unreadable {value : Text}
    (unreadable : ¬HasReadableNumber value) :
    faultOf? (readTimeout value) = faultOf? (leadingNumber value) := by
  cases read : leadingNumber value with
  | error fault =>
      unfold readTimeout
      rw [read]
      rfl
  | ok number =>
      rw [← faultOf?_leadingNumber_eq_none_iff, read] at unreadable
      exact absurd rfl unreadable

theorem faultOf?_readTimeout_eq_none_iff (value : Text) :
    faultOf? (readTimeout value) = none ↔ HasReadableTimeout value := by
  by_cases readable : HasReadableNumber value
  · rw [readTimeout_of_number readable]
    split
    · rename_i great
      constructor
      · intro impossible
        cases impossible
      · intro timeout
        exact absurd timeout.fits (Nat.not_lt.mpr great)
    · rename_i fits
      constructor
      · intro _
        exact ⟨readable, Nat.not_le.mp fits⟩
      · intro _
        rfl
  · rw [faultOf?_readTimeout_of_unreadable readable, faultOf?_leadingNumber_eq_none_iff]
    exact ⟨fun impossible => absurd impossible readable,
      fun timeout => timeout.toHasReadableNumber⟩

end ResolverSettings

end ResolverChoice
