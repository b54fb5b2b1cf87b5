import Mathlib.Algebra.Order.Ring.Int
import Mathlib.Data.List.Basic

/-!
# Strings

`Utils::String::Split`, and the numbers that `std::stoul` and `std::stoi` read. A string is the list of its characters. The
items joined by the separator are the string again (`intercalate_split`), but for a separator at the end of it: the loop ends
there without an empty item, unless the limit is reached just then.
-/

namespace Mediasoup.Utils

variable {α : Type} [DecidableEq α]

/-- The loop of `Split` behind the `count` items so far: `item` is what `find` has passed. -/
def splitFrom (separator : α) (limit : Nat) : Nat → List α → List α → List (List α)
  | _, item, [] => [item]
  | count, item, c :: str =>
    if c ≠ separator then splitFrom separator limit count (item ++ [c]) str
    -- the limit is reached: the rest is the last item
    else if limit ≠ 0 ∧ count + 1 ≥ limit then [item, str]
    else if str = [] then [item]
    else item :: splitFrom separator limit (count + 1) [] str

def split (str : List α) (separator : α) (limit : Nat) : List (List α) :=
  if str = [] then [] else splitFrom separator limit 0 [] str

/-- The rest of a string behind `count` items ends with a separator, and the limit is not reached with it. -/
abbrev EndsOpen (separator : α) (limit count : Nat) (str : List α) : Prop :=
  str.getLast? = some separator ∧ (limit = 0 ∨ count + str.count separator < limit)

section Split

open List

variable {separator : α} {limit count : Nat} {item str : List α}

theorem splitFrom_ne_nil : splitFrom separator limit count item str ≠ [] := by
  induction str generalizing item with
  | nil => exact cons_ne_nil _ _
  | cons c str ih =>
    rw [splitFrom]
    split
    · exact ih
    · split_ifs <;> exact cons_ne_nil _ _

theorem intercalate_splitFrom (hc : limit = 0 ∨ count < limit) :
    [separator].intercalate (splitFrom separator limit count item str) =
      item ++ if EndsOpen separator limit count str then str.dropLast else str := by
  induction str generalizing count item with
  | nil => simp [splitFrom]
  | cons c str ih =>
    rw [splitFrom]
    by_cases hsep : c = separator
    · subst hsep
      rw [if_neg (not_not_intro rfl)]
      by_cases hlimit : limit ≠ 0 ∧ count + 1 ≥ limit
      · have hopen : ¬EndsOpen c limit count (c :: str) := by
          rintro ⟨-, hlt⟩
          rw [count_cons_self] at hlt
          omega
        rw [if_pos hlimit, if_neg hopen]
        simp [intercalate]
      rw [if_neg hlimit]
      by_cases hnil : str = []
      · subst hnil
        have hopen : EndsOpen c limit count [c] := ⟨rfl, by rw [count_singleton_self]; omega⟩
        rw [if_pos rfl, if_pos hopen]
        simp
      obtain ⟨d, str, rfl⟩ := exists_cons_of_ne_nil hnil
      have hopen : EndsOpen c limit count (c :: d :: str) ↔ EndsOpen c limit (count + 1) (d :: str) := by
        rw [EndsOpen, EndsOpen, getLast?_cons_cons, count_cons_self, Nat.add_right_comm, Nat.add_assoc]
      rw [if_neg hnil, intercalate_cons_of_ne_nil splitFrom_ne_nil, ih (by omega)]
      simp only [hopen, dropLast_cons_cons]
      split <;> simp
    · rw [if_pos hsep, ih hc, append_assoc]
      rcases str with - | ⟨d, str⟩
      · simp [hsep]
      have hopen : EndsOpen separator limit count (c :: d :: str) ↔ EndsOpen separator limit count (d :: str) := by
        rw [EndsOpen, EndsOpen, getLast?_cons_cons, count_cons_of_ne hsep]
      simp only [hopen, dropLast_cons_cons]
      split <;> rfl

theorem notMem_of_mem_dropLast (hitem : separator ∉ item) :
    ∀ x ∈ (splitFrom separator limit count item str).dropLast, separator ∉ x := by
  induction str generalizing count item with
  | nil => simp [splitFrom]
  | cons c str ih =>
    rw [splitFrom]
    split_ifs with hsep hlimit hnil
    · exact ih (by simp [hitem, Ne.symm hsep])
    · simpa using hitem
    · simp
    · rw [dropLast_cons_of_ne_nil splitFrom_ne_nil]
      exact forall_mem_cons.mpr ⟨hitem, ih not_mem_nil⟩

theorem length_splitFrom_le (hc : count < limit) : (splitFrom separator limit count item str).length + count ≤ limit + 1 := by
  induction str generalizing count item with
  | nil => simp [splitFrom]; omega
  | cons c str ih =>
    rw [splitFrom]
    split_ifs with hsep hlimit hnil
    · exact ih hc
    · simp; omega
    · simp; omega
    · have : (splitFrom separator limit (count + 1) [] str).length + (count + 1) ≤ limit + 1 := ih (by omega)
      rw [length_cons]
      omega

theorem intercalate_split (str : List α) (separator : α) (limit : Nat) : [separator].intercalate (split str separator limit) =
        (if EndsOpen separator limit 0 str then str.dropLast else str) ∧
      (∀ item ∈ (split str separator limit).dropLast, separator ∉ item) ∧
      (limit = 0 ∨ (split str separator limit).length ≤ limit + 1) := by
  rw [split]
  split
  · next hnil => simp [hnil]
  refine ⟨?_, notMem_of_mem_dropLast not_mem_nil, ?_⟩
  · rw [intercalate_splitFrom (by omega), nil_append]
  · by_cases hl : limit = 0
    · exact .inl hl
    · exact .inr (length_splitFrom_le (Nat.pos_of_ne_zero hl))

theorem last_separator_lost : [','].intercalate (split ['a', ','] ',' 0) ≠ ['a', ','] := by decide

end Split

/-! ## Numbers -/

def isSpace (c : Char) : Bool := c = ' ' || decide (9 ≤ c.toNat ∧ c.toNat ≤ 13)

/-- The number that the digits at the start give, if there are any. -/
def readDigits (str : List Char) : Option Nat :=
  match str.takeWhile Char.isDigit with
  | [] => none
  | digits => some (digits.foldl (fun n c => 10 * n + (c.toNat - 48)) 0)

/-- White space is skipped; whether there is a minus sign, and the digits. -/
def readNumber (str : List Char) : Option (Bool × Nat) :=
  match str.dropWhile isSpace with
  | '-' :: str => (readDigits str).map (true, ·)
  | '+' :: str => (readDigits str).map (false, ·)
  | str => (readDigits str).map (false, ·)

/-- `std::stoul`, with an `unsigned long` of 64 bits; `none` if it throws. A negative number is taken modulo 2^64. -/
def stoul (str : List Char) : Option Nat := do
  let (negative, n) ← readNumber str
  if n < 2 ^ 64 then some (if negative then (2 ^ 64 - n) % 2 ^ 64 else n) else none

/-- `std::stoi`, with an `int` of 32 bits; `none` if it throws. -/
def stoi (str : List Char) : Option Int := do
  let (negative, n) ← readNumber str
  let value : Int := if negative then -n else n
  if -2 ^ 31 ≤ value ∧ value < 2 ^ 31 then some value else none

example : (["5", " -1", "+7x", "", "a1", "-"].map fun str => stoul str.toList) =
    [some 5, some (2 ^ 64 - 1), some 7, none, none, none] := by decide

end Mediasoup.Utils
