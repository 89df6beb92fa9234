import SchemaMigration.Text.Numeral

/-!
# Punycode

A text in letters, digits and hyphens of ASCII. What is ASCII in it comes first, up to the last
hyphen; after it, one number for each other character says which one it is and where it goes. The
digits of a number have weights that follow the numbers before it.
-/

namespace SchemaMigration.Domain.Punycode

/-! ## Numbers -/

/-- The letters are the first digits. -/
def digit? (c : Char) : Option Nat :=
  if 'a' ≤ c ∧ c ≤ 'z' then some (c.toNat - 97)
  else if 'A' ≤ c ∧ c ≤ 'Z' then some (c.toNat - 65)
  else if c.isDigit then some (c.toNat - 22)
  else none

/-- A digit below this one is the last of its number. -/
def threshold (bias place : Nat) : Nat := min 26 (max 1 (place - bias))

/-- Numbers have 32 bits. -/
def fits (n : Nat) : Bool := n < twoTo 32

/-- Adds a number to a sum, and gives what follows it. Places count from 36 in steps of 36. -/
def addNumber (bias place weight sum : Nat) : List Char → Option (Nat × List Char)
  | [] => none
  | c :: rest =>
    match digit? c with
    | none => none
    | some digit =>
      let t := threshold bias place
      if !fits (sum + digit * weight) then none
      else if digit < t then some (sum + digit * weight, rest)
      else if !fits (weight * (36 - t)) then none
      else addNumber bias (place + 36) (weight * (36 - t)) (sum + digit * weight) rest

theorem addNumber_length {bias place weight sum n : Nat} {text rest : List Char}
    (h : addNumber bias place weight sum text = some (n, rest)) : rest.length < text.length := by
  fun_induction addNumber bias place weight sum text <;> grind

/-- How often a number is divided by 35 until it is small, and what is left. -/
def scaleDown (steps n : Nat) : Nat × Nat :=
  if 455 < n then scaleDown (steps + 1) (n / 35) else (steps, n)
termination_by n

/-- The bias after a number, when there are so many characters. -/
def nextBias (number count : Nat) (isFirst : Bool) : Nat :=
  let n := if isFirst then number / 700 else number / 2
  let (steps, n) := scaleDown 0 (n + n / count)
  36 * steps + 36 * n / (n + 38)

/-! ## Texts -/

/-- A text of which some characters are not in their places yet. -/
structure Unfinished where
  text : List Char
  /-- The number of the last character that was put in. -/
  char : Nat := 128
  /-- The place after the one where it was put. -/
  place : Nat := 0
  bias : Nat := 72

/-- Puts in the next character. A sum says both which one it is and where it goes. -/
def Unfinished.insert? (p : Unfinished) (sum : Nat) : Option Unfinished :=
  let count := p.text.length + 1
  let char := p.char + sum / count
  let place := sum % count
  if char.isValidChar then
    some
      { text := p.text.insertIdx place (Char.ofNat char)
        char
        place := place + 1
        bias := nextBias (sum - p.place) count (p.place = 0) }
  else none

/-- Puts in a character for each number. -/
def insertAll (p : Unfinished) (numbers : List Char) : Option (List Char) :=
  if numbers = [] then some p.text
  else
    match _ : addNumber p.bias 36 1 p.place numbers with
    | none => none
    | some (sum, rest) =>
      match p.insert? sum with
      | none => none
      | some p => insertAll p rest
termination_by numbers.length
decreasing_by exact addNumber_length (by assumption)

def splitAtHyphen (text : List Char) : List Char × List Char :=
  let numbers := text.reverse.takeWhile (· ≠ '-')
  let plain := text.take (text.length - numbers.length - 1)
  if plain = [] then ([], text) else (plain, numbers.reverse)

def isAscii (c : Char) : Bool := c.toNat < 128

def decode? (text : List Char) : Option (List Char) :=
  let (plain, numbers) := splitAtHyphen text
  if plain.all isAscii then insertAll { text := plain } numbers else none

end SchemaMigration.Domain.Punycode
