import CppToPython.Grammar.Expectation

/-! # Parsers

A parser reads symbols from the front of a list. Its result carries the proof
that what it leaves is the end of the list it was given, so repetition ends
because the list gets shorter.

There is no backtracking: a parser that fails has failed at the first symbol
it leaves.
-/

namespace CppToPython

/-- What a parser makes of the symbols `ls`. -/
inductive Parsed {σ : Type} (α : Type) (ls : List σ) where
  | ok (value : α) (rest : List σ) (isSuffix : rest <:+ ls)
  /-- Something else was expected at the front of `rest`. -/
  | fail (expected : Expectation) (rest : List σ) (isSuffix : rest <:+ ls)

namespace Parsed

variable {σ α β : Type} {ls ms : List σ}

/-- A result on the end of a list is one on the whole list. -/
def extend (h : ls <:+ ms) : Parsed α ls → Parsed α ms
  | ok value rest hr => ok value rest (hr.trans h)
  | fail expected rest hr => fail expected rest (hr.trans h)

def map (f : α → β) : Parsed α ls → Parsed β ls
  | ok value rest hr => ok (f value) rest hr
  | fail expected rest hr => fail expected rest hr

/-- A result without its proof. -/
def outcome : Parsed α ls → Except (Expectation × List σ) (α × List σ)
  | ok value rest _ => .ok (value, rest)
  | fail expected rest _ => .error (expected, rest)

end Parsed

/-- Reads a value from the front of a list of symbols. -/
def Parser (σ α : Type) : Type := (ls : List σ) → Parsed α ls

namespace Parser

variable {σ α β : Type}

def done (a : α) : Parser σ α :=
  fun ls => .ok a ls (List.suffix_refl ls)

def andThen (p : Parser σ α) (f : α → Parser σ β) : Parser σ β := fun ls =>
  match p ls with
  | .ok a rest h => (f a rest).extend h
  | .fail expected rest h => .fail expected rest h

def refuse (expected : Expectation) : Parser σ α :=
  fun ls => .fail expected ls (List.suffix_refl ls)

/-- The symbol `n` places ahead, which stays where it is. -/
def ahead (n : Nat) : Parser σ (Option σ) :=
  fun ls => .ok ls[n]? ls (List.suffix_refl ls)

def skip : Parser σ Unit :=
  fun ls => .ok () ls.tail (List.tail_suffix ls)

/-- Chooses what to read by the next symbol, again and again until the list ends
    or a symbol for which `stop` holds is next. The symbol is passed over if there
    is a choice for it. -/
def loop (stop : σ → Bool) (expected : Expectation) (choose : σ → Option (Parser σ α)) :
    Parser σ (List α)
  | [] => .ok [] [] (List.suffix_refl [])
  | l :: ls =>
      if stop l then .ok [] (l :: ls) (List.suffix_refl _)
      else
        match choose l with
        | none => .fail expected (l :: ls) (List.suffix_refl _)
        | some p =>
            match p ls with
            | .fail expected rest h => .fail expected rest (h.trans (List.suffix_cons l ls))
            | .ok a rest h =>
                ((loop stop expected choose rest).map (a :: ·)).extend
                  (h.trans (List.suffix_cons l ls))
termination_by ls => ls.length
decreasing_by exact Nat.lt_succ_of_le h.length_le

end Parser

end CppToPython
