import CppToPython.Proofs.Emission.Forest

/-! # Running statements and running Python

Two ways to run a program without functions and `for` loops: by its statements, and by
the lines of its module as Python runs them. Neither looks into conditions and simple
lines. What these mean is up to an interpretation, over stores of any kind.
-/

namespace CppToPython

open Emission

universe u

/-- What conditions and simple lines mean. -/
structure Interpretation (σ : Type u) where
  holds : (condition : String) → σ → Bool
  effect : (line : String) → σ → σ

def Interpretation.effects {σ : Type u} (I : Interpretation σ) (lines : List String)
    (s : σ) : σ :=
  lines.foldl (fun s line => I.effect line s) s

/-- The store at the end, and whether a `return` led there. -/
structure Outcome (σ : Type u) where
  store : σ
  returned : Bool

variable {σ : Type u} (I : Interpretation σ)

/-! ### Statements -/

/-- A statement that has an effect and nothing else. -/
def Stmt.isSimple : Stmt → Bool
  | .declare _ | .assign _ | .output _ | .input _ | .step _ _ | .call _ _ => true
  | .function .. | .conditional .. | .forLoop .. | .whileLoop .. | .result _ => false

/-- What an alternative runs, an `else if` being a conditional of its own. -/
def Else.stmts : Else → List Stmt
  | .nothing => []
  | .block body => body
  | .elseIf condition body otherwise => [.conditional condition body otherwise]

/-- Statements run from a store to an outcome. -/
inductive Stmt.Executes : List Stmt → σ → Outcome σ → Prop where
  | done {s} : Executes [] s ⟨s, false⟩
  | simple {stmt rest s o} :
      stmt.isSimple = true → Executes rest (I.effects stmt.texts s) o →
        Executes (stmt :: rest) s o
  | result {value rest s} :
      Executes (.result value :: rest) s ⟨I.effect (resultText value) s, true⟩
  | conditional {condition body otherwise rest s t o} :
      Executes (if I.holds condition.toPython s then body else otherwise.stmts) s ⟨t, false⟩ →
      Executes rest t o → Executes (.conditional condition body otherwise :: rest) s o
  | conditionalReturns {condition body otherwise rest s t} :
      Executes (if I.holds condition.toPython s then body else otherwise.stmts) s ⟨t, true⟩ →
        Executes (.conditional condition body otherwise :: rest) s ⟨t, true⟩
  | loopEnds {condition body rest s o} :
      I.holds condition.toPython s = false → Executes rest s o →
        Executes (.whileLoop condition body :: rest) s o
  | loop {condition body rest s t o} :
      I.holds condition.toPython s = true → Executes body s ⟨t, false⟩ →
      Executes (.whileLoop condition body :: rest) t o →
        Executes (.whileLoop condition body :: rest) s o
  | loopReturns {condition body rest s t} :
      I.holds condition.toPython s = true → Executes body s ⟨t, true⟩ →
        Executes (.whileLoop condition body :: rest) s ⟨t, true⟩

/-! ### Lines of Python -/

/-- What Python does with a line. -/
inductive Form where
  | ifHead (condition : String)
  | elifHead (condition : String)
  | elseHead
  | whileHead (condition : String)
  /-- A header of another kind. -/
  | otherHead
  | result
  | pass
  | simple
  deriving DecidableEq

namespace Form

/-- A line by its first word and the rest of it. Only a colon at the end makes a header, since
    a variable may have the name `elif`, and a word alone a `pass`. -/
def ofParts (word rest : List Char) : Form :=
  let condition := String.ofList (rest.drop 1).dropLast
  if word = "return".toList then result
  else if rest.getLast? = some ':' then
    if word = "if".toList then ifHead condition
    else if word = "elif".toList then elifHead condition
    else if word = "else".toList then elseHead
    else if word = "while".toList then whileHead condition
    else otherHead
  else if word = "pass".toList ∧ rest = [] then pass
  else simple

def of (text : String) : Form :=
  ofParts (text.toList.takeWhile Piece.isWordPart) (text.toList.dropWhile Piece.isWordPart)

theorem of_eq_ofParts {text : String} {word rest : List Char} (htext : text.toList = word ++ rest)
    (hword : ∀ c ∈ word, Piece.isWordPart c = true)
    (hrest : ∀ c ∈ rest.head?, Piece.isWordPart c = false) : of text = ofParts word rest := by
  rw [of, htext, takeWhile_append_boundary hword hrest, dropWhile_append_boundary hword hrest]

theorem of_pass : of "pass" = pass := by decide

theorem of_else : of "else:" = elseHead := by decide

theorem of_header {word : List Char} (hword : word.all Piece.isWordPart = true)
    (condition : String) :
    of (String.ofList word ++ " " ++ condition ++ ":") =
      ofParts word (' ' :: condition.toList ++ [':']) := by
  apply of_eq_ofParts
  · simp
  · exact List.all_eq_true.mp hword
  · rintro c ⟨⟩
    decide

theorem of_if (condition : String) : of ("if " ++ condition ++ ":") = ifHead condition := by
  have hform := of_header (show "if".toList.all Piece.isWordPart = true by decide) condition
  simpa [ofParts, List.getLast?_cons] using hform

theorem of_elif (condition : String) : of ("elif " ++ condition ++ ":") = elifHead condition := by
  have hform := of_header (show "elif".toList.all Piece.isWordPart = true by decide) condition
  simpa [ofParts, List.getLast?_cons] using hform

theorem of_while (condition : String) : of ("while " ++ condition ++ ":") = whileHead condition := by
  have hform := of_header (show "while".toList.all Piece.isWordPart = true by decide) condition
  simpa [ofParts, List.getLast?_cons] using hform

theorem of_resultText (value : Option Expr) : of (resultText value) = result := by
  cases value with
  | none => decide
  | some e =>
      have htext : (resultText (some e)).toList = "return".toList ++ ' ' :: e.toPython.toList := by
        simp [resultText]
      rw [of_eq_ofParts htext (List.all_eq_true.mp (by decide)) (by rintro c ⟨⟩; decide), ofParts,
        if_pos rfl]

theorem of_eq_simple {word rest : String} (hword : ∀ c ∈ word.toList, Piece.isWordPart c = true)
    (hreturn : word ≠ "return") (hrest : Starts (Piece.isWordPart · = false) rest)
    (hends : Ends (· ≠ ':') (word ++ rest)) : of (word ++ rest) = simple := by
  obtain ⟨c, hc, hpart⟩ := hrest
  obtain ⟨d, hd, hcolon⟩ := hends
  rw [of_eq_ofParts (String.toList_append ..) hword (by simpa [hc] using hpart), ofParts, if_neg,
    if_neg, if_neg]
  · rintro ⟨_, hnil⟩
    simp [hnil] at hc
  · intro hlast
    rw [String.toList_append, List.getLast?_append, hlast] at hd
    exact hcolon (Option.some.inj hd).symm
  · intro h
    exact hreturn (String.toList_injective h)

end Form

theorem IsName.ne_return {name : String} (h : IsName name) : name ≠ "return" := by
  rintro rfl
  exact absurd h.2 (by decide)

theorem IsName.variableText_isWordPart {name : String} (h : IsName name) :
    ∀ c ∈ (variableText name).toList, Piece.isWordPart c = true := by
  rcases variableText_cases name with ht | ht | ht
  · rw [ht]
    exact List.all_eq_true.mp (by decide)
  · rw [ht]
    exact List.all_eq_true.mp (by decide)
  · rw [ht]
    exact h.isWordPart

theorem IsName.variableText_ne_return {name : String} (h : IsName name) :
    variableText name ≠ "return" := by
  rcases variableText_cases name with ht | ht | ht
  · rw [ht]
    decide
  · rw [ht]
    decide
  · rw [ht]
    exact h.ne_return

theorem Form.of_assignText {name value : String} (hname : IsName name)
    (hends : Ends (· ≠ ':') value) : Form.of (assignText name value) = .simple := by
  have hline := (hends.append " = ").append name
  rw [assignText, String.append_assoc]
  exact Form.of_eq_simple hname.isWordPart hname.ne_return ⟨' ', by simp, by decide⟩ hline

theorem Form.of_callText {function : String}
    (hword : ∀ c ∈ function.toList, Piece.isWordPart c = true) (hreturn : function ≠ "return")
    (args : List String) : Form.of (callText function args) = .simple := by
  have hends := (ends_callText function args).mono fun _ => not_colon_of_endsOperand
  rw [callText, String.append_assoc, String.append_assoc] at hends ⊢
  exact Form.of_eq_simple hword hreturn ⟨'(', by simp, by decide⟩ hends

/-- The lines of simple statements are simple. -/
theorem Stmt.form_texts {stmt : Stmt} (hwf : stmt.WellFormed) (hs : stmt.isSimple = true) :
    ∀ text ∈ stmt.texts, Form.of text = .simple := by
  intro text ht
  obtain ⟨l, hl, rfl⟩ := List.mem_map.mp ht
  cases stmt with
  | function | conditional | forLoop | whileLoop | result => cases hs
  | declare d =>
      obtain ⟨type, name, value⟩ := d
      cases List.mem_singleton.mp hl
      apply Form.of_assignText hwf.1
      cases value with
      | none => exact ⟨'e', by simp, by decide⟩
      | some e => exact ends_plain_toPython (hwf.2 e rfl)
  | assign a =>
      cases List.mem_singleton.mp hl
      exact Form.of_assignText hwf.1.1 (ends_plain_toPython hwf.1.2)
  | output values =>
      obtain ⟨line, _, rfl⟩ := List.mem_map.mp hl
      exact Form.of_callText (List.all_eq_true.mp (by decide)) (by decide) _
  | input targets =>
      obtain ⟨name, hname, rfl⟩ := List.mem_map.mp hl
      exact Form.of_assignText (hwf name hname) ⟨')', by simp, by decide⟩
  | step op target =>
      have hends := Stmt.ends_plain hwf rfl l hl
      cases List.mem_singleton.mp hl
      rw [stepText, String.append_assoc, String.append_assoc] at hends ⊢
      exact Form.of_eq_simple (IsName.variableText_isWordPart hwf)
        (IsName.variableText_ne_return hwf) ⟨' ', by simp, by decide⟩ hends
  | call function args =>
      cases List.mem_singleton.mp hl
      exact Form.of_callText hwf.1.isWordPart hwf.1.ne_return _

/-- The block of the first branch to be taken, of the `elif`s and the `else` in front. -/
def Node.taken (s : σ) : List Node → List Node
  | [] => []
  | .mk text block :: rest =>
      match Form.of text with
      | .elifHead condition => if I.holds condition s then block else taken s rest
      | .elseHead => block
      | _ => []

/-- What comes after the `elif`s and the `else` in front. -/
def Node.afterBranches : List Node → List Node
  | [] => []
  | .mk text block :: rest =>
      match Form.of text with
      | .elifHead _ => afterBranches rest
      | .elseHead => rest
      | _ => .mk text block :: rest

/-- Lines run from a store to an outcome. A line that opens no block must have none after
    it, and `elif` and `else` only run as parts of an `if`. -/
inductive Node.Runs : List Node → σ → Outcome σ → Prop where
  | done {s} : Runs [] s ⟨s, false⟩
  | pass {text rest s o} :
      Form.of text = .pass → Runs rest s o → Runs (.mk text [] :: rest) s o
  | simple {text rest s o} :
      Form.of text = .simple → Runs rest (I.effect text s) o → Runs (.mk text [] :: rest) s o
  | result {text rest s} :
      Form.of text = .result → Runs (.mk text [] :: rest) s ⟨I.effect text s, true⟩
  | branch {text condition block rest s t o} :
      Form.of text = .ifHead condition →
      Runs (if I.holds condition s then block else taken I s rest) s ⟨t, false⟩ →
      Runs (afterBranches rest) t o → Runs (.mk text block :: rest) s o
  | branchReturns {text condition block rest s t} :
      Form.of text = .ifHead condition →
      Runs (if I.holds condition s then block else taken I s rest) s ⟨t, true⟩ →
        Runs (.mk text block :: rest) s ⟨t, true⟩
  | loopEnds {text condition block rest s o} :
      Form.of text = .whileHead condition → I.holds condition s = false → Runs rest s o →
        Runs (.mk text block :: rest) s o
  | loop {text condition block rest s t o} :
      Form.of text = .whileHead condition → I.holds condition s = true →
      Runs block s ⟨t, false⟩ → Runs (.mk text block :: rest) t o →
        Runs (.mk text block :: rest) s o
  | loopReturns {text condition block rest s t} :
      Form.of text = .whileHead condition → I.holds condition s = true →
      Runs block s ⟨t, true⟩ → Runs (.mk text block :: rest) s ⟨t, true⟩

end CppToPython
