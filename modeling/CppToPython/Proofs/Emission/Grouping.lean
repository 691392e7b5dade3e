import CppToPython.Proofs.Emission.Text
import CppToPython.Proofs.Grammar.Height
import CppToPython.Proofs.RoundTrip

/-! # Expressions keep their grouping

The text of an expression can be read back by the rules it was read by. That gives the same
tree again, where each step is the operator that gives its value and the truth values have
their other names. Two negatives in a row are the exception: their signs read as one step.
-/

namespace CppToPython

open Emission Grammar

/-! ### Normal expressions -/

mutual
/-- An expression without steps, and with the truth values as they are written. -/
def Expr.normal : Expr → Expr
  | .number text => .number text
  | .string text => .string text
  | .name text => .name (variableText text)
  | .binary left op right => .binary left.normal op right.normal
  | .step op target => .binary (.name (variableText target)) op.change (.number "1")
  | .call function args => .call function (Expr.listNormal args)
  | .negate operand => .negate operand.normal

def Expr.listNormal : List Expr → List Expr
  | [] => []
  | e :: es => e.normal :: Expr.listNormal es
end

theorem variableText_variableText (name : String) :
    variableText (variableText name) = variableText name := by
  rcases variableText_cases name with h | h | h
  · rw [h]
    rfl
  · rw [h]
    rfl
  · rw [h]
    exact h

mutual
@[simp]
theorem Expr.toPython_normal (e : Expr) : e.normal.toPython = e.toPython := by
  cases e with
  | number | string => rfl
  | name text => exact variableText_variableText text
  | binary left op right =>
      simp only [Expr.normal, Expr.toPython, left.toPython_normal, right.toPython_normal]
  | step op target =>
      simp only [Expr.normal, Expr.toPython, variableText_variableText]
      simp [String.append_assoc]
  | call function args => simp only [Expr.normal, Expr.toPython, Expr.listToPython_normal args]
  | negate operand => simp only [Expr.normal, Expr.toPython, operand.toPython_normal]
termination_by structural e

theorem Expr.listToPython_normal (es : List Expr) :
    Expr.listToPython (Expr.listNormal es) = Expr.listToPython es := by
  cases es with
  | nil => rfl
  | cons e es =>
      simp only [Expr.listNormal, Expr.listToPython, e.toPython_normal,
        Expr.listToPython_normal es]
termination_by structural es
end

mutual
@[simp]
theorem Expr.levels_normal (e : Expr) : e.normal.levels = e.levels := by
  cases e with
  | number | string | name | step => rfl
  | binary left op right =>
      simp only [Expr.normal, Expr.levels, left.levels_normal, right.levels_normal]
  | call function args => simp only [Expr.normal, Expr.levels, Expr.listLevels_normal args]
  | negate operand => simp only [Expr.normal, Expr.levels, operand.levels_normal]
termination_by structural e

theorem Expr.listLevels_normal (es : List Expr) :
    Expr.listLevels (Expr.listNormal es) = Expr.listLevels es := by
  cases es with
  | nil => rfl
  | cons e es =>
      simp only [Expr.listNormal, Expr.listLevels, e.levels_normal, Expr.listLevels_normal es]
termination_by structural es
end

/-! ### Negatives -/

def Expr.isNegate : Expr → Bool
  | .negate _ => true
  | _ => false

mutual
/-- No negative is that of a negative. -/
def Expr.NegatesOnce : Expr → Prop
  | .number _ | .string _ | .name _ | .step _ _ => True
  | .binary left _ right => left.NegatesOnce ∧ right.NegatesOnce
  | .call _ args => Expr.AllNegateOnce args
  | .negate operand => operand.isNegate = false ∧ operand.NegatesOnce

def Expr.AllNegateOnce : List Expr → Prop
  | [] => True
  | e :: es => e.NegatesOnce ∧ Expr.AllNegateOnce es
end

theorem IsNumber.starts {text : String} (h : IsNumber text) :
    Starts (Char.isDigit · = true) text := by
  have hdigits {digits more : List Char} (hd : IsDigits digits)
      (htext : text.toList = digits ++ more) : Starts (Char.isDigit · = true) text := by
    obtain ⟨c, rest, rfl⟩ := List.exists_cons_of_ne_nil hd.1
    exact ⟨c, by rw [htext]; rfl, hd.2 c List.mem_cons_self⟩
  rcases h with h | ⟨whole, fraction, htext, hwhole, _⟩
  · exact hdigits h (List.append_nil _).symm
  · exact hdigits hwhole htext

theorem Expr.starts_toPython {e : Expr} (h : e.WellFormed) (hn : e.isNegate = false) :
    Starts (· ≠ '-') e.toPython := by
  have hword {text : String} (hs : Starts (Piece.isWordStart · = true) text) :
      Starts (· ≠ '-') text := by
    refine hs.mono ?_
    rintro c hc rfl
    exact absurd hc (by decide)
  cases e with
  | number text =>
      refine h.starts.mono ?_
      rintro c hc rfl
      exact absurd hc (by decide)
  | string text =>
      obtain ⟨rest, htext, _⟩ := h
      exact ⟨'"', by rw [Expr.toPython, htext]; rfl, by decide⟩
  | name text => exact hword h.starts_variableText
  | binary | step => exact ⟨'(', by simp [Expr.toPython], by decide⟩
  | call function args =>
      refine hword ?_
      rw [Expr.toPython, callText, String.append_assoc, String.append_assoc]
      exact h.1.starts.append _
  | negate => cases hn

/-! ### Lexemes side by side -/

/-- The characters after operands and operators. They end all lexemes but directives. -/
def endMarks : List Char := [' ', ',', '(', ')']

/-- One of these characters follows, or nothing. -/
def Marked (rest : List Char) : Prop := ∀ c ∈ rest.head?, c ∈ endMarks

theorem marked_cons {c : Char} {rest : List Char} (h : c ∈ endMarks) : Marked (c :: rest) := by
  rintro d ⟨⟩
  exact h

theorem Lexeme.Plain.endsAt {l : Lexeme} (hl : l.Plain) {c : Char} (hc : c ∈ endMarks) :
    l.EndsAt c := by
  simp only [endMarks, List.mem_cons, List.not_mem_nil, or_false] at hc
  have hdigit : c.isDigit = false := by rcases hc with rfl | rfl | rfl | rfl <;> rfl
  obtain ⟨kind, text⟩ := l
  cases kind with
  | keyword | identifier => rcases hc with rfl | rfl | rfl | rfl <;> rfl
  | number => exact ⟨hdigit, by rcases hc with rfl | rfl | rfl | rfl <;> decide⟩
  | float => exact hdigit
  | string | shift => trivial
  | operator | delimiter =>
      intro d _
      rcases hc with rfl | rfl | rfl | rfl <;> simp [Piece.pairKind]
  | directive => exact absurd rfl hl.noDirective

/-- A text is read as some lexemes, whatever follows it after such a character. -/
def ReadsAs (text : List Char) (ls : List Lexeme) : Prop :=
  ∀ ⦃ms rest⦄, Marked rest → Legible ms rest → Legible (ls ++ ms) (text ++ rest)

namespace ReadsAs

theorem plain {l : Lexeme} (hl : l.Plain) : ReadsAs l.text.toList [l] := by
  intro ms rest hrest h
  exact .lexeme (Piece.readBefore_of_endsAt hl.valid fun c hc => hl.endsAt (hrest c hc)) h

theorem name {text : String} (h : IsName text) : ReadsAs text.toList [.identifier text] :=
  plain h.plain

theorem number {text : String} (h : IsNumber text) : ReadsAs text.toList [.ofNumber text] :=
  plain h.plain

end ReadsAs

namespace Legible

variable {ls : List Lexeme} {rest : List Char} (h : Legible ls rest)

include h

theorem openParen : Legible (.openParen :: ls) ('(' :: rest) := by
  have hvalid : Lexeme.openParen.Valid := Lexeme.plain_marks.1.valid
  refine .lexeme (Piece.readBefore_of_endsAt hvalid fun c _ d hd => ?_) h
  obtain rfl : '(' = d := List.head_eq_of_cons_eq hd
  simp [Piece.pairKind]

theorem closeParen (hrest : Marked rest) : Legible (.closeParen :: ls) (')' :: rest) :=
  ReadsAs.plain Lexeme.plain_marks.2.1 hrest h

theorem minus (hrest : ∀ c ∈ rest.head?, c ≠ '-') : Legible (.minus :: ls) ('-' :: rest) := by
  have hvalid : Lexeme.minus.Plain := by simp
  refine .lexeme (Piece.readBefore_of_endsAt hvalid.valid fun c hc d hd => ?_) h
  obtain rfl : '-' = d := List.head_eq_of_cons_eq hd
  simp [Piece.pairKind, hrest c hc]

end Legible

/-! ### What is written -/

theorem IsName.variableText {name : String} (h : IsName name) : IsName (variableText name) := by
  rcases variableText_cases name with ht | ht | ht
  · rw [ht]
    exact ⟨⟨by decide, List.all_eq_true.mp (by decide)⟩, by decide⟩
  · rw [ht]
    exact ⟨⟨by decide, List.all_eq_true.mp (by decide)⟩, by decide⟩
  · rwa [ht]

theorem isNumber_one : IsNumber "1" := .inl ⟨by decide, List.all_eq_true.mp (by decide)⟩

theorem ReadsAs.binary {left right : List Char} {ls ms : List Lexeme} (hleft : ReadsAs left ls)
    (op : BinaryOp) (hright : ReadsAs right ms) :
    ReadsAs ('(' :: (left ++ ' ' :: (op.symbol.toList ++ ' ' :: (right ++ [')']))))
      (.openParen :: (ls ++ op.lexeme :: ms) ++ [.closeParen]) := by
  intro ns rest hrest h
  have hblank {text : List Char} : Marked (' ' :: text) := marked_cons (by decide)
  have hoperand := hright (marked_cons (by decide)) (h.closeParen hrest)
  have hop := ReadsAs.plain op.plain_lexeme hblank (.blank (by decide) hoperand)
  have hall := (hleft hblank (.blank (by decide) hop)).openParen
  simpa [BinaryOp.lexeme] using hall

theorem toList_intercalate_cons (sep text : String) (texts : List String) :
    (sep.intercalate (text :: texts)).toList =
      text.toList ++ texts.flatMap fun t => sep.toList ++ t.toList := by
  rw [String.toList_intercalate]
  induction texts generalizing text with
  | nil => simp
  | cons t texts ih =>
      rw [List.map_cons, List.map_cons, List.intercalate_cons_cons, ← List.map_cons, ih]
      simp

mutual
/-- What is written for an expression is read as the lexemes of the normal expression. -/
theorem Expr.readsAs_toPython (e : Expr) (hwf : e.WellFormed) (hn : e.NegatesOnce) :
    ReadsAs e.toPython.toList e.normal.lexemes := by
  cases e with
  | number text => exact .number hwf
  | string text => exact .plain ⟨hwf, nofun⟩
  | name text => exact .name hwf.variableText
  | binary left op right =>
      have hbinary := (left.readsAs_toPython hwf.1 hn.1).binary op
        (right.readsAs_toPython hwf.2 hn.2)
      simpa [Expr.normal, Expr.lexemes, Expr.toPython] using hbinary
  | step op target =>
      have hbinary := (ReadsAs.name hwf.variableText).binary op.change (.number isNumber_one)
      simpa [Expr.normal, Expr.lexemes, Expr.toPython] using hbinary
  | call function args =>
      intro ls rest hrest h
      have hargs := Expr.legible_args args hwf.2 hn hrest h
      have hcall := ReadsAs.name hwf.1 (marked_cons (by decide)) hargs
      simpa [Expr.normal, Expr.lexemes, Expr.toPython, callText] using hcall
  | negate operand =>
      intro ls rest hrest h
      have hoperand := operand.readsAs_toPython hwf hn.2 hrest h
      obtain ⟨c, hc, hsign⟩ := Expr.starts_toPython (e := operand) hwf hn.1
      have hstart : ∀ d ∈ (operand.toPython.toList ++ rest).head?, d ≠ '-' := by
        rw [List.head?_append, hc]
        rintro d ⟨⟩
        exact hsign
      simpa [Expr.normal, Expr.lexemes, Expr.toPython] using hoperand.minus hstart
termination_by structural e

theorem Expr.legible_args (args : List Expr) (hwf : Expr.AllWellFormed args)
    (hn : Expr.AllNegateOnce args) {ls : List Lexeme} {rest : List Char} (hrest : Marked rest)
    (h : Legible ls rest) :
    Legible (Expr.argLexemes (Expr.listNormal args) ++ ls)
      ('(' :: ((", ".intercalate (Expr.listToPython args)).toList ++ ')' :: rest)) := by
  have hclose := h.closeParen hrest
  cases args with
  | nil => exact hclose.openParen
  | cons e es =>
      obtain ⟨hmarked, hrest⟩ :=
        Expr.legible_marked es hwf.2 hn.2 (marked_cons (by decide)) hclose
      have hall := (e.readsAs_toPython hwf.1 hn.1 hmarked hrest).openParen
      rw [Expr.listToPython, toList_intercalate_cons]
      simpa [Expr.listNormal, Expr.argLexemes] using hall
termination_by structural args

theorem Expr.legible_marked (es : List Expr) (hwf : Expr.AllWellFormed es)
    (hn : Expr.AllNegateOnce es) {ls : List Lexeme} {rest : List Char} (hrest : Marked rest)
    (h : Legible ls rest) :
    Marked ((Expr.listToPython es).flatMap (fun t => ", ".toList ++ t.toList) ++ rest) ∧
      Legible (Expr.markedLexemes .comma (Expr.listNormal es) ++ ls)
        ((Expr.listToPython es).flatMap (fun t => ", ".toList ++ t.toList) ++ rest) := by
  cases es with
  | nil => exact ⟨hrest, h⟩
  | cons e es =>
      obtain ⟨hmarked, hes⟩ := Expr.legible_marked es hwf.2 hn.2 hrest h
      have he := e.readsAs_toPython hwf.1 hn.1 hmarked hes
      have hcomma : Lexeme.comma.Plain := by simp
      have hall := ReadsAs.plain hcomma (marked_cons (by decide))
        (.blank (c := ' ') (by decide) he)
      refine ⟨marked_cons (c := ',') (by decide), ?_⟩
      simpa [Expr.listNormal, Expr.markedLexemes, Expr.listToPython, Lexeme.comma] using hall
termination_by structural es
end

/-! ### The expressions of sources -/

def Expr.OfSource (e : Expr) : Prop :=
  ∃ source p, Program.OfSource source p ∧ e ∈ Stmt.listExprs p

theorem LoopHead.WellFormed.exprs {head : LoopHead} (h : head.WellFormed) :
    ∀ e ∈ head.exprs, e.WellFormed := by
  intro e he
  simp only [LoopHead.exprs, List.mem_append, List.mem_flatMap, Option.mem_toList] at he
  rcases he with (⟨init, hinit, he⟩ | he) | ⟨update, hupdate, he⟩
  · have hwf := h.init init hinit
    cases init with
    | declare d => exact hwf.2 e (Option.mem_toList.mp he)
    | assign a =>
        cases List.mem_singleton.mp he
        exact hwf.2
  · exact h.condition e he
  · have hwf := h.update update hupdate
    cases update with
    | assign a =>
        cases List.mem_singleton.mp he
        exact hwf.2
    | step | evaluate =>
        cases List.mem_singleton.mp he
        exact hwf

mutual
theorem Stmt.WellFormed.exprs {stmt : Stmt} (h : stmt.WellFormed) :
    ∀ e ∈ stmt.exprs, e.WellFormed := by
  intro e he
  cases stmt with
  | function type name params body => exact Stmt.AllWellFormed.listExprs h.2.2 e he
  | declare d => exact h.2 e (Option.mem_toList.mp he)
  | assign a =>
      cases List.mem_singleton.mp he
      exact h.1.2
  | output values => exact h e he
  | input targets => cases he
  | step op target =>
      cases List.mem_singleton.mp he
      exact h
  | conditional condition body otherwise =>
      rcases List.mem_cons.mp he with rfl | he
      · exact h.1
      · rcases List.mem_append.mp he with he | he
        · exact Stmt.AllWellFormed.listExprs h.2.1 e he
        · exact Else.WellFormed.exprs h.2.2 e he
  | forLoop head body =>
      rcases List.mem_append.mp he with he | he
      · exact h.1.exprs e he
      · exact Stmt.AllWellFormed.listExprs h.2 e he
  | whileLoop condition body =>
      rcases List.mem_cons.mp he with rfl | he
      · exact h.1
      · exact Stmt.AllWellFormed.listExprs h.2 e he
  | result value => exact h e (Option.mem_toList.mp he)
  | call function args => exact h.2.2 e he
termination_by structural stmt

theorem Stmt.AllWellFormed.listExprs {stmts : List Stmt} (h : Stmt.AllWellFormed stmts) :
    ∀ e ∈ Stmt.listExprs stmts, e.WellFormed := by
  intro e he
  cases stmts with
  | nil => cases he
  | cons stmt stmts =>
      rcases List.mem_append.mp he with he | he
      · exact Stmt.WellFormed.exprs h.1 e he
      · exact Stmt.AllWellFormed.listExprs h.2 e he
termination_by structural stmts

theorem Else.WellFormed.exprs {otherwise : Else} (h : otherwise.WellFormed) :
    ∀ e ∈ otherwise.exprs, e.WellFormed := by
  intro e he
  cases otherwise with
  | nothing => cases he
  | block body => exact Stmt.AllWellFormed.listExprs h e he
  | elseIf condition body otherwise =>
      rcases List.mem_cons.mp he with rfl | he
      · exact h.1
      · rcases List.mem_append.mp he with he | he
        · exact Stmt.AllWellFormed.listExprs h.2.1 e he
        · exact Else.WellFormed.exprs h.2.2 e he
termination_by structural otherwise
end

theorem Expr.OfSource.wellFormed {e : Expr} (h : e.OfSource) : e.WellFormed := by
  obtain ⟨source, p, hp, he⟩ := h
  exact (wellFormed_of_ofSource hp).listExprs e he

mutual
/-- There are no more levels than expressions on the longest way down. -/
theorem Expr.levels_le_height (e : Expr) : e.levels ≤ e.height + 1 := by
  cases e with
  | number | string | name => exact Nat.zero_le _
  | step => exact Nat.le_succ 1
  | binary left op right =>
      have hleft : left.levels ≤ left.heightBy 1 + 1 := left.levels_le_height
      have hright : right.levels ≤ right.heightBy 1 + 1 := right.levels_le_height
      simp only [Expr.levels, Expr.height, Expr.heightBy]
      omega
  | call function args => exact Nat.succ_le_succ (Expr.listLevels_le_height args)
  | negate operand => exact Nat.succ_le_succ operand.levels_le_height
termination_by structural e

theorem Expr.listLevels_le_height (es : List Expr) :
    Expr.listLevels es ≤ Expr.argsHeightBy 1 es := by
  cases es with
  | nil => exact Nat.le_refl 0
  | cons e es =>
      have he : e.levels ≤ e.heightBy 1 + 1 := e.levels_le_height
      have hes := Expr.listLevels_le_height es
      simp only [Expr.listLevels, Expr.argsHeightBy]
      omega
termination_by structural es
end

end CppToPython
