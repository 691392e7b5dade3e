import CppToPython.Emission.Program
import CppToPython.Proofs.Emission.Text

/-! # Tidy lines

The text of a line must not disturb the lines around it. It holds no line feed,
it does not start with a space, and its parentheses are closed, those in string
literals apart. All three come from the lexemes that the text is made of.
-/

namespace CppToPython

open Emission

/-! ### Parentheses -/

/-- Where a reader of Python is that counts open parentheses. -/
inductive ParenState where
  | code (opened : Nat)
  | quoted (opened : Nat)
  /-- After a backslash in a string literal. -/
  | escaped (opened : Nat)
  /-- After a parenthesis that closes nothing. -/
  | broken

def ParenState.next : ParenState → Char → ParenState
  | code n, '"' => quoted n
  | code n, '(' => code (n + 1)
  | code 0, ')' => broken
  | code (n + 1), ')' => code n
  | code n, _ => code n
  | quoted n, '"' => code n
  | quoted n, '\\' => escaped n
  | quoted n, _ => quoted n
  | escaped n, _ => quoted n
  | broken, _ => broken

/-- All parentheses outside of string literals are closed, and so are the literals. -/
def Balanced (text : List Char) : Prop :=
  text.foldl ParenState.next (.code 0) = .code 0

/-- A part of a line that has no line feed and closes what it opens. -/
structure Tidy (text : String) : Prop where
  inLine : '\n' ∉ text.toList
  closed : ∀ n, text.toList.foldl ParenState.next (.code n) = .code n

theorem Tidy.balanced {text : String} (h : Tidy text) : Balanced text.toList := h.closed 0

theorem Tidy.append {a b : String} (ha : Tidy a) (hb : Tidy b) : Tidy (a ++ b) where
  inLine := by simp [ha.inLine, hb.inLine]
  closed n := by rw [String.toList_append, List.foldl_append, ha.closed, hb.closed]

theorem Tidy.parens {text : String} (h : Tidy text) : Tidy ("(" ++ text ++ ")") where
  inLine := by simp [h.inLine]
  closed n := by
    rw [String.toList_append, String.toList_append, List.foldl_append, List.foldl_append]
    show (text.toList.foldl ParenState.next (.code (n + 1))).next ')' = .code n
    rw [h.closed]
    rfl

/-- Characters that mean nothing to the reader, and do not end the line either. -/
def isQuiet (c : Char) : Bool := c != '"' && c != '(' && c != ')' && c != '\n'

theorem ParenState.next_quiet {c : Char} (h : isQuiet c = true) (n : Nat) :
    (code n).next c = code n := by
  simp only [isQuiet, Bool.and_eq_true, bne_iff_ne] at h
  unfold next
  split <;> simp_all

theorem tidy_of_all {text : String} (h : text.toList.all isQuiet = true) : Tidy text where
  inLine := by
    intro hmem
    exact absurd (List.all_eq_true.mp h _ hmem) (by decide)
  closed n := by
    generalize text.toList = chars at h
    induction chars with
    | nil => rfl
    | cons c chars ih =>
        rw [List.all_cons, Bool.and_eq_true] at h
        rw [List.foldl_cons, ParenState.next_quiet h.1]
        exact ih h.2

theorem Tidy.intercalate {texts : List String} (h : ∀ text ∈ texts, Tidy text) :
    Tidy (String.intercalate ", " texts) := by
  induction texts with
  | nil => exact tidy_of_all (by decide)
  | cons text texts ih =>
      cases texts with
      | nil => simpa using h
      | cons next texts =>
          rw [String.intercalate_cons_cons]
          have hfirst := h text List.mem_cons_self
          have hrest := ih fun t ht => h t (List.mem_cons_of_mem text ht)
          exact (hfirst.append (tidy_of_all (by decide))).append hrest

/-! ### Names and literals -/

theorem isQuiet_of_isWordPart {c : Char} (h : Piece.isWordPart c = true) : isQuiet c = true := by
  simp only [isQuiet, Bool.and_eq_true, bne_iff_ne]
  refine ⟨⟨⟨?_, ?_⟩, ?_⟩, ?_⟩ <;> rintro rfl <;> exact absurd h (by decide)

theorem isQuiet_of_isDigit {c : Char} (h : c.isDigit = true) : isQuiet c = true :=
  isQuiet_of_isWordPart (by simp [Piece.isWordPart, Char.isAlphanum, h])

theorem IsName.tidy {text : String} (h : IsName text) : Tidy text :=
  tidy_of_all (List.all_eq_true.mpr fun c hc => isQuiet_of_isWordPart (h.isWordPart c hc))

theorem IsName.tidy_variableText {name : String} (h : IsName name) : Tidy (variableText name) := by
  rcases variableText_cases name with ht | ht | ht
  · rw [ht]
    exact tidy_of_all (by decide)
  · rw [ht]
    exact tidy_of_all (by decide)
  · rw [ht]
    exact h.tidy

theorem IsNumber.tidy {text : String} (h : IsNumber text) : Tidy text := by
  apply tidy_of_all
  rw [List.all_eq_true]
  intro c hc
  rcases h with hdigits | ⟨whole, fraction, htext, hwhole, hfraction⟩
  · exact isQuiet_of_isDigit (hdigits.2 c hc)
  · rw [htext, List.mem_append, List.mem_cons] at hc
    rcases hc with hc | rfl | hc
    · exact isQuiet_of_isDigit (hwhole.2 c hc)
    · decide
    · exact isQuiet_of_isDigit (hfraction.2 c hc)

theorem ClosesQuote.closed {text : List Char} (h : ClosesQuote text) (n : Nat) :
    text.foldl ParenState.next (.quoted n) = .code n := by
  induction h with
  | quote => rfl
  | @plain c text hquote hslash hline _ ih =>
      have hnext : (ParenState.quoted n).next c = .quoted n := by
        unfold ParenState.next
        split <;> simp_all
      rw [List.foldl_cons, hnext, ih]
  | escape _ _ ih => exact ih

theorem tidy_string {text : String} (h : Lexeme.Valid ⟨.string, text⟩) : Tidy text := by
  obtain ⟨rest, htext, hrest⟩ := h
  constructor
  · rw [htext]
    simp [hrest.inLine]
  · intro n
    rw [htext]
    exact hrest.closed n

/-! ### Expressions -/

theorem tidy_callText {function : String} {args : List String} (hf : Tidy function)
    (ha : ∀ text ∈ args, Tidy text) : Tidy (callText function args) := by
  have hcall := hf.append (Tidy.intercalate ha).parens
  simpa only [callText, String.append_assoc] using hcall

theorem BinaryOp.tidy (op : BinaryOp) : Tidy op.symbol := by
  cases op <;> exact tidy_of_all (by decide)

mutual
theorem Expr.tidy (e : Expr) (h : e.WellFormed) : Tidy e.toPython := by
  cases e with
  | number text => exact h.tidy
  | string text => exact tidy_string h
  | name text => exact h.tidy_variableText
  | binary left op right =>
      have hspace : Tidy " " := tidy_of_all (by decide)
      have hbody := (((Expr.tidy left h.1).append hspace).append op.tidy).append hspace
      have hparens := (hbody.append (Expr.tidy right h.2)).parens
      simpa only [Expr.toPython, String.append_assoc] using hparens
  | step op target =>
      have hspace : Tidy " " := tidy_of_all (by decide)
      have hone : Tidy " 1" := tidy_of_all (by decide)
      have hparens := (((h.tidy_variableText.append hspace).append op.change.tidy).append hone).parens
      have htext : " 1)" = " 1" ++ ")" := by decide
      simpa only [Expr.toPython, htext, String.append_assoc] using hparens
  | call function args => exact tidy_callText h.1.tidy (Expr.list_tidy args h.2)
  | negate operand =>
      have hminus : Tidy "-" := tidy_of_all (by decide)
      exact hminus.append (Expr.tidy operand h)
termination_by structural e

theorem Expr.list_tidy (es : List Expr) (h : Expr.AllWellFormed es) :
    ∀ text ∈ Expr.listToPython es, Tidy text := by
  cases es with
  | nil => simp [Expr.listToPython]
  | cons e es =>
      intro text ht
      rcases List.mem_cons.mp ht with rfl | ht
      · exact Expr.tidy e h.1
      · exact Expr.list_tidy es h.2 text ht
termination_by structural es
end

/-! ### Lines -/

/-- A text that can stand on a line of its own, whatever spaces stand before it. -/
structure StandsAlone (text : String) : Prop where
  tidy : Tidy text
  starts : Starts (· ≠ ' ') text

theorem not_space_of_isWordStart {c : Char} (h : Piece.isWordStart c = true) : c ≠ ' ' := by
  rintro rfl
  exact absurd h (by decide)

theorem standsAlone_name {name more : String}
    (hs : Starts (Piece.isWordStart · = true) name) (ht : Tidy (name ++ more)) :
    StandsAlone (name ++ more) :=
  ⟨ht, (hs.mono fun _ => not_space_of_isWordStart).append more⟩

theorem standsAlone_word (word : String) {more : String} (hw : word.toList.all isQuiet = true)
    (hs : Starts (· ≠ ' ') word) (ht : Tidy more) : StandsAlone (word ++ more) :=
  ⟨(tidy_of_all hw).append ht, hs.append more⟩

theorem standsAlone_pass : StandsAlone "pass" :=
  ⟨tidy_of_all (by decide), 'p', by decide, by decide⟩

theorem tidy_colon : Tidy ":" := tidy_of_all (by decide)

theorem standsAlone_assignText {name value : String} (hn : IsName name) (hv : Tidy value) :
    StandsAlone (assignText name value) := by
  have hequals : Tidy " = " := tidy_of_all (by decide)
  have htext := standsAlone_name hn.starts (hn.tidy.append (hequals.append hv))
  simpa only [assignText, String.append_assoc] using htext

theorem standsAlone_callText {function : String} {args : List String} (hf : IsName function)
    (ha : ∀ text ∈ args, Tidy text) : StandsAlone (callText function args) := by
  have htidy := tidy_callText hf.tidy ha
  rw [callText, String.append_assoc, String.append_assoc] at *
  exact standsAlone_name hf.starts htidy

theorem standsAlone_stepText (op : StepOp) {target : String} (h : IsName target) :
    StandsAlone (stepText op target) := by
  have hspace : Tidy " " := tidy_of_all (by decide)
  have hone : Tidy "= 1" := tidy_of_all (by decide)
  have hmore := (hspace.append op.change.tidy).append hone
  have htext := standsAlone_name h.starts_variableText (h.tidy_variableText.append hmore)
  simpa only [stepText, String.append_assoc] using htext

/-- The header of a range is a call of `range` between words. -/
theorem Range.header_eq (range : Range) :
    range.header = "for " ++ (range.counter ++ " in " ++ callText "range" [range.start.toPython,
      if range.inclusive then range.bound.toPython ++ " + 1" else range.bound.toPython] ++ ":") := by
  have hopen : " in range(" = " in " ++ ("range" ++ "(") := by decide
  have hclose : "):" = ")" ++ ":" := by decide
  simp only [header, callText, hopen, hclose, String.intercalate_cons_cons,
    String.intercalate_singleton, String.append_assoc]

theorem Range.standsAlone_header {range : Range} (hc : IsName range.counter)
    (hs : range.start.WellFormed) (hb : range.bound.WellFormed) : StandsAlone range.header := by
  have hstop : Tidy (if range.inclusive then range.bound.toPython ++ " + 1"
      else range.bound.toPython) := by
    split
    · exact (range.bound.tidy hb).append (tidy_of_all (by decide))
    · exact range.bound.tidy hb
  have hname : Tidy "range" := tidy_of_all (by decide)
  have hcall := tidy_callText hname (List.forall_mem_cons.mpr
    ⟨range.start.tidy hs, List.forall_mem_singleton.mpr hstop⟩)
  have hbetween : Tidy " in " := tidy_of_all (by decide)
  rw [header_eq]
  exact standsAlone_word "for " (by decide) ⟨'f', by decide, by decide⟩
    (((hc.tidy.append hbetween).append hcall).append tidy_colon)

/-- The parts of a range are parts of the head of its loop. -/
theorem LoopHead.range?_wellFormed {head : LoopHead} {range : Range} (hwf : head.WellFormed)
    (h : head.range? = some range) :
    IsName range.counter ∧ range.start.WellFormed ∧ range.bound.WellFormed := by
  obtain ⟨init, condition, update⟩ := head
  simp only [range?, Option.bind_eq_bind, Option.bind_eq_some_iff] at h
  obtain ⟨i, rfl, start, hstart, c, rfl, ⟨bound, inclusive⟩, hbound, u, rfl, hrange⟩ := h
  split at hrange
  · cases hrange
    refine ⟨?_, ?_, ?_⟩
    · have hinit := hwf.init i rfl
      cases i with
      | declare d => exact hinit.1
      | assign a => exact hinit.1
    · have hinit := hwf.init i rfl
      cases i with
      | declare d => exact hinit.2 start hstart
      | assign a =>
          cases hstart
          exact hinit.2
    · have hcondition := hwf.condition c rfl
      unfold Expr.upperBound? at hbound
      split at hbound
      · split at hbound <;> cases hbound
        exact hcondition.2
      · split at hbound <;> cases hbound
        exact hcondition.2
      · cases hbound
  · cases hrange

theorem Emission.mem_of_mem_printedLines {values line : List Expr} {e : Expr}
    (hl : line ∈ printedLines values) (he : e ∈ line) : e ∈ values := by
  fun_induction printedLines values generalizing line with
  | case1 => simp_all
  | case2 => simp_all
  | case3 => simp_all
  | case4 value next values =>
      rename_i ih
      rcases List.mem_cons.mp hl with rfl | hl
      · cases he
      · exact List.mem_cons_of_mem value (ih hl he)
  | case5 => simp_all
  | case6 value next values =>
      rename_i first lines hlines ih
      replace hlines : printedLines (next :: values) = first :: lines := hlines
      rw [hlines] at ih
      rcases List.mem_cons.mp hl with rfl | hl
      · rcases List.mem_cons.mp he with rfl | he
        · exact List.mem_cons_self
        · exact List.mem_cons_of_mem value (ih List.mem_cons_self he)
      · exact List.mem_cons_of_mem value (ih (List.mem_cons_of_mem first hl) he)

theorem Expr.list_tidy_of_forall {es : List Expr} (h : ∀ e ∈ es, e.WellFormed) :
    ∀ text ∈ Expr.listToPython es, Tidy text :=
  Expr.list_tidy es (Expr.allWellFormed_iff.mpr h)

theorem standsAlone_resultText {value : Option Expr} (h : ∀ e ∈ value, e.WellFormed) :
    StandsAlone (resultText value) := by
  cases value with
  | none => exact ⟨tidy_of_all (by decide), 'r', by decide, by decide⟩
  | some e =>
      exact standsAlone_word "return " (by decide) ⟨'r', by decide, by decide⟩ (e.tidy (h e rfl))

theorem standsAlone_header (depth : Nat) (word : String) {condition : Expr} {block : List Line}
    (hw : word.toList.all isQuiet = true) (hs : Starts (· ≠ ' ') word)
    (hc : condition.WellFormed) (hb : ∀ l ∈ block, StandsAlone l.text) :
    ∀ l ∈ Line.mk depth (word ++ condition.toPython ++ ":") :: block, StandsAlone l.text := by
  intro l hl
  rcases List.mem_cons.mp hl with rfl | hl
  · simpa only [String.append_assoc] using
      standsAlone_word word hw hs ((condition.tidy hc).append tidy_colon)
  · exact hb l hl

mutual
theorem Stmt.standsAlone (stmt : Stmt) (hwf : stmt.WellFormed) (depth : Nat) :
    ∀ l ∈ stmt.toPython depth, StandsAlone l.text := by
  cases stmt with
  | function type name params body =>
      have hparams : ∀ text ∈ params.map (·.name), Tidy text := by
        intro text ht
        obtain ⟨param, hp, rfl⟩ := List.mem_map.mp ht
        exact (hwf.2.1 param hp).tidy
      have hheader := standsAlone_word "def " (by decide) ⟨'d', by decide, by decide⟩
        ((tidy_callText hwf.1.tidy hparams).append tidy_colon)
      rw [← String.append_assoc] at hheader
      simpa [Stmt.toPython] using ⟨hheader, Stmt.block_standsAlone body hwf.2.2 (depth + 1)⟩
  | declare d =>
      obtain ⟨type, name, value⟩ := d
      have hvalue : Tidy ((value.map Expr.toPython).getD "None") := by
        cases value with
        | none => exact tidy_of_all (by decide)
        | some e => exact e.tidy (hwf.2 e rfl)
      simpa [Stmt.toPython] using standsAlone_assignText hwf.1 hvalue
  | assign a => simpa [Stmt.toPython] using standsAlone_assignText hwf.1.1 (a.value.tidy hwf.1.2)
  | output values =>
      intro l hl
      obtain ⟨line, hline, rfl⟩ := List.mem_map.mp hl
      have hargs := Expr.list_tidy_of_forall fun e he => hwf e (mem_of_mem_printedLines hline he)
      have hname : Tidy "print" := tidy_of_all (by decide)
      exact ⟨tidy_callText hname hargs, 'p', by simp [callText], by decide⟩
  | input targets =>
      intro l hl
      obtain ⟨name, hname, rfl⟩ := List.mem_map.mp hl
      have hcall : Tidy ("input" ++ ("(" ++ "" ++ ")")) :=
        (tidy_of_all (by decide)).append (tidy_of_all (by decide)).parens
      exact standsAlone_assignText (hwf name hname) hcall
  | step op target => simpa [Stmt.toPython] using standsAlone_stepText op hwf
  | conditional condition body otherwise =>
      have hbody := standsAlone_header depth "if " (by decide)
        ⟨'i', by decide, by decide⟩ hwf.1 (Stmt.block_standsAlone body hwf.2.1 (depth + 1))
      intro l hl
      rcases List.mem_append.mp hl with hl | hl
      · exact hbody l hl
      · exact Else.standsAlone otherwise hwf.2.2 depth l hl
  | forLoop head body =>
      cases hrange : head.range? with
      | none =>
          have hcomment : StandsAlone unsupportedLoopText :=
            ⟨tidy_of_all (by decide), '#', by decide, by decide⟩
          simpa [Stmt.toPython, hrange] using hcomment
      | some range =>
          obtain ⟨hc, hs, hb⟩ := LoopHead.range?_wellFormed hwf.1 hrange
          have hblock := Stmt.block_standsAlone body hwf.2 (depth + 1)
          simpa [Stmt.toPython, hrange] using ⟨range.standsAlone_header hc hs hb, hblock⟩
  | whileLoop condition body =>
      exact standsAlone_header depth "while " (by decide) ⟨'w', by decide, by decide⟩ hwf.1
        (Stmt.block_standsAlone body hwf.2 (depth + 1))
  | result value => simpa [Stmt.toPython] using standsAlone_resultText hwf
  | call function args =>
      simpa [Stmt.toPython] using standsAlone_callText hwf.1 (Expr.list_tidy_of_forall hwf.2.2)
termination_by structural stmt

theorem Stmt.block_standsAlone (stmts : List Stmt) (hwf : Stmt.AllWellFormed stmts) (depth : Nat) :
    ∀ l ∈ Stmt.blockToPython depth stmts, StandsAlone l.text := by
  cases stmts with
  | nil => simpa [Stmt.blockToPython] using standsAlone_pass
  | cons stmt stmts =>
      intro l hl
      rcases List.mem_append.mp hl with hl | hl
      · exact Stmt.standsAlone stmt hwf.1 depth l hl
      · exact Stmt.list_standsAlone stmts hwf.2 depth l hl
termination_by structural stmts

theorem Stmt.list_standsAlone (stmts : List Stmt) (hwf : Stmt.AllWellFormed stmts) (depth : Nat) :
    ∀ l ∈ Stmt.listToPython depth stmts, StandsAlone l.text := by
  cases stmts with
  | nil => nofun
  | cons stmt stmts =>
      intro l hl
      rcases List.mem_append.mp hl with hl | hl
      · exact Stmt.standsAlone stmt hwf.1 depth l hl
      · exact Stmt.list_standsAlone stmts hwf.2 depth l hl
termination_by structural stmts

theorem Else.standsAlone (otherwise : Else) (hwf : otherwise.WellFormed) (depth : Nat) :
    ∀ l ∈ otherwise.toPython depth, StandsAlone l.text := by
  cases otherwise with
  | nothing => nofun
  | block body =>
      cases body with
      | nil => nofun
      | cons stmt stmts =>
          have helse : StandsAlone "else:" := ⟨tidy_of_all (by decide), 'e', by decide, by decide⟩
          intro l hl
          rcases List.mem_cons.mp hl with rfl | hl
          · exact helse
          · exact Stmt.block_standsAlone (stmt :: stmts) hwf (depth + 1) l hl
  | elseIf condition body otherwise =>
      have hbody := standsAlone_header depth "elif " (by decide)
        ⟨'e', by decide, by decide⟩ hwf.1 (Stmt.block_standsAlone body hwf.2.1 (depth + 1))
      intro l hl
      rcases List.mem_append.mp hl with hl | hl
      · exact hbody l hl
      · exact Else.standsAlone otherwise hwf.2.2 depth l hl
termination_by structural otherwise
end

end CppToPython
