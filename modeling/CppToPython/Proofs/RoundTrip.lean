import CppToPython.Proofs.Grammar.Levels
import CppToPython.Proofs.Printing
import CppToPython.Proofs.Token.Spaced

/-! # Programs as texts

The programs that sources are, are the well-formed ones: each of them comes back from the
text it is written as, whatever the white space between its lexemes is.
-/

namespace CppToPython

/-! ### Plain lexemes -/

def AllPlain (ls : List Lexeme) : Prop := ∀ l ∈ ls, l.Plain

@[simp]
theorem allPlain_nil : AllPlain [] := List.forall_mem_nil _

@[simp]
theorem allPlain_cons {l : Lexeme} {ls : List Lexeme} :
    AllPlain (l :: ls) ↔ l.Plain ∧ AllPlain ls :=
  List.forall_mem_cons

@[simp]
theorem allPlain_append {ls ms : List Lexeme} : AllPlain (ls ++ ms) ↔ AllPlain ls ∧ AllPlain ms :=
  List.forall_mem_append

@[simp]
theorem allPlain_flatMap {α : Type} {items : List α} {lexemes : α → List Lexeme} :
    AllPlain (items.flatMap lexemes) ↔ ∀ a ∈ items, AllPlain (lexemes a) := by
  simp only [AllPlain, List.mem_flatMap]
  grind

theorem allPlain_getD {α : Type} {part : Option α} {lexemes : α → List Lexeme}
    (h : ∀ a ∈ part, AllPlain (lexemes a)) : AllPlain ((part.map lexemes).getD []) := by
  cases part with
  | none => exact allPlain_nil
  | some a => exact h a rfl

namespace Lexeme

@[simp]
theorem plain_marks :
    openParen.Plain ∧ closeParen.Plain ∧ openBrace.Plain ∧ closeBrace.Plain ∧ semicolon.Plain ∧
      comma.Plain ∧ equals.Plain ∧ minus.Plain ∧ shiftLeft.Plain ∧ shiftRight.Plain ∧
      (word "if").Plain ∧ (word "else").Plain ∧ (word "for").Plain ∧ (word "while").Plain ∧
      (word "return").Plain := by
  and_intros
  all_goals
    refine ⟨?_, by decide⟩
    simp [Valid, openParen, closeParen, openBrace, closeBrace, semicolon, comma, equals, minus,
      shiftLeft, shiftRight, word, reserved]

end Lexeme

@[simp]
theorem BinaryOp.plain_lexeme (op : BinaryOp) : op.lexeme.Plain := by
  refine ⟨?_, nofun⟩
  cases op <;> simp [Lexeme.Valid, BinaryOp.lexeme, BinaryOp.symbol]

@[simp]
theorem StepOp.plain_lexeme (op : StepOp) : op.lexeme.Plain := by
  refine ⟨?_, nofun⟩
  cases op <;> simp [Lexeme.Valid, StepOp.lexeme, StepOp.symbol]

@[simp]
theorem ValueType.plain_lexeme (type : ValueType) : type.lexeme.Plain := by
  refine ⟨?_, nofun⟩
  cases type <;> simp [Lexeme.Valid, ValueType.lexeme, ValueType.name, Lexeme.word, Lexeme.reserved]

@[simp]
theorem ReturnType.plain_lexeme (type : ReturnType) : type.lexeme.Plain := by
  cases type with
  | void => exact ⟨by simp [Lexeme.Valid, lexeme, name, Lexeme.word, Lexeme.reserved], nofun⟩
  | value type => exact type.plain_lexeme

theorem IsName.plain {name : String} (h : IsName name) : (Lexeme.identifier name).Plain :=
  ⟨h, nofun⟩

theorem IsNumber.plain {text : String} (h : IsNumber text) : (Lexeme.ofNumber text).Plain := by
  rcases h with hdigits | hfloat
  · have hpoint : '.' ∉ text.toList := fun hmem => absurd (hdigits.2 '.' hmem) (by decide)
    rw [Lexeme.ofNumber, if_neg hpoint]
    exact ⟨hdigits, by rintro ⟨⟩⟩
  · have hpoint : '.' ∈ text.toList := by
      obtain ⟨whole, fraction, htext, _⟩ := hfloat
      dsimp only at htext
      simp [htext]
    rw [Lexeme.ofNumber, if_pos hpoint]
    exact ⟨hfloat, by rintro ⟨⟩⟩

/-! ### The lexemes of well-formed programs -/

mutual
theorem Expr.plain_lexemes (e : Expr) (h : e.WellFormed) : AllPlain e.lexemes := by
  cases e with
  | number text => simpa [Expr.lexemes] using h.plain
  | string text => simpa [Expr.lexemes] using ⟨h, nofun⟩
  | name text => simpa [Expr.lexemes] using IsName.plain h
  | binary left op right =>
      have hl := Expr.plain_lexemes left h.1
      have hr := Expr.plain_lexemes right h.2
      simp [Expr.lexemes, hl, hr]
  | step op target =>
      have ht := IsName.plain h
      simp [Expr.lexemes, ht]
  | call function args =>
      simpa [Expr.lexemes] using ⟨h.1.plain, Expr.plain_argLexemes args h.2⟩
  | negate operand =>
      have ho := Expr.plain_lexemes operand h
      simp [Expr.lexemes, ho]
termination_by structural e

theorem Expr.plain_argLexemes (args : List Expr) (h : Expr.AllWellFormed args) :
    AllPlain (Expr.argLexemes args) := by
  cases args with
  | nil => simp [Expr.argLexemes]
  | cons e es =>
      have he := Expr.plain_lexemes e h.1
      have hcomma : Lexeme.comma.Plain := by simp
      have hes := Expr.plain_markedLexemes hcomma es h.2
      simp [Expr.argLexemes, he, hes]
termination_by structural args

theorem Expr.plain_markedLexemes {mark : Lexeme} (hmark : mark.Plain) (es : List Expr)
    (h : Expr.AllWellFormed es) : AllPlain (Expr.markedLexemes mark es) := by
  cases es with
  | nil => exact allPlain_nil
  | cons e es =>
      have he := Expr.plain_lexemes e h.1
      have hes := Expr.plain_markedLexemes hmark es h.2
      simp [Expr.markedLexemes, hmark, he, hes]
termination_by structural es
end

theorem Declaration.plain_lexemes {d : Declaration} (h : d.WellFormed) : AllPlain d.lexemes := by
  obtain ⟨type, name, value⟩ := d
  have hname := h.1.plain
  cases value with
  | none => simpa [Declaration.lexemes] using hname
  | some e => simpa [Declaration.lexemes] using ⟨hname, Expr.plain_lexemes e (h.2 e rfl)⟩

theorem Assignment.plain_lexemes {a : Assignment} (h : a.WellFormed) : AllPlain a.lexemes := by
  simpa [Assignment.lexemes] using ⟨h.1.plain, Expr.plain_lexemes a.value h.2⟩

theorem LoopHead.plain_lexemes {head : LoopHead} (h : head.WellFormed) :
    AllPlain head.lexemes := by
  have hinit : AllPlain ((head.init.map LoopInit.lexemes).getD []) := by
    refine allPlain_getD fun init hi => ?_
    cases init with
    | declare d => exact Declaration.plain_lexemes (h.init _ hi)
    | assign a => exact Assignment.plain_lexemes (h.init _ hi)
  have hcondition : AllPlain ((head.condition.map Expr.lexemes).getD []) :=
    allPlain_getD fun e he => e.plain_lexemes (h.condition e he)
  have hupdate : AllPlain ((head.update.map LoopUpdate.lexemes).getD []) := by
    refine allPlain_getD fun update hu => ?_
    have hwf := h.update update hu
    cases update with
    | assign a => exact Assignment.plain_lexemes hwf
    | step op target => simpa [LoopUpdate.lexemes] using IsName.plain hwf
    | evaluate e => exact e.plain_lexemes hwf
  simp [LoopHead.lexemes, hinit, hcondition, hupdate]

theorem Parameter.plain_listLexemes {params : List Parameter}
    (h : ∀ param ∈ params, IsName param.name) : AllPlain (Parameter.listLexemes params) := by
  cases params with
  | nil => exact allPlain_nil
  | cons param params =>
      obtain ⟨hparam, hparams⟩ := List.forall_mem_cons.mp h
      have hrest : ∀ param ∈ params, (Lexeme.identifier param.name).Plain :=
        fun param hp => (hparams param hp).plain
      simpa [Parameter.listLexemes, Parameter.lexemes] using ⟨hparam.plain, hrest⟩

theorem isName_streams : IsName "cout" ∧ IsName "cin" := by
  refine ⟨⟨?_, by decide⟩, ?_, by decide⟩
  all_goals simp [IsWord, Piece.isWordStart, Piece.isWordPart]

mutual
theorem Stmt.plain_lexemes (stmt : Stmt) (h : stmt.WellFormed) : AllPlain stmt.lexemes := by
  cases stmt with
  | function type name params body =>
      have hparams := Parameter.plain_listLexemes h.2.1
      have hbody := Stmt.plain_listLexemes body h.2.2
      simp [Stmt.lexemes, bracesAround, h.1.plain, hparams, hbody]
  | declare d => simpa [Stmt.lexemes] using Declaration.plain_lexemes h
  | assign a => simpa [Stmt.lexemes] using Assignment.plain_lexemes h.1
  | output values =>
      have hmark : Lexeme.shiftLeft.Plain := by simp
      have hvalues := Expr.plain_markedLexemes hmark values (Expr.allWellFormed_iff.mpr h)
      simp [Stmt.lexemes, hvalues, isName_streams.1.plain]
  | input targets =>
      have htargets : ∀ name ∈ targets, (Lexeme.identifier name).Plain :=
        fun name hname => (h name hname).plain
      simpa [Stmt.lexemes, isName_streams.2.plain] using htargets
  | step op target => simpa [Stmt.lexemes] using IsName.plain h
  | conditional condition body otherwise =>
      have hcondition := condition.plain_lexemes h.1
      have hbody := Stmt.plain_listLexemes body h.2.1
      have helse := Else.plain_lexemes otherwise h.2.2
      simp [Stmt.lexemes, conditionalLexemes, bracesAround, hcondition, hbody, helse]
  | forLoop head body =>
      have hhead := LoopHead.plain_lexemes h.1
      have hbody := Stmt.plain_listLexemes body h.2
      simp [Stmt.lexemes, bracesAround, hhead, hbody]
  | whileLoop condition body =>
      have hcondition := condition.plain_lexemes h.1
      have hbody := Stmt.plain_listLexemes body h.2
      simp [Stmt.lexemes, bracesAround, hcondition, hbody]
  | result value =>
      have hvalue := allPlain_getD fun e he => Expr.plain_lexemes e (h e he)
      simp [Stmt.lexemes, hvalue]
  | call function args =>
      have hargs := Expr.plain_argLexemes args (Expr.allWellFormed_iff.mpr h.2.2)
      simp [Stmt.lexemes, h.1.plain, hargs]
termination_by structural stmt

theorem Stmt.plain_listLexemes (stmts : List Stmt) (h : Stmt.AllWellFormed stmts) :
    AllPlain (Stmt.listLexemes stmts) := by
  cases stmts with
  | nil => exact allPlain_nil
  | cons stmt stmts =>
      simpa [Stmt.listLexemes] using
        ⟨Stmt.plain_lexemes stmt h.1, Stmt.plain_listLexemes stmts h.2⟩
termination_by structural stmts

theorem Else.plain_lexemes (otherwise : Else) (h : otherwise.WellFormed) :
    AllPlain otherwise.lexemes := by
  cases otherwise with
  | nothing => exact allPlain_nil
  | block body =>
      have hbody := Stmt.plain_listLexemes body h
      simp [Else.lexemes, bracesAround, hbody]
  | elseIf condition body otherwise =>
      have hcondition := condition.plain_lexemes h.1
      have hbody := Stmt.plain_listLexemes body h.2.1
      have helse := Else.plain_lexemes otherwise h.2.2
      simp [Else.lexemes, conditionalLexemes, bracesAround, hcondition, hbody, helse]
termination_by structural otherwise
end

/-! ### There and back -/

open Program (OfSource)

/-- Lexemes are one program at most, whatever the number of levels is. -/
theorem Derives.Program.unique_of_levels {m n : Nat} {ls : List Lexeme} {p q : CppToPython.Program}
    (hp : Derives.Program m ls p) (hq : Derives.Program n ls q) : p = q :=
  (Derives.Program.mono (Nat.le_max_left m n) hp).unique
    (Derives.Program.mono (Nat.le_max_right m n) hq)

/-- A source that is written with white space between its lexemes is the program that these
    are. -/
theorem ofSource_of_spaced {ls : List Lexeme} {source : String} (h : Spaced ls source.toList)
    (hplain : AllPlain ls) {p : Program} :
    OfSource source p ↔ Derives.Program nestingLimit ls p := by
  obtain ⟨tokens, htokens, rfl⟩ := h.scanFrom hplain .start
  rw [← Token.scan_eq_scanFrom] at htokens
  constructor
  · rintro ⟨tokens', htokens', hp⟩
    rw [htokens] at htokens'
    cases htokens'
    exact (run_program_eq_ok.mp (Program.parse_eq_ok.mp hp)).2
  · intro hp
    exact ⟨tokens, htokens, Program.parse_eq_ok.mpr (run_program_eq_ok.mpr ⟨rfl, hp⟩)⟩

/-- What a source is, is a well-formed program. And a well-formed program comes back from the
    text it is written as, if that is nested no deeper than the limit; no such text is another
    program. -/
theorem program_roundTrip :
    (∀ source p, OfSource source p → Stmt.AllWellFormed p) ∧
      ∀ p, Stmt.AllWellFormed p →
        ∀ source : String, Spaced (Stmt.listLexemes p) source.toList →
          (Stmt.listLevels p ≤ nestingLimit → OfSource source p) ∧
            ∀ q, OfSource source q → q = p := by
  refine ⟨fun _ _ h => wellFormed_of_ofSource h, ?_⟩
  intro p hwf source hspaced
  have hsource {q : Program} := ofSource_of_spaced hspaced (Stmt.plain_listLexemes p hwf) (p := q)
  constructor
  · intro hlevels
    exact hsource.mpr (Stmt.statements_lexemes p hwf hlevels)
  · intro q hq
    exact (hsource.mp hq).unique_of_levels (Stmt.statements_lexemes p hwf (Nat.le_refl _))

def spread (ls : List Lexeme) : List Char := ls.flatMap fun l => l.text.toList ++ [' ']

theorem spaced_spread (ls : List Lexeme) : Spaced ls (spread ls) := by
  induction ls with
  | nil => exact .nil
  | cons l ls ih =>
      rw [spread, List.flatMap_cons, List.append_assoc]
      refine .lexeme ?_ (.blank (by decide) ih)
      rintro c ⟨⟩
      decide

theorem program_roundTrip_loop :
    OfSource "for ( ; ; ( ++ i ) ) { x = - - 1 ; } "
      [.forLoop ⟨none, none, some (.evaluate (.step .increment "i"))⟩
        [.assign ⟨"x", .negate (.negate (.number "1"))⟩]] := by
  have hi : IsName "i" := ⟨⟨by decide, nofun⟩, by decide⟩
  have hx : IsName "x" := ⟨⟨by decide, nofun⟩, by decide⟩
  have hone : IsNumber "1" := .inl ⟨by decide, List.all_eq_true.mp (by decide)⟩
  have hstream : ¬ Derives.IsStream "x" := by simp [Derives.IsStream]
  refine (program_roundTrip.2 _ ?_ _ ?_).1 ?_
  · refine ⟨⟨⟨nofun, nofun, ?_⟩, ⟨⟨hx, hone⟩, hstream⟩, trivial⟩, trivial⟩
    rintro update ⟨⟩
    exact hi
  · exact spaced_spread _
  · decide

end CppToPython
