import CppToPython.Proofs.Execution.Counting

/-! # What a body writes

Whether a loop becomes a range is a question of its head only. Whether the range does what the
loop does is a question of the variables that are written in its body, at any depth. Statements
run over stores of integers here. What is read from the input is any number, and what a called
function does to the store is left open.
-/

namespace CppToPython

open Emission

/-! ### Written variables -/

def LoopHead.writes (head : LoopHead) : List String :=
  (head.init.map LoopInit.name).toList ++ (head.update.bind LoopUpdate.target).toList

/-- What a call on its own does to the store. -/
structure Calls where
  /-- The variables that a function may write. -/
  writes : String → List String
  /-- A function that is called with some values may lead from one store to another. -/
  Leads : String → List Int → Store → Store → Prop
  eq_of_notMem {function args s t x} :
    Leads function args s t → x ∉ writes function → t x = s x

section

variable (C : Calls)

mutual
/-- The variables that a statement writes, or a statement inside it, or a function that one of
    them calls. -/
def Stmt.writes : Stmt → List String
  | .function _ _ _ body => Stmt.listWrites body
  | .declare d => [d.name]
  | .assign a => [a.name]
  | .input targets => targets
  | .step _ target => [target]
  | .conditional _ body otherwise => Stmt.listWrites body ++ otherwise.writes
  | .forLoop head body => head.writes ++ Stmt.listWrites body
  | .whileLoop _ body => Stmt.listWrites body
  | .call function _ => C.writes function
  | .output _ | .result _ => []

def Stmt.listWrites : List Stmt → List String
  | [] => []
  | stmt :: stmts => stmt.writes ++ Stmt.listWrites stmts

def Else.writes : Else → List String
  | .nothing => []
  | .block body => Stmt.listWrites body
  | .elseIf _ body otherwise => Stmt.listWrites body ++ otherwise.writes
end

theorem Else.listWrites_stmts (otherwise : Else) :
    Stmt.listWrites C otherwise.stmts = otherwise.writes C := by
  cases otherwise <;> simp [Else.stmts, Else.writes, Stmt.listWrites, Stmt.writes]

end

/-! ### Running statements -/

/-- A statement that leaves all variables as they are. -/
def Stmt.isIdle : Stmt → Bool
  | .function .. | .output _ => true
  | _ => false

/-- Statements run from a store to an outcome. A `while` loop is a `for` loop with a condition
    only. -/
inductive Stmt.Runs (E : Evaluation) (C : Calls) : List Stmt → Store → Outcome Store → Prop where
  | done {s} : Runs E C [] s ⟨s, false⟩
  | idle {stmt rest s o} : stmt.isIdle = true → Runs E C rest s o → Runs E C (stmt :: rest) s o
  | declare {d rest s t o} :
      Sets E d.name d.value s t → Runs E C rest t o → Runs E C (.declare d :: rest) s o
  | assign {a rest s t o} :
      Sets E a.name (some a.value) s t → Runs E C rest t o → Runs E C (.assign a :: rest) s o
  | inputEnds {rest s o} : Runs E C rest s o → Runs E C (.input [] :: rest) s o
  | input {name targets rest s t o} :
      Sets E name none s t → Runs E C (.input targets :: rest) t o →
        Runs E C (.input (name :: targets) :: rest) s o
  | step {op target rest s o} :
      Runs E C rest (Function.update s target (op.apply (s target))) o →
        Runs E C (.step op target :: rest) s o
  | call {function args rest s t o} :
      C.Leads function (Expr.listEval E s args) s t → Runs E C rest t o →
        Runs E C (.call function args :: rest) s o
  | result {value rest s} : Runs E C (.result value :: rest) s ⟨s, true⟩
  | conditional {condition body otherwise rest s t o} :
      Runs E C (if condition.eval E s ≠ 0 then body else otherwise.stmts) s ⟨t, false⟩ →
      Runs E C rest t o → Runs E C (.conditional condition body otherwise :: rest) s o
  | conditionalReturns {condition body otherwise rest s t} :
      Runs E C (if condition.eval E s ≠ 0 then body else otherwise.stmts) s ⟨t, true⟩ →
        Runs E C (.conditional condition body otherwise :: rest) s ⟨t, true⟩
  | whileLoop {condition body rest s o} :
      Runs E C (.forLoop ⟨none, some condition, none⟩ body :: rest) s o →
        Runs E C (.whileLoop condition body :: rest) s o
  | loopStarts {init condition update body rest s t o} :
      Sets E init.name init.value s t →
      Runs E C (.forLoop ⟨none, condition, update⟩ body :: rest) t o →
        Runs E C (.forLoop ⟨some init, condition, update⟩ body :: rest) s o
  | loopEnds {condition update body rest s o} :
      ¬ LoopHead.Holds E ⟨none, condition, update⟩ s → Runs E C rest s o →
        Runs E C (.forLoop ⟨none, condition, update⟩ body :: rest) s o
  | loop {condition update body rest s t o} :
      LoopHead.Holds E ⟨none, condition, update⟩ s → Runs E C body s ⟨t, false⟩ →
      Runs E C (.forLoop ⟨none, condition, update⟩ body :: rest)
        (LoopHead.advance E ⟨none, condition, update⟩ t) o →
        Runs E C (.forLoop ⟨none, condition, update⟩ body :: rest) s o
  | loopReturns {condition update body rest s t} :
      LoopHead.Holds E ⟨none, condition, update⟩ s → Runs E C body s ⟨t, true⟩ →
        Runs E C (.forLoop ⟨none, condition, update⟩ body :: rest) s ⟨t, true⟩

variable {E : Evaluation} {C : Calls}

theorem LoopHead.advance_eq_of_notMem {head : LoopHead} {x : String} (hx : x ∉ head.writes)
    (s : Store) : head.advance E s x = s x := by
  cases hu : head.update with
  | none => simp only [advance, hu]
  | some u =>
      simp only [advance, hu]
      apply u.run_eq_of_ne
      intro htarget
      apply hx
      simpa [writes, hu] using .inr htarget

/-- What a conditional does not write, neither of its branches does. -/
theorem Stmt.notMem_writes_chosen {condition : Expr} {body : List Stmt} {otherwise : Else}
    {x : String} (hx : x ∉ (Stmt.conditional condition body otherwise).writes C) (taken : Prop)
    [Decidable taken] : x ∉ Stmt.listWrites C (if taken then body else otherwise.stmts) := by
  rw [Stmt.writes, List.mem_append, not_or] at hx
  split
  · exact hx.1
  · rw [otherwise.listWrites_stmts C]
    exact hx.2

/-- A run leaves a variable as it was, if no statement writes it. -/
theorem Stmt.Runs.eq_of_notMem_writes {stmts : List Stmt} {s : Store} {o : Outcome Store}
    (h : Stmt.Runs E C stmts s o) {x : String} (hx : x ∉ Stmt.listWrites C stmts) :
    o.store x = s x := by
  induction h with
  | done | result => rfl
  | idle _ _ ih => exact ih fun hmem => hx (List.mem_append_right _ hmem)
  | declare hsets _ ih | assign hsets _ ih | input hsets _ ih =>
      simp only [Stmt.listWrites, Stmt.writes, List.cons_append, List.mem_cons, not_or] at hx
      exact (ih hx.2).trans (hsets.eq_of_ne hx.1)
  | inputEnds _ ih | whileLoop _ ih => exact ih hx
  | call hleads _ ih =>
      simp only [Stmt.listWrites, Stmt.writes, List.mem_append, not_or] at hx
      exact (ih hx.2).trans (C.eq_of_notMem hleads hx.1)
  | step _ ih =>
      simp only [Stmt.listWrites, Stmt.writes, List.cons_append, List.mem_cons, not_or] at hx
      exact (ih hx.2).trans (Function.update_of_ne hx.1 _ _)
  | conditional _ _ ihbranch ih =>
      rw [Stmt.listWrites, List.mem_append, not_or] at hx
      exact (ih hx.2).trans (ihbranch (Stmt.notMem_writes_chosen hx.1 _))
  | conditionalReturns _ ihbranch =>
      rw [Stmt.listWrites, List.mem_append, not_or] at hx
      exact ihbranch (Stmt.notMem_writes_chosen hx.1 _)
  | loopStarts hsets _ ih =>
      simp only [Stmt.listWrites, Stmt.writes, LoopHead.writes, Option.map_some,
        Option.toList_some, List.cons_append, List.mem_cons, not_or] at hx
      exact (ih hx.2).trans (hsets.eq_of_ne hx.1)
  | loopEnds _ _ ih => exact ih fun hmem => hx (List.mem_append_right _ hmem)
  | loop _ _ _ ihbody ih =>
      have hloop := hx
      simp only [Stmt.listWrites, Stmt.writes, List.mem_append, not_or] at hloop
      exact (ih hx).trans ((LoopHead.advance_eq_of_notMem hloop.1.1 _).trans (ihbody hloop.1.2))
  | loopReturns _ _ ihbody =>
      simp only [Stmt.listWrites, Stmt.writes, List.mem_append, not_or] at hx
      exact ihbody hx.1.2

/-! ### Loops and their ranges -/

theorem LoopHead.Iterates.stmtRuns {condition : Option Expr} {update : Option LoopUpdate}
    {init : Option LoopInit} {body : List Stmt} {s : Store} {visits : List Store}
    {o : Outcome Store}
    (h : LoopHead.Iterates E ⟨init, condition, update⟩ (Stmt.Runs E C body) s visits o) :
    Stmt.Runs E C [.forLoop ⟨none, condition, update⟩ body] s o := by
  induction h with
  | ends hends => exact .loopEnds hends .done
  | again hholds hbody _ ih => exact .loop hholds hbody ih
  | returns hholds hbody => exact .loopReturns hholds hbody

theorem Stmt.Runs.iterates {condition : Option Expr} {update : Option LoopUpdate}
    {body : List Stmt} {s : Store} {o : Outcome Store}
    (h : Stmt.Runs E C [.forLoop ⟨none, condition, update⟩ body] s o) (init : Option LoopInit) :
    ∃ visits, LoopHead.Iterates E ⟨init, condition, update⟩ (Stmt.Runs E C body) s visits o := by
  generalize hstmts : [Stmt.forLoop ⟨none, condition, update⟩ body] = stmts at h
  induction h with
  | done | declare | assign | inputEnds | input | step | call | result | conditional
  | conditionalReturns | whileLoop | loopStarts =>
      cases hstmts
  | idle hidle =>
      cases hstmts
      cases hidle
  | loopEnds hends hrest =>
      cases hstmts
      cases hrest with
      | done => exact ⟨[], .ends hends⟩
  | loop hholds hbody _ _ ih =>
      cases hstmts
      obtain ⟨visits, hvisits⟩ := ih rfl
      exact ⟨_, .again hholds hbody hvisits⟩
  | loopReturns hholds hbody =>
      cases hstmts
      exact ⟨_, .returns hholds hbody⟩

theorem Stmt.runs_forLoop {head : LoopHead} {body : List Stmt} {s : Store} {o : Outcome Store} :
    Stmt.Runs E C [.forLoop head body] s o ↔
      ∃ visits, head.Runs E (Stmt.Runs E C body) s visits o := by
  obtain ⟨init, condition, update⟩ := head
  cases init with
  | none =>
      constructor
      · intro h
        obtain ⟨visits, hvisits⟩ := h.iterates none
        exact ⟨visits, s, rfl, hvisits⟩
      · rintro ⟨visits, t, rfl, hvisits⟩
        exact hvisits.stmtRuns
  | some init =>
      constructor
      · intro h
        cases h with
        | idle hidle => cases hidle
        | loopStarts hsets hrest =>
            obtain ⟨visits, hvisits⟩ := hrest.iterates (some init)
            exact ⟨visits, _, hsets, hvisits⟩
      · rintro ⟨visits, t, hsets, hvisits⟩
        exact .loopStarts hsets hvisits.stmtRuns

/-- A loop through a range may rely on it: its variable is not in the bound, and its body writes
    neither the variable nor one that is in the bound. -/
def Range.Steady (C : Calls) (r : Range) (body : List Stmt) : Prop :=
  r.counter ∉ r.bound.names ∧ ∀ x ∈ Stmt.listWrites C body, x ≠ r.counter ∧ x ∉ r.bound.names

instance (C : Calls) (r : Range) (body : List Stmt) : Decidable (r.Steady C body) :=
  inferInstanceAs (Decidable (_ ∧ _))

theorem Range.Steady.keeps {r : Range} {body : List Stmt} (h : r.Steady C body) :
    r.Keeps E (Stmt.Runs E C body) where
  apart := h.1
  counter hbody := hbody.eq_of_notMem_writes fun hmem => (h.2 _ hmem).1 rfl
  bound hbody := by
    apply Expr.eval_congr
    intro x hx
    exact hbody.eq_of_notMem_writes fun hmem => (h.2 x hmem).2 hx

/-- A loop becomes a range if its head counts, and a comment if not, whatever its bound and its
    body are. If these are steady, the loop and the range start the body in the same stores and
    come to the same end, the variable of the loop apart. -/
theorem range_faithful_of_steady (head : LoopHead) (body : List Stmt) (depth : Nat) :
    ((¬ ∃ r, head.Counts r) →
        (Stmt.forLoop head body).toPython depth = [⟨depth, unsupportedLoopText⟩]) ∧
      ∀ r, head.Counts r →
        (Stmt.forLoop head body).toPython depth =
            ⟨depth, r.header⟩ :: Stmt.blockToPython (depth + 1) body ∧
          ∀ C, r.Steady C body → ∀ E s,
            (∀ o, Stmt.Runs E C [.forLoop head body] s o ↔
              ∃ visits, head.Runs E (Stmt.Runs E C body) s visits o) ∧
            ∀ visits,
              (∀ o, head.Runs E (Stmt.Runs E C body) s visits o →
                ∃ o', r.Runs E (Stmt.Runs E C body) s visits o' ∧ o.SameBut r.counter o') ∧
              ∀ o', r.Runs E (Stmt.Runs E C body) s visits o' →
                ∃ o, head.Runs E (Stmt.Runs E C body) s visits o ∧ o.SameBut r.counter o' := by
  refine ⟨fun hcounts => ?_, fun r hc => ⟨?_, fun C hsteady E s => ⟨?_, fun visits => ⟨?_, ?_⟩⟩⟩⟩
  · rw [Stmt.toPython, LoopHead.range?_eq_none hcounts]
  · rw [Stmt.toPython, LoopHead.range?_eq_some.mpr hc]
  · exact fun o => Stmt.runs_forLoop
  · exact fun o hloop => hloop.range hc hsteady.keeps
  · exact fun o' hrun => hrun.loop hc hsteady.keeps

def Calls.counting : Calls where
  writes _ := ["count"]
  Leads _ _ s t := t = Function.update s "count" (s "count" + 1)
  eq_of_notMem := by
    rintro _ _ _ _ x rfl hx
    exact Function.update_of_ne (by simpa using hx) _ _

def Stmt.readAndCall : List Stmt := [.input ["x"], .call "tally" [.name "x"]]

theorem range_faithful_of_steady_reading :
    LoopHead.fromTwo.Counts ⟨"i", .number "2", .name "n", true⟩ ∧
      Range.Steady .counting ⟨"i", .number "2", .name "n", true⟩ Stmt.readAndCall ∧
      ((Stmt.forLoop .fromTwo Stmt.readAndCall).toPython 1).head? =
        some ⟨1, "for i in range(2, n + 1):"⟩ ∧
      ∃ o, Stmt.Runs decimal .counting [.forLoop .fromTwo Stmt.readAndCall]
        (fun x => if x = "n" then 4 else 0) o ∧ o.store "count" = 3 := by
  have hcounts : LoopHead.fromTwo.Counts ⟨"i", .number "2", .name "n", true⟩ :=
    LoopHead.range?_eq_some.mp rfl
  have hsteady : Range.Steady .counting ⟨"i", .number "2", .name "n", true⟩ Stmt.readAndCall := by
    decide
  have hbody (s : Store) : Stmt.Runs decimal .counting Stmt.readAndCall s
      ⟨Function.update (Function.update s "x" 7) "count" (s "count" + 1), false⟩ :=
    .input ⟨7, nofun, rfl⟩ (.inputEnds (.call rfl .done))
  obtain ⟨hlines, hfaithful⟩ :=
    (range_faithful_of_steady .fromTwo Stmt.readAndCall 1).2 _ hcounts
  obtain ⟨hstmt, hvisits⟩ := hfaithful _ hsteady decimal fun x => if x = "n" then 4 else 0
  obtain ⟨o, hloop, hsame⟩ := (hvisits _).2 _
    (.again (hbody _) (.again (hbody _) (.again (hbody _) .ends)))
  refine ⟨hcounts, hsteady, ?_, o, (hstmt o).mpr ⟨_, hloop⟩, ?_⟩
  · rw [hlines]
    decide
  · rw [hsame.store "count" (by decide)]
    rfl

open Program (OfSource)

def Calls.none : Calls where
  writes _ := []
  Leads _ _ s t := t = s
  eq_of_notMem := by
    rintro _ _ _ _ x rfl _
    rfl

/-- Whether a statement becomes a loop through a range that is not steady. -/
def Stmt.isUnsteadyRange : Stmt → Bool
  | .forLoop head body => head.range?.any fun r => !decide (r.Steady .none body)
  | _ => false

/-- Nothing keeps a loop from becoming a range when its body writes the bound. -/
theorem exists_unsteady_range :
    ∃ p, OfSource "for (int i = 0; i < n; i++) { n = n - 1; }" p ∧
      (translate {} "for (int i = 0; i < n; i++) { n = n - 1; }").result =
        .ok "for i in range(0, n):\n    n = (n - 1)\n" ∧
      ∃ head body r, Stmt.forLoop head body ∈ p ∧ head.range? = some r ∧ ¬ r.Steady .none body := by
  have hsource : Program.passes (·.any Stmt.isUnsteadyRange)
      "for (int i = 0; i < n; i++) { n = n - 1; }" = true := by decide +kernel
  obtain ⟨p, hp, hany⟩ := Program.ofSource_of_passes hsource
  refine ⟨p, hp, by decide +kernel, ?_⟩
  obtain ⟨stmt, hmem, hstmt⟩ := List.any_eq_true.mp hany
  cases stmt with
  | forLoop head body =>
      cases hrange : head.range? with
      | none => simp [Stmt.isUnsteadyRange, hrange] at hstmt
      | some r =>
          refine ⟨head, body, r, hmem, hrange, ?_⟩
          simpa [Stmt.isUnsteadyRange, hrange] using hstmt
  | function | declare | assign | output | input | step | conditional | whileLoop | result | call =>
      cases hstmt

end CppToPython
