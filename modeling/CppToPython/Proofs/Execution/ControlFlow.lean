import CppToPython.Proofs.Execution.Branches

/-! # Control flow is kept

A program runs as the module that is written for it, read by its indentation: the same
branches are taken, loops end or do not, and `return` stops both.
-/

namespace CppToPython

open Emission

universe u

section

variable {σ : Type u} {I : Interpretation σ}

/-! ### What statements do, their lines do -/

theorem runs_leaves {texts : List String} (ht : ∀ text ∈ texts, Form.of text = .simple)
    {rest : List Node} {s : σ} {o : Outcome σ} (h : Node.Runs I rest (I.effects texts s) o) :
    Node.Runs I (texts.map .leaf ++ rest) s o := by
  induction texts generalizing s with
  | nil => exact h
  | cons text texts ih =>
      have htail := fun t hm => ht t (List.mem_cons_of_mem text hm)
      exact .simple (ht text List.mem_cons_self) (ih htail h)

theorem Lines.runs {stmts : List Stmt} {nodes : List Node} (hl : Lines stmts nodes) {s : σ}
    {o : Outcome σ} (h : Node.Runs I (Stmt.listForest stmts) s o) : Node.Runs I nodes s o := by
  cases hl with
  | list => exact h
  | pass => exact .pass Form.of_pass h

theorem runs_branch {condition : String} {block : List Node} {otherwise : Else} {s : σ}
    {o : Outcome σ}
    (h : Node.Runs I (.mk ("if " ++ condition ++ ":") block :: otherwise.forest) s o) :
    Node.Runs I (if I.holds condition s then block else Node.taken I s otherwise.forest) s o := by
  have hnil : Detached [] := nofun
  have hafter := otherwise.afterBranches_append hnil
  have hif := Form.of_if condition
  rw [List.append_nil] at hafter
  cases h with
  | pass hform | simple hform | result hform | loopEnds hform | loop hform | loopReturns hform =>
      rw [hif] at hform
      cases hform
  | branch hform hbranch hrest =>
      rw [hif] at hform
      cases hform
      rw [hafter] at hrest
      cases hrest
      exact hbranch
  | branchReturns hform hbranch =>
      rw [hif] at hform
      cases hform
      exact hbranch

theorem Else.runs_taken {otherwise : Else} {s : σ} {o : Outcome σ}
    (h : Node.Runs I (Stmt.listForest otherwise.stmts) s o) :
    Node.Runs I (Node.taken I s otherwise.forest) s o := by
  cases otherwise with
  | nothing => exact h
  | block body =>
      cases body with
      | nil => exact h
      | cons stmt stmts =>
          simp only [Else.forest, Node.taken, Form.of_else]
          exact h
  | elseIf condition body otherwise =>
      simp only [Else.forest, Node.taken, Form.of_elif]
      rw [Else.stmts, Stmt.listForest, Stmt.listForest, List.append_nil] at h
      exact runs_branch h

theorem runs_chosen {condition : Expr} {body : List Stmt} {otherwise : Else} {rest : List Node}
    (hr : Detached rest) {s : σ} {o : Outcome σ}
    (h : Node.Runs I (Stmt.listForest
      (if I.holds condition.toPython s then body else otherwise.stmts)) s o) :
    Node.Runs I (if I.holds condition.toPython s then Stmt.blockForest body
      else Node.taken I s (otherwise.forest ++ rest)) s o := by
  rw [otherwise.taken_append I hr]
  by_cases hholds : I.holds condition.toPython s = true
  · rw [if_pos hholds] at h ⊢
    exact (lines_block body).runs h
  · rw [if_neg hholds] at h ⊢
    exact Else.runs_taken h

theorem Runnable.chosen {condition : Expr} {body rest : List Stmt} {otherwise : Else}
    (h : Runnable (.conditional condition body otherwise :: rest)) (holds : Bool) :
    Runnable (if holds then body else otherwise.stmts) := by
  cases holds with
  | true => exact h.branches.1
  | false => exact h.branches.2.stmts

theorem Stmt.Executes.runs {stmts : List Stmt} {s : σ} {o : Outcome σ}
    (h : Stmt.Executes I stmts s o) (hrun : Runnable stmts) :
    Node.Runs I (Stmt.listForest stmts) s o := by
  induction h with
  | done => exact .done
  | simple hs _ ih =>
      rw [Stmt.listForest, Stmt.forest_of_isSimple hs]
      exact runs_leaves (Stmt.form_texts hrun.wellFormed.1 hs) (ih hrun.tail)
  | result => exact .result (Form.of_resultText _)
  | conditional _ _ ihbranch ihrest =>
      have hdetached := hrun.tail.detached
      rw [Stmt.listForest, Stmt.forest, List.cons_append]
      refine .branch (Form.of_if _) (runs_chosen hdetached (ihbranch (hrun.chosen _))) ?_
      rw [Else.afterBranches_append _ hdetached]
      exact ihrest hrun.tail
  | conditionalReturns _ ihbranch =>
      exact .branchReturns (Form.of_if _)
        (runs_chosen hrun.tail.detached (ihbranch (hrun.chosen _)))
  | loopEnds hcond _ ih => exact .loopEnds (Form.of_while _) hcond (ih hrun.tail)
  | loop hcond _ _ ihbody ihloop =>
      exact .loop (Form.of_while _) hcond ((lines_block _).runs (ihbody hrun.loop)) (ihloop hrun)
  | loopReturns hcond _ ihbody =>
      exact .loopReturns (Form.of_while _) hcond ((lines_block _).runs (ihbody hrun.loop))

/-! ### What lines do, their statements do -/

theorem executes_branch {condition : Expr} {body : List Stmt} {otherwise : Else} {s : σ}
    {o : Outcome σ}
    (h : Stmt.Executes I (if I.holds condition.toPython s then body else otherwise.stmts) s o) :
    Stmt.Executes I [.conditional condition body otherwise] s o := by
  obtain ⟨t, returned⟩ := o
  cases returned with
  | false => exact .conditional h .done
  | true => exact .conditionalReturns h

theorem Else.executes_stmts (otherwise : Else) {s : σ} {o : Outcome σ}
    (h : Stmt.Executes I (otherwise.chosen I s) s o) : Stmt.Executes I otherwise.stmts s o := by
  cases otherwise with
  | nothing => exact h
  | block body => exact h
  | elseIf condition body otherwise =>
      apply executes_branch
      rw [Else.chosen] at h
      split at h
      · rwa [if_pos ‹_›]
      · rw [if_neg ‹_›]
        exact Else.executes_stmts otherwise h
termination_by structural otherwise

theorem Else.runnable_chosen (otherwise : Else) (h : otherwise.Runnable) (s : σ) :
    CppToPython.Runnable (otherwise.chosen I s) := by
  cases otherwise with
  | nothing => exact h.stmts
  | block body => exact h.stmts
  | elseIf condition body otherwise =>
      rw [Else.chosen]
      split
      · exact h.branches.1
      · exact Else.runnable_chosen otherwise h.branches.2 s
termination_by structural otherwise

/-- Statements that a run has come to. Of a simple statement before them, some lines may
    still have to be run. -/
structure Reached (texts : List String) (stmts : List Stmt) (nodes : List Node) : Prop where
  simple : ∀ text ∈ texts, Form.of text = .simple
  runnable : Runnable stmts
  lines : ∃ own, Lines stmts own ∧ nodes = texts.map .leaf ++ own

theorem Runnable.reached {stmts : List Stmt} (h : Runnable stmts) {nodes : List Node}
    (hl : Lines stmts nodes) : Reached [] stmts nodes :=
  ⟨nofun, h, nodes, hl, rfl⟩

/-- What the first line can be, by its form, and the lines after it. -/
inductive Front : List String → List Stmt → Form → Node → List Node → Prop where
  | simple {text texts stmts nodes} : Lines stmts nodes →
      Front (text :: texts) stmts .simple (.mk text []) (texts.map .leaf ++ nodes)
  | pass : Front [] [] .pass (.mk "pass" []) []
  | result {value rest} :
      Front [] (.result value :: rest) .result (.mk (resultText value) []) (Stmt.listForest rest)
  | branch {condition body otherwise rest} :
      Front [] (.conditional condition body otherwise :: rest) (.ifHead condition.toPython)
        (.mk ("if " ++ condition.toPython ++ ":") (Stmt.blockForest body))
        (otherwise.forest ++ Stmt.listForest rest)
  | loop {condition body rest} :
      Front [] (.whileLoop condition body :: rest) (.whileHead condition.toPython)
        (.mk ("while " ++ condition.toPython ++ ":") (Stmt.blockForest body))
        (Stmt.listForest rest)

theorem Reached.eq_listForest {stmt : Stmt} {stmts : List Stmt} {nodes : List Node}
    (h : Reached [] (stmt :: stmts) nodes) : nodes = stmt.forest ++ Stmt.listForest stmts := by
  obtain ⟨own, hl, hnodes⟩ := h.lines
  cases hl
  exact hnodes

theorem Reached.of_simple {stmt : Stmt} {stmts : List Stmt} {nodes : List Node}
    (hs : stmt.isSimple = true) (h : Reached [] (stmt :: stmts) nodes) :
    Reached stmt.texts stmts nodes := by
  refine ⟨Stmt.form_texts h.runnable.wellFormed.1 hs, h.runnable.tail, _, .list stmts, ?_⟩
  rw [h.eq_listForest, Stmt.forest_of_isSimple hs]

theorem Reached.done {texts : List String} {stmts : List Stmt} (h : Reached texts stmts [])
    (s : σ) : Stmt.Executes I stmts (I.effects texts s) ⟨s, false⟩ := by
  induction stmts generalizing texts with
  | nil =>
      obtain ⟨own, _, hnodes⟩ := h.lines
      cases texts with
      | nil => exact .done
      | cons => cases hnodes
  | cons stmt stmts ih =>
      cases texts with
      | cons =>
          obtain ⟨own, _, hnodes⟩ := h.lines
          cases hnodes
      | nil =>
          have hlist := h.eq_listForest
          cases stmt with
          | function | forLoop => cases h.runnable.imperative
          | declare | assign | output | input | step | call =>
              exact .simple rfl (ih (h.of_simple rfl))
          | result | conditional | whileLoop =>
              simp [Stmt.forest, Stmt.texts, Stmt.toPython] at hlist

/-- The first line left belongs to statements from which the run goes on. -/
def Fronted (I : Interpretation σ) (texts : List String) (stmts : List Stmt) (form : Form)
    (node : Node) (more : List Node) : Prop :=
  ∃ texts' stmts', Front texts' stmts' form node more ∧
    (∀ t ∈ texts', Form.of t = .simple) ∧ Runnable stmts' ∧
    ∀ (s : σ) (o : Outcome σ), Stmt.Executes I stmts' (I.effects texts' s) o →
      Stmt.Executes I stmts (I.effects texts s) o

theorem Reached.fronted_of_text {first : String} {texts : List String} {stmts : List Stmt}
    {text : String} {block more : List Node}
    (h : Reached (first :: texts) stmts (.mk text block :: more)) :
    Fronted I (first :: texts) stmts (Form.of text) (.mk text block) more := by
  obtain ⟨own, hl, hnodes⟩ := h.lines
  cases hnodes
  refine ⟨_, stmts, ?_, h.simple, h.runnable, fun _ _ => id⟩
  rw [h.simple first List.mem_cons_self]
  exact .simple hl

/-- Simple statements without lines are passed until there is a line to run. -/
theorem Reached.fronted {texts : List String} {stmts : List Stmt} {text : String}
    {block more : List Node} {form : Form} (hform : Form.of text = form)
    (h : Reached texts stmts (.mk text block :: more)) :
    Fronted I texts stmts form (.mk text block) more := by
  subst hform
  induction stmts generalizing texts with
  | nil =>
      cases texts with
      | cons => exact h.fronted_of_text
      | nil =>
          obtain ⟨own, hl, hnodes⟩ := h.lines
          cases hl with
          | list => cases hnodes
          | pass =>
              cases hnodes
              exact ⟨[], [], .pass, nofun, h.runnable, fun _ _ => id⟩
  | cons stmt stmts ih =>
      cases texts with
      | cons => exact h.fronted_of_text
      | nil =>
          have hlist := h.eq_listForest
          cases stmt with
          | function | forLoop => cases h.runnable.imperative
          | declare | assign | output | input | step | call =>
              obtain ⟨texts', stmts', hfront, hs, hrun, hexec⟩ := ih (h.of_simple rfl)
              exact ⟨texts', stmts', hfront, hs, hrun, fun s o h => .simple rfl (hexec s o h)⟩
          | result value =>
              cases hlist
              refine ⟨[], _, ?_, nofun, h.runnable, fun _ _ => id⟩
              rw [Form.of_resultText]
              exact .result
          | conditional condition body otherwise =>
              cases hlist
              refine ⟨[], _, ?_, nofun, h.runnable, fun _ _ => id⟩
              rw [Form.of_if]
              exact .branch
          | whileLoop condition body =>
              cases hlist
              refine ⟨[], _, ?_, nofun, h.runnable, fun _ _ => id⟩
              rw [Form.of_while]
              exact .loop

theorem reached_chosen {condition : Expr} {body rest : List Stmt} {otherwise : Else}
    (h : Runnable (.conditional condition body otherwise :: rest)) (s : σ) :
    Reached [] ((Else.elseIf condition body otherwise).chosen I s)
      (if I.holds condition.toPython s then Stmt.blockForest body
        else Node.taken I s (otherwise.forest ++ Stmt.listForest rest)) := by
  have helse : (Else.elseIf condition body otherwise).Runnable :=
    ⟨by simpa [Else.isImperative] using And.intro h.branches.1.imperative h.branches.2.imperative,
      h.wellFormed.1⟩
  apply (Else.runnable_chosen _ helse s).reached
  have hlines := (Else.elseIf condition body otherwise).lines_taken I s
  simp only [Else.forest, Node.taken, Form.of_elif] at hlines
  rwa [otherwise.taken_append I h.tail.detached]

theorem executes_chosen {condition : Expr} {body : List Stmt} {otherwise : Else} {s : σ}
    {o : Outcome σ}
    (h : Stmt.Executes I ((Else.elseIf condition body otherwise).chosen I s) s o) :
    Stmt.Executes I (if I.holds condition.toPython s then body else otherwise.stmts) s o := by
  rw [Else.chosen] at h
  split at h
  · rwa [if_pos ‹_›]
  · rw [if_neg ‹_›]
    exact otherwise.executes_stmts h

theorem Node.Runs.executes {nodes : List Node} {s : σ} {o : Outcome σ}
    (h : Node.Runs I nodes s o) {texts : List String} {stmts : List Stmt}
    (hreached : Reached texts stmts nodes) : Stmt.Executes I stmts (I.effects texts s) o := by
  induction h generalizing texts stmts with
  | done => exact hreached.done _
  | pass hform _ ih =>
      obtain ⟨texts, stmts, hfront, _, hrun, hexec⟩ := hreached.fronted hform
      apply hexec
      cases hfront
      exact ih (hrun.reached (.list []))
  | simple hform _ ih =>
      obtain ⟨texts, stmts, hfront, hsimple, hrun, hexec⟩ := hreached.fronted hform
      apply hexec
      cases hfront with
      | simple hl =>
          exact ih ⟨fun t ht => hsimple t (List.mem_cons_of_mem _ ht), hrun, _, hl, rfl⟩
  | result hform =>
      obtain ⟨texts, stmts, hfront, _, _, hexec⟩ := hreached.fronted hform
      apply hexec
      cases hfront
      exact .result
  | branch hform _ _ ihbranch ihrest =>
      obtain ⟨texts, stmts, hfront, _, hrun, hexec⟩ := hreached.fronted hform
      apply hexec
      cases hfront with
      | branch =>
          rw [Else.afterBranches_append _ hrun.tail.detached] at ihrest
          exact .conditional (executes_chosen (ihbranch (reached_chosen hrun _)))
            (ihrest (hrun.tail.reached (.list _)))
  | branchReturns hform _ ihbranch =>
      obtain ⟨texts, stmts, hfront, _, hrun, hexec⟩ := hreached.fronted hform
      apply hexec
      cases hfront
      exact .conditionalReturns (executes_chosen (ihbranch (reached_chosen hrun _)))
  | loopEnds hform hcond _ ih =>
      obtain ⟨texts, stmts, hfront, _, hrun, hexec⟩ := hreached.fronted hform
      apply hexec
      cases hfront
      exact .loopEnds hcond (ih (hrun.tail.reached (.list _)))
  | loop hform hcond _ _ ihbody ihloop =>
      obtain ⟨texts, stmts, hfront, _, hrun, hexec⟩ := hreached.fronted hform
      apply hexec
      cases hfront
      exact .loop hcond (ihbody (hrun.loop.reached (lines_block _)))
        (ihloop (hrun.reached (.list _)))
  | loopReturns hform hcond _ ihbody =>
      obtain ⟨texts, stmts, hfront, _, hrun, hexec⟩ := hreached.fronted hform
      apply hexec
      cases hfront
      exact .loopReturns hcond (ihbody (hrun.loop.reached (lines_block _)))

theorem runs_iff_executes {stmts : List Stmt} (hrun : Runnable stmts) {s : σ} {o : Outcome σ} :
    Node.Runs I (Stmt.blockForest stmts) s o ↔ Stmt.Executes I stmts s o := by
  constructor
  · intro h
    exact h.executes (hrun.reached (lines_block stmts))
  · intro h
    exact (lines_block stmts).runs (h.runs hrun)

/-- Statements that reach an outcome reach no other. -/
theorem Stmt.Executes.unique {stmts : List Stmt} {s : σ} {o o' : Outcome σ}
    (h : Stmt.Executes I stmts s o) (h' : Stmt.Executes I stmts s o') : o = o' := by
  induction h generalizing o' with
  | done => cases h'; rfl
  | simple hs _ ih =>
      cases h' with
      | simple _ h' => exact ih h'
      | result | conditional | conditionalReturns | loopEnds | loop | loopReturns => cases hs
  | result =>
      cases h' with
      | simple hs => cases hs
      | result => rfl
  | conditional _ _ ihbranch ihrest =>
      cases h' with
      | simple hs => cases hs
      | conditional hbranch hrest =>
          cases ihbranch hbranch
          exact ihrest hrest
      | conditionalReturns hbranch => cases ihbranch hbranch
  | conditionalReturns _ ihbranch =>
      cases h' with
      | simple hs => cases hs
      | conditional hbranch hrest => cases ihbranch hbranch
      | conditionalReturns hbranch => exact ihbranch hbranch
  | loopEnds hcond _ ih =>
      cases h' with
      | simple hs => cases hs
      | loopEnds _ h' => exact ih h'
      | loop hcond' | loopReturns hcond' => simp [hcond] at hcond'
  | loop hcond _ _ ihbody ihloop =>
      cases h' with
      | simple hs => cases hs
      | loopEnds hcond' => simp [hcond] at hcond'
      | loop _ hbody hloop =>
          cases ihbody hbody
          exact ihloop hloop
      | loopReturns _ hbody => cases ihbody hbody
  | loopReturns hcond _ ihbody =>
      cases h' with
      | simple hs => cases hs
      | loopEnds hcond' => simp [hcond] at hcond'
      | loop _ hbody => cases ihbody hbody
      | loopReturns _ hbody => exact ihbody hbody

end

/-! ### Whole programs -/

namespace Program

theorem any_isMain_of_imperative {p : Program} (h : Stmt.allImperative p = true) :
    p.any (·.isMain) = false := by
  induction p with
  | nil => rfl
  | cons stmt stmts ih =>
      simp only [Stmt.allImperative, Bool.and_eq_true] at h
      rw [List.any_cons, ih h.2, Bool.or_false]
      cases stmt with
      | function => cases h.1
      | declare | assign | output | input | step | conditional | forLoop | whileLoop | result
      | call =>
          rfl

theorem toPython_of_imperative {p : Program} (h : Stmt.allImperative p = true)
    (options : Options) : p.toPython options = p.toPython ⟨options.indentWidth, false⟩ := by
  simp only [toPython, items, any_isMain_of_imperative h, Bool.and_false]

theorem forestOfText_block {width : Nat} (hw : 0 < width) {p : Program}
    (hwf : Stmt.AllWellFormed p) (depth : Nat) :
    forestOfText width (renderLines width (Stmt.blockToPython depth p)) = p.forest := by
  rw [forestOfText, readLines_renderLines hw (Stmt.block_standsAlone p hwf depth),
    forest_blockToPython]

end Program

open Program (OfSource)

/-- The output, read by its indentation, runs to an outcome just when the program does, and
    so does the program as a block at any depth. -/
theorem translate_keeps_control_flow {options : Options} (hw : 0 < options.indentWidth)
    {source : String} {p : Program} (hp : OfSource source p)
    (himperative : Stmt.allImperative p = true) {σ : Type u} (I : Interpretation σ) :
    ∃ output, (translate options source).result = .ok output ∧
      (∀ s o, Node.Runs I (forestOfText options.indentWidth output) s o ↔
        Stmt.Executes I p s o) ∧
      (∀ depth s o, Node.Runs I (forestOfText options.indentWidth
          (renderLines options.indentWidth (Stmt.blockToPython depth p))) s o ↔
        Stmt.Executes I p s o) ∧
      ∀ s o o', Stmt.Executes I p s o → Stmt.Executes I p s o' → o = o' := by
  have hwf := wellFormed_of_ofSource hp
  have hrun : Runnable p := ⟨himperative, hwf⟩
  refine ⟨p.toPython options, translate_eq_ok.mpr ⟨p, hp, rfl⟩, ?_, ?_, ?_⟩
  · intro s o
    rw [Program.toPython_of_imperative himperative,
      @Program.forestOfText_toPython ⟨options.indentWidth, false⟩ rfl hw p hwf]
    exact runs_iff_executes hrun
  · intro depth s o
    rw [Program.forestOfText_block hw hwf]
    exact runs_iff_executes hrun
  · intro s o o' h h'
    exact h.unique h'

/-- A store that is counted down; whether it is at one can be asked for. -/
def countdown : Interpretation Nat where
  holds condition s := if condition = "last" then s == 1 else s != 0
  effect line s := if line = "n = (n - 1)" then s - 1 else s

theorem translate_keeps_control_flow_countdown :
    ∃ p, OfSource "while (n) { cin; n = n - 1; if (last) { return n; } }" p ∧
      Stmt.allImperative p = true ∧ Stmt.Executes countdown p 3 ⟨1, true⟩ := by
  have hsource : Program.passes Stmt.allImperative
      "while (n) { cin; n = n - 1; if (last) { return n; } }" = true := by
    decide +kernel
  have hresult : (translate {} "while (n) { cin; n = n - 1; if (last) { return n; } }").result =
      .ok "while n:\n    n = (n - 1)\n    if last:\n        return n\n" := by decide +kernel
  have hlines : readLines 4 "while n:\n    n = (n - 1)\n    if last:\n        return n\n".toList =
      [⟨0, "while n:"⟩, ⟨1, "n = (n - 1)"⟩, ⟨1, "if last:"⟩, ⟨2, "return n"⟩] := by
    decide +kernel
  have hforest : forestOfText 4 "while n:\n    n = (n - 1)\n    if last:\n        return n\n" =
      [.mk "while n:" [.mk "n = (n - 1)" [], .mk "if last:" [.mk "return n" []]]] := by
    rw [forestOfText, hlines]
    simp [forest]
  have hwhile : Form.of "while n:" = .whileHead "n" := by decide
  have hif : Form.of "if last:" = .ifHead "last" := by decide
  have hstep : Form.of "n = (n - 1)" = .simple := by decide
  obtain ⟨p, hp, himperative⟩ := Program.ofSource_of_passes hsource
  obtain ⟨output, houtput, hruns, _⟩ :=
    translate_keeps_control_flow (show 0 < ({} : Options).indentWidth by decide) hp himperative
      countdown
  rw [hresult] at houtput
  cases houtput
  refine ⟨p, hp, himperative, (hruns _ _).mp ?_⟩
  show Node.Runs countdown (forestOfText 4 _) 3 ⟨1, true⟩
  rw [hforest]
  exact .loop hwhile rfl (.simple hstep (.branch hif .done .done))
    (.loopReturns hwhile rfl (.simple hstep (.branchReturns hif (.result (by decide)))))

end CppToPython
