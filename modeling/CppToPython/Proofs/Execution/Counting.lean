import CppToPython.Emission.Range
import CppToPython.Proofs.Execution.Evaluation
import CppToPython.Proofs.Execution.Semantics
import Mathlib.Data.Int.Range

/-! # Counting loops and ranges

A counting loop looks at its bound before every iteration and at its variable after it, while
Python makes the list of all values beforehand. If the body leaves both alone, the two start
the body in the same stores, one after the other.
-/

namespace CppToPython

/-! ### The heads of counting loops -/

/-- The updates that add one to a variable. -/
def Range.updates (name : String) : List LoopUpdate :=
  [.step .increment name, .evaluate (.step .increment name),
    .assign ⟨name, .binary (.name name) .add (.number "1")⟩,
    .assign ⟨name, .binary (.number "1") .add (.name name)⟩]

/-- The head of a loop that counts through a range. -/
structure LoopHead.Counts (head : LoopHead) (r : Range) : Prop where
  init : ∃ i, head.init = some i ∧ i.name = r.counter ∧ i.value = some r.start
  condition : head.condition =
    some (.binary (.name r.counter) (if r.inclusive then .le else .lt) r.bound)
  update : ∃ u ∈ Range.updates r.counter, head.update = some u

theorem Expr.isVariable_iff {name : String} {e : Expr} :
    e.isVariable name = true ↔ e = .name name := by
  cases e <;> simp [isVariable]

theorem Expr.isOne_iff {e : Expr} : e.isOne = true ↔ e = .number "1" := by
  cases e <;> simp [isOne]

theorem LoopUpdate.addsOne_iff {name : String} {u : LoopUpdate} :
    u.addsOne name = true ↔ u ∈ Range.updates name := by
  fun_cases addsOne name u with
  | case1 op target => simp [Range.updates]
  | case2 op target => simp [Range.updates]
  | case3 target left right =>
      simp [Range.updates, Expr.isVariable_iff, Expr.isOne_iff, and_or_left]
  | case4 u hstep hevaluate hassign =>
      simp only [Range.updates, List.mem_cons, List.not_mem_nil, or_false, Bool.false_eq_true,
        false_iff]
      rintro (rfl | rfl | rfl | rfl)
      · exact hstep _ _ rfl
      · exact hevaluate _ _ rfl
      · exact hassign _ _ _ rfl
      · exact hassign _ _ _ rfl

theorem Expr.upperBound?_eq_some {name : String} {e bound : Expr} {inclusive : Bool} :
    e.upperBound? name = some (bound, inclusive) ↔
      e = .binary (.name name) (if inclusive then .le else .lt) bound := by
  unfold upperBound?
  cases inclusive <;> split <;> simp_all [isVariable_iff]

theorem LoopHead.range?_eq_some {head : LoopHead} {r : Range} :
    head.range? = some r ↔ head.Counts r := by
  obtain ⟨init, condition, update⟩ := head
  obtain ⟨counter, start, bound, inclusive⟩ := r
  simp only [range?, Option.bind_eq_bind, Option.bind_eq_some_iff]
  constructor
  · rintro ⟨i, rfl, first, hfirst, c, rfl, ⟨stop, reached⟩, hstop, u, rfl, hrange⟩
    split at hrange
    · rename_i hadds
      cases hrange
      exact ⟨⟨i, rfl, rfl, hfirst⟩, congrArg some (Expr.upperBound?_eq_some.mp hstop), u,
        LoopUpdate.addsOne_iff.mp hadds, rfl⟩
    · cases hrange
  · rintro ⟨⟨i, rfl, rfl, hstart⟩, rfl, u, hu, rfl⟩
    refine ⟨i, rfl, start, hstart, _, rfl, (bound, inclusive), Expr.upperBound?_eq_some.mpr rfl, u,
      rfl, ?_⟩
    rw [if_pos (LoopUpdate.addsOne_iff.mpr hu)]

theorem LoopHead.range?_eq_none {head : LoopHead} (h : ¬ ∃ r, head.Counts r) :
    head.range? = none := by
  rw [Option.eq_none_iff_forall_ne_some]
  intro r hrange
  exact h ⟨r, range?_eq_some.mp hrange⟩

/-! ### Running loops -/

/-- What a body does: the outcomes it can come to from a store. -/
abbrev Behaviour := Store → Outcome Store → Prop

section Running

variable (E : Evaluation)

/-- The iterations of a loop, with the stores that they start in. -/
inductive LoopHead.Iterates (head : LoopHead) (body : Behaviour) :
    Store → List Store → Outcome Store → Prop where
  | ends {s} : ¬ head.Holds E s → Iterates head body s [] ⟨s, false⟩
  | again {s t visits o} :
      head.Holds E s → body s ⟨t, false⟩ → Iterates head body (head.advance E t) visits o →
        Iterates head body s (s :: visits) o
  | returns {s t} :
      head.Holds E s → body s ⟨t, true⟩ → Iterates head body s [s] ⟨t, true⟩

/-- A loop from its first initializer on. -/
def LoopHead.Runs (head : LoopHead) (body : Behaviour) (s : Store) (visits : List Store)
    (o : Outcome Store) : Prop :=
  ∃ t, head.Starts E s t ∧ head.Iterates E body t visits o

namespace Range

/-- The value that the variable does not reach. -/
def stop (r : Range) (s : Store) : Int := r.bound.eval E s + if r.inclusive then 1 else 0

/-- The expression of that value, as Python has it. -/
def stopExpr (r : Range) : Expr :=
  if r.inclusive then .binary r.bound .add (.number "1") else r.bound

/-- The values of the variable, as Python lists them before the loop. -/
def values (r : Range) (s : Store) : List Int := Int.range (r.start.eval E s) (r.stop E s)

/-- The iterations of a Python loop over values, with the stores that they start in. -/
inductive Iterates (counter : String) (body : Behaviour) :
    List Int → Store → List Store → Outcome Store → Prop where
  | ends {s} : Iterates counter body [] s [] ⟨s, false⟩
  | again {x xs s t visits o} :
      body (Function.update s counter x) ⟨t, false⟩ → Iterates counter body xs t visits o →
        Iterates counter body (x :: xs) s (Function.update s counter x :: visits) o
  | returns {x xs s t} :
      body (Function.update s counter x) ⟨t, true⟩ →
        Iterates counter body (x :: xs) s [Function.update s counter x] ⟨t, true⟩

/-- The Python loop over a range. -/
def Runs (r : Range) (body : Behaviour) (s : Store) (visits : List Store) (o : Outcome Store) :
    Prop :=
  Iterates r.counter body (r.values E s) s visits o

/-- A body that leaves the variable and the bound as they are, and a bound that does the same
    when the variable changes. -/
structure Keeps (r : Range) (body : Behaviour) : Prop where
  apart : r.counter ∉ r.bound.names
  counter {s t} : body s ⟨t, false⟩ → t r.counter = s r.counter
  bound {s t} : body s ⟨t, false⟩ → r.bound.eval E t = r.bound.eval E s

end Range

/-- Two outcomes that differ in one variable at most, and in none after a `return`. -/
structure Outcome.SameBut (name : String) (o o' : Outcome Store) : Prop where
  returned : o.returned = o'.returned
  store : ∀ x ≠ name, o.store x = o'.store x
  final : o.returned = true → o.store = o'.store

/-! ### Ranges -/

theorem intRange_eq_nil {a b : Int} (h : b ≤ a) : Int.range a b = [] := by
  have hcount : (b - a).toNat = 0 := by omega
  rw [Int.range, hcount, List.range_zero, List.map_nil]

theorem intRange_eq_cons {a b : Int} (h : a < b) : Int.range a b = a :: Int.range (a + 1) b := by
  have hcount : (b - a).toNat = (b - (a + 1)).toNat + 1 := by omega
  rw [Int.range, hcount, List.range_succ_eq_map, List.map_cons, List.map_map, Int.range]
  congr 1
  · simp
  · apply List.map_congr_left
    intro n _
    rw [Function.comp_apply]
    omega

theorem lt_of_intRange_eq_cons {a b x : Int} {xs : List Int} (h : Int.range a b = x :: xs) :
    a < b := by
  by_contra hle
  rw [intRange_eq_nil (Int.not_lt.mp hle)] at h
  cases h

/-! ### Counting loops as ranges -/

namespace LoopHead.Counts

variable {E} {head : LoopHead} {r : Range} (h : head.Counts r) {s t : Store}

include h

theorem starts_iff : head.Starts E s t ↔ t = Function.update s r.counter (r.start.eval E s) := by
  obtain ⟨init, hinit, hname, hvalue⟩ := h.init
  rw [Starts, hinit, ← hname]
  dsimp only
  rw [hvalue, sets_some]

theorem holds_iff : head.Holds E s ↔ s r.counter < r.stop E s := by
  simp only [Holds, h.condition, Range.stop, Option.mem_def, Option.some.injEq, forall_eq']
  cases r.inclusive with
  | false => simp [Expr.eval, BinaryOp.apply]
  | true =>
      simp only [Expr.eval, BinaryOp.apply, if_true, truth_ne_zero]
      omega

theorem advance_eq : head.advance E s = Function.update s r.counter (s r.counter + 1) := by
  obtain ⟨u, hu, hupdate⟩ := h.update
  rw [advance, hupdate]
  simp only [Range.updates, List.mem_cons, List.not_mem_nil, or_false] at hu
  rcases hu with rfl | rfl | rfl | rfl
  · rfl
  · rfl
  · simp [LoopUpdate.run, Expr.eval, BinaryOp.apply, E.number_one]
  · simp [LoopUpdate.run, Expr.eval, BinaryOp.apply, E.number_one, Int.add_comm]

end LoopHead.Counts

namespace Range

variable {E} {r : Range} {body : Behaviour} {s t : Store}

theorem eval_stopExpr (r : Range) (s : Store) : r.stopExpr.eval E s = r.stop E s := by
  rw [stopExpr, stop]
  cases r.inclusive with
  | false => simp
  | true => simp [Expr.eval, BinaryOp.apply, E.number_one]

/-- The head that is written has the first value and the last one in it, the latter without
    parentheses around it. -/
theorem exists_header_eq (r : Range) :
    ∃ text, (text = r.stopExpr.toPython ∨ "(" ++ text ++ ")" = r.stopExpr.toPython) ∧
      r.header = "for " ++ r.counter ++ " in range(" ++ r.start.toPython ++ ", " ++ text ++ "):" := by
  rw [stopExpr, header]
  cases r.inclusive with
  | false => exact ⟨_, .inl rfl, rfl⟩
  | true => exact ⟨_, .inr (by simp [Expr.toPython, BinaryOp.symbol, ← String.toList_inj]), rfl⟩

theorem Keeps.stop_update (hk : r.Keeps E body) (x : Int) :
    r.stop E (Function.update s r.counter x) = r.stop E s := by
  rw [stop, stop, Expr.eval_update E hk.apart]

theorem Keeps.stop_eq (hk : r.Keeps E body) (hbody : body s ⟨t, false⟩) :
    r.stop E t = r.stop E s := by
  rw [stop, stop, hk.bound hbody]

end Range

section

variable {E} {head : LoopHead} {r : Range} {body : Behaviour} (hc : head.Counts r)
  (hk : r.Keeps E body)

include hc hk

/-- What comes after an iteration: the variable is one higher, and the bound is where it was. -/
theorem LoopHead.Counts.next {s t : Store} (hbody : body s ⟨t, false⟩) :
    Function.update t r.counter (head.advance E t r.counter) = head.advance E t ∧
      head.advance E t r.counter = s r.counter + 1 ∧ r.stop E (head.advance E t) = r.stop E s := by
  rw [hc.advance_eq, Function.update_self, hk.stop_update, hk.stop_eq hbody, hk.counter hbody]
  exact ⟨rfl, rfl, rfl⟩

/-- The iterations of a counting loop are those over the values from its variable on. Python does
    not need to know the variable: `before` may have any value for it. -/
theorem LoopHead.Iterates.range {s before : Store} {visits : List Store} {o : Outcome Store}
    (h : head.Iterates E body s visits o)
    (hbefore : Function.update before r.counter (s r.counter) = s) :
    ∃ o', Range.Iterates r.counter body (Int.range (s r.counter) (r.stop E s)) before visits o' ∧
      o.SameBut r.counter o' := by
  induction h generalizing before with
  | @ends s hstop =>
      rw [hc.holds_iff, Int.not_lt] at hstop
      rw [intRange_eq_nil hstop]
      refine ⟨_, .ends, rfl, ?_, nofun⟩
      intro x hx
      rw [← hbefore]
      exact Function.update_of_ne hx _ _
  | @again s t visits o hholds hbody _ ih =>
      obtain ⟨hstore, hcounter, hstop⟩ := hc.next hk hbody
      obtain ⟨o', hrange, hsame⟩ := ih hstore
      rw [hcounter, hstop] at hrange
      rw [← hbefore] at hbody
      have hagain := Range.Iterates.again hbody hrange
      rw [hbefore, ← intRange_eq_cons (hc.holds_iff.mp hholds)] at hagain
      exact ⟨o', hagain, hsame⟩
  | @returns s t hholds hbody =>
      rw [← hbefore] at hbody
      have hreturns : Range.Iterates r.counter body
          (s r.counter :: Int.range (s r.counter + 1) (r.stop E s)) before _ _ := .returns hbody
      rw [hbefore, ← intRange_eq_cons (hc.holds_iff.mp hholds)] at hreturns
      exact ⟨_, hreturns, rfl, fun _ _ => rfl, fun _ => rfl⟩

theorem Range.Iterates.loop {xs : List Int} {s before : Store} {visits : List Store}
    {o' : Outcome Store} (h : Range.Iterates r.counter body xs before visits o')
    (hxs : Int.range (s r.counter) (r.stop E s) = xs)
    (hbefore : Function.update before r.counter (s r.counter) = s) :
    ∃ o, head.Iterates E body s visits o ∧ o.SameBut r.counter o' := by
  induction h generalizing s with
  | @ends before =>
      have hends : ¬ head.Holds E s := by
        intro hholds
        rw [intRange_eq_cons (hc.holds_iff.mp hholds)] at hxs
        cases hxs
      refine ⟨_, .ends hends, rfl, ?_, nofun⟩
      intro x hx
      rw [← hbefore]
      exact Function.update_of_ne hx _ _
  | @again x xs before t visits o' hbody _ ih =>
      have hlt := lt_of_intRange_eq_cons hxs
      obtain ⟨rfl, rfl⟩ := List.cons.inj ((intRange_eq_cons hlt).symm.trans hxs)
      rw [hbefore] at hbody ⊢
      obtain ⟨hstore, hcounter, hstop⟩ := hc.next hk hbody
      obtain ⟨o, hloop, hsame⟩ := ih (by rw [hcounter, hstop]) hstore
      exact ⟨o, .again (hc.holds_iff.mpr hlt) hbody hloop, hsame⟩
  | @returns x xs before t hbody =>
      have hlt := lt_of_intRange_eq_cons hxs
      obtain ⟨rfl, rfl⟩ := List.cons.inj ((intRange_eq_cons hlt).symm.trans hxs)
      rw [hbefore] at hbody ⊢
      exact ⟨_, .returns (hc.holds_iff.mpr hlt) hbody, rfl, fun _ _ => rfl, fun _ => rfl⟩

theorem LoopHead.Runs.range {s : Store} {visits : List Store} {o : Outcome Store}
    (h : head.Runs E body s visits o) :
    ∃ o', r.Runs E body s visits o' ∧ o.SameBut r.counter o' := by
  obtain ⟨t, hstarts, hiterates⟩ := h
  rw [hc.starts_iff] at hstarts
  subst hstarts
  have hrange := hiterates.range hc hk (by rw [Function.update_self])
  rwa [Function.update_self, hk.stop_update] at hrange

theorem Range.Runs.loop {s : Store} {visits : List Store} {o' : Outcome Store}
    (h : r.Runs E body s visits o') :
    ∃ o, head.Runs E body s visits o ∧ o.SameBut r.counter o' := by
  have hxs : Int.range (Function.update s r.counter (r.start.eval E s) r.counter)
      (r.stop E (Function.update s r.counter (r.start.eval E s))) = r.values E s := by
    rw [Function.update_self, hk.stop_update, Range.values]
  obtain ⟨o, hloop, hsame⟩ := Range.Iterates.loop hc hk h hxs (by rw [Function.update_self])
  exact ⟨o, ⟨_, hc.starts_iff.mpr rfl, hloop⟩, hsame⟩

end

/-! ### Bodies that are functions -/

/-- A body that changes the store by a function, and does not return. -/
def Transforms (f : Store → Store) : Behaviour := fun s o => o = ⟨f s, false⟩

variable {E} {head : LoopHead} {r : Range} {f : Store → Store}

theorem Range.exists_iterates (counter : String) (f : Store → Store) (xs : List Int) (s : Store) :
    ∃ visits t, Range.Iterates counter (Transforms f) xs s visits ⟨t, false⟩ := by
  induction xs generalizing s with
  | nil => exact ⟨[], s, .ends⟩
  | cons x xs ih =>
      obtain ⟨visits, t, hrest⟩ := ih (f (Function.update s counter x))
      exact ⟨_, t, .again rfl hrest⟩

/-- Without a `return`, all values are visited. -/
theorem Range.Iterates.map_counter {counter : String} {body : Behaviour} {xs : List Int}
    {s : Store} {visits : List Store} {o : Outcome Store}
    (h : Range.Iterates counter body xs s visits o) (hreturned : o.returned = false) :
    visits.map (· counter) = xs := by
  induction h with
  | ends => rfl
  | again _ _ ih => rw [List.map_cons, ih hreturned, Function.update_self]
  | returns => cases hreturned

theorem LoopHead.Iterates.unique {s : Store} {visits visits' : List Store} {o o' : Outcome Store}
    (h : head.Iterates E (Transforms f) s visits o)
    (h' : head.Iterates E (Transforms f) s visits' o') : visits' = visits ∧ o' = o := by
  induction h generalizing visits' o' with
  | ends hends =>
      cases h' with
      | ends => exact ⟨rfl, rfl⟩
      | again hholds | returns hholds => exact absurd hholds hends
  | again hholds hbody _ ih =>
      cases h' with
      | ends hends => exact absurd hholds hends
      | again _ hbody' hrest' =>
          cases hbody
          cases hbody'
          obtain ⟨rfl, rfl⟩ := ih hrest'
          exact ⟨rfl, rfl⟩
      | returns _ hbody' => cases hbody'
  | returns _ hbody => cases hbody

/-- A counting loop comes to an end, if its body leaves the variable and the bound alone, and it
    goes through the same stores as the loop over the range that is written for it. The values of
    the variable are those that the range lists beforehand, and these are the values of the two
    expressions in the head of that loop. -/
theorem counting_loop_visits_range (hrange : head.range? = some r)
    (hbound : r.counter ∉ r.bound.names) (hcounter : ∀ s, f s r.counter = s r.counter)
    (hkeeps : ∀ s, r.bound.eval E (f s) = r.bound.eval E s) (s : Store) :
    ∃ visits t, head.Runs E (Transforms f) s visits ⟨t, false⟩ ∧
      (∀ visits' o, head.Runs E (Transforms f) s visits' o → visits' = visits ∧ o = ⟨t, false⟩) ∧
      visits.map (· r.counter) = r.values E s ∧
      (∃ t', r.Runs E (Transforms f) s visits ⟨t', false⟩) ∧
      ∃ (stop : Expr) (text : String), (text = stop.toPython ∨ "(" ++ text ++ ")" = stop.toPython) ∧
        r.header =
          "for " ++ r.counter ++ " in range(" ++ r.start.toPython ++ ", " ++ text ++ "):" ∧
        r.values E s = Int.range (r.start.eval E s) (stop.eval E s) := by
  have hc := LoopHead.range?_eq_some.mp hrange
  have hk : r.Keeps E (Transforms f) := by
    refine ⟨hbound, ?_, ?_⟩
    · rintro s t ⟨⟩
      exact hcounter s
    · rintro s t ⟨⟩
      exact hkeeps s
  obtain ⟨visits, t', hpython⟩ := Range.exists_iterates r.counter f (r.values E s) s
  obtain ⟨⟨t, returned⟩, hloop, hsame⟩ := Range.Runs.loop hc hk hpython
  obtain rfl : returned = false := hsame.returned
  obtain ⟨text, htext, hheader⟩ := r.exists_header_eq
  refine ⟨visits, t, hloop, ?_, hpython.map_counter rfl, ⟨t', hpython⟩, r.stopExpr, text, htext,
    hheader, by rw [r.eval_stopExpr, Range.values]⟩
  rintro visits' o ⟨start', hstart', hiterates'⟩
  obtain ⟨start, hstart, hiterates⟩ := hloop
  rw [hc.starts_iff] at hstart hstart'
  subst hstart hstart'
  exact hiterates.unique hiterates'

end Running

/-- Numbers in decimal; there are no functions, and strings are worth nothing. -/
def decimal : Evaluation where
  number text := text.toList.foldl (fun n c => 10 * n + (c.toNat - '0'.toNat : Nat)) 0
  number_one := by decide
  string _ := 0
  call _ _ := 0
  divide := Int.tdiv
  remainder := Int.tmod

def LoopHead.fromTwo : LoopHead where
  init := some (.declare ⟨.int, "i", some (.number "2")⟩)
  condition := some (.binary (.name "i") .le (.name "n"))
  update := some (.assign ⟨"i", .binary (.number "1") .add (.name "i")⟩)

theorem counting_loop_visits_range_sum :
    ∃ visits t, LoopHead.fromTwo.Runs decimal
        (Transforms fun s => Function.update s "sum" (s "sum" + s "i"))
        (fun x => if x = "n" then 4 else 0) visits ⟨t, false⟩ ∧
      visits.map (· "i") = [2, 3, 4] := by
  have hrange : LoopHead.fromTwo.range? = some ⟨"i", .number "2", .name "n", true⟩ := by
    rfl
  have hother {name : String} (hname : name ≠ "sum") (s : Store) :
      Function.update s "sum" (s "sum" + s "i") name = s name :=
    Function.update_of_ne hname _ _
  obtain ⟨visits, t, hruns, _, hvalues, _, _⟩ :=
    counting_loop_visits_range (E := decimal)
      (f := fun s => Function.update s "sum" (s "sum" + s "i")) hrange (by decide)
      (hother (by decide)) (hother (by decide)) (fun x => if x = "n" then 4 else 0)
  exact ⟨visits, t, hruns, hvalues⟩

end CppToPython
