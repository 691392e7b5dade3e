import CppToPython.Proofs.Concatenation

/-! # Parsing in a session

A session carries the rules out step by step. It counts the tokens it has read and the levels it
is deep, and refuses to go deeper by its own count. A rule that is carried out does what its
parser does, and leaves the session as deep as it was, whether it succeeds or fails. So a session
can be asked again after any answer, and answers as if the tokens that are left were all.
-/

namespace CppToPython

/-- The tokens, how many of them have been read, and how many levels deep the reading is. -/
@[ext]
structure Session where
  tokens : List Token
  read : Nat
  depth : Nat
  read_le : read ≤ tokens.length

namespace Session

def start (tokens : List Token) : Session := ⟨tokens, 0, 0, Nat.zero_le _⟩

def left (s : Session) : List Token := s.tokens.drop s.read

/-- The error of expecting something at the next token. At the end of the tokens it is reported
    at the last of them all. -/
def error (s : Session) (expected : Expectation) : ParseError :=
  .ofRest expected s.tokens s.left

def peek (s : Session) (n : Nat) : Option Token := s.tokens[s.read + n]?

/-- Passes over the next token, if there is one. -/
def skip (s : Session) : Session :=
  { s with read := min (s.read + 1) s.tokens.length, read_le := Nat.min_le_right _ _ }

def enter (s : Session) : Session := { s with depth := s.depth + 1 }

def leave (s : Session) : Session := { s with depth := s.depth - 1 }

end Session

/-- What is done in a session: its answer, and the session after it. -/
def Action (α : Type) : Type := Session → Except ParseError α × Session

namespace Action

variable {α β γ : Type}

def done (a : α) : Action α := fun s => (.ok a, s)

def andThen (m : Action α) (f : α → Action β) : Action β := fun s =>
  match m s with
  | (.ok a, t) => f a t
  | (.error e, t) => (.error e, t)

def refuse (expected : Expectation) : Action α := fun s => (.error (s.error expected), s)

/-- Goes one level deeper and comes back, or refuses to. -/
def nested (m : Action α) : Action α := fun s =>
  if nestingLimit ≤ s.depth then refuse .nesting s
  else
    let (answer, t) := m s.enter
    (answer, t.leave)

/-- Chooses an item by the next token, again and again, but no more than `bound` times. -/
def loop (stop : Token → Bool) (expected : Expectation) (choose : Token → Option γ)
    (item : γ → Action α) : (bound : Nat) → Action (List α)
  | 0 => done []
  | bound + 1 => fun s =>
      match s.peek 0 with
      | none => (.ok [], s)
      | some token =>
          if stop token then (.ok [], s)
          else
            match choose token with
            | none => refuse expected s
            | some c =>
                andThen (item c)
                  (fun a => andThen (loop stop expected choose item bound) fun as => done (a :: as))
                  s.skip

end Action

/-- Carries a rule out, with what is done for what is one level deeper. -/
def Rule.action (deeper : {β : Type} → Nested β → Action β) : {α : Type} → Rule α → Action α
  | _, done a => .done a
  | _, andThen r f => .andThen (r.action deeper) fun a => (f a).action deeper
  | _, refuse expected => .refuse expected
  | _, ahead n => fun s => (.ok (s.peek n), s)
  | _, skip => fun s => (.ok (), s.skip)
  | _, nested n => .nested (deeper n)
  | _, loop stop expected choose item => fun s =>
      Action.loop stop expected choose (fun c => (item c).action deeper)
        (s.tokens.length - s.read) s

/-- Carries out what is one level deeper. The recursion is bounded by `levels`, which are never
    used up when they are as many as the session has left. -/
def Nested.action : (levels : Nat) → {α : Type} → Nested α → Action α
  | 0, _, _ => .refuse .nesting
  | levels + 1, _, n => n.rule.action (Nested.action levels)

/-! ### Sessions and what rules leave -/

namespace Session

variable {α : Type} (s : Session)

def leaving (rest : List Token) : Session :=
  { s with read := s.tokens.length - rest.length, read_le := Nat.sub_le _ _ }

/-- What a rule makes of the tokens that are left, as an answer of the session. -/
def outcome : Except (Expectation × List Token) (α × List Token) → Except ParseError α × Session
  | .ok (a, rest) => (.ok a, s.leaving rest)
  | .error (expected, rest) => (.error ((s.leaving rest).error expected), s.leaving rest)

theorem length_left : s.left.length = s.tokens.length - s.read := by
  simp [left]

theorem leaving_left : s.leaving s.left = s := by
  have hread := s.read_le
  ext1
  · rfl
  · simp only [leaving, length_left]
    omega
  · rfl

theorem outcome_ok_left (a : α) : s.outcome (.ok (a, s.left)) = (.ok a, s) := by
  rw [outcome, leaving_left]

theorem outcome_error_left (expected : Expectation) :
    s.outcome (.error (expected, s.left) : Except _ (α × List Token)) =
      (.error (s.error expected), s) := by
  rw [outcome, leaving_left]

theorem left_leaving {rest : List Token} (h : rest <:+ s.left) : (s.leaving rest).left = rest :=
  (List.suffix_iff_eq_drop.mp (h.trans (List.drop_suffix _ _))).symm

theorem outcome_leaving (rest : List Token)
    (result : Except (Expectation × List Token) (α × List Token)) :
    (s.leaving rest).outcome result = s.outcome result := by
  cases result with
  | ok => rfl
  | error => rfl

theorem leave_outcome_enter (result : Except (Expectation × List Token) (α × List Token)) :
    ((s.enter.outcome result).1, (s.enter.outcome result).2.leave) = s.outcome result := by
  cases result with
  | ok => rfl
  | error => rfl

theorem peek_eq (n : Nat) : s.peek n = s.left[n]? := by
  simp [peek, left]

theorem skip_eq_leaving : s.skip = s.leaving s.left.tail := by
  have hread := s.read_le
  ext1
  · rfl
  · simp only [skip, leaving, List.length_tail, length_left]
    omega
  · rfl

end Session

/-! ### Carrying out -/

namespace Action

variable {α β γ : Type} {levels : Nat}

/-- The action does in the session what the rule does with the tokens that are left, and leaves
    the session as deep as it was. -/
def DoesIn (levels : Nat) (s : Session) (m : Action α) (r : Rule α) : Prop :=
  m s = s.outcome (r.run levels s.left)

theorem DoesIn.done (s : Session) (a : α) : DoesIn levels s (.done a) (pure a) := by
  rw [DoesIn, Rule.run_pure, Session.outcome_ok_left]
  rfl

theorem DoesIn.refuse (levels : Nat) (s : Session) (expected : Expectation) :
    DoesIn levels s (.refuse expected) (Rule.refuse expected : Rule α) := by
  rw [DoesIn, Rule.run_refuse, Session.outcome_error_left]
  rfl

theorem DoesIn.andThen {s : Session} {m : Action α} {f : α → Action β} {r : Rule α}
    {g : α → Rule β} (hm : DoesIn levels s m r)
    (hf : ∀ a rest, rest <:+ s.left → DoesIn levels (s.leaving rest) (f a) (g a)) :
    DoesIn levels s (.andThen m f) (r >>= g) := by
  rw [DoesIn, Action.andThen, hm, Rule.run_bind]
  cases hrun : r.run levels s.left with
  | error e => rfl
  | ok result =>
      obtain ⟨a, rest⟩ := result
      have hsuffix := Rule.suffix_of_run_eq_ok hrun
      have hnext : f a (s.leaving rest) = _ := hf a rest hsuffix
      rw [s.left_leaving hsuffix, Session.outcome_leaving] at hnext
      exact hnext

theorem DoesIn.turn {s : Session} {token : Token} {ts : List Token} (hts : s.left = token :: ts)
    {m : Action α} {r : Rule α} (hm : DoesIn levels (s.leaving ts) m r)
    {others : Action (List α)} {more : Rule (List α)}
    (hothers : ∀ rest, rest <:+ ts → DoesIn levels (s.leaving rest) others more) :
    Action.andThen m (fun a => .andThen others fun as => .done (a :: as)) s.skip =
      s.outcome ((r >>= fun a => (a :: ·) <$> more).run levels ts) := by
  have hleft : (s.leaving ts).left = ts := s.left_leaving (hts ▸ List.suffix_cons token ts)
  have hitems : DoesIn levels (s.leaving ts)
      (.andThen m fun a => .andThen others fun as => .done (a :: as))
      (r >>= fun a => (a :: ·) <$> more) := by
    apply DoesIn.andThen hm
    intro a rest hrest
    rw [hleft] at hrest
    exact DoesIn.andThen (hothers rest hrest) fun as _ _ => DoesIn.done _ (a :: as)
  rw [DoesIn, hleft, Session.outcome_leaving] at hitems
  rw [Session.skip_eq_leaving, hts, List.tail_cons, hitems]

/-- A repetition takes no more turns than there are tokens left. -/
theorem DoesIn.loop {stop : Token → Bool} {expected : Expectation} {choose : Token → Option γ}
    {item : γ → Action α} {g : γ → Rule α} {s : Session}
    (hitem : ∀ c rest, DoesIn levels (s.leaving rest) (item c) (g c)) {bound : Nat}
    (hbound : s.left.length ≤ bound) :
    DoesIn levels s (Action.loop stop expected choose item bound)
      (Rule.loop stop expected choose g) := by
  induction bound generalizing s with
  | zero =>
      have hnil : s.left = [] := List.eq_nil_of_length_eq_zero (by omega)
      rw [DoesIn, hnil, Rule.run_loop_nil, ← hnil, Session.outcome_ok_left]
      rfl
  | succ bound ih =>
      rw [DoesIn]
      simp only [Action.loop, s.peek_eq]
      cases hts : s.left with
      | nil =>
          simp only [List.getElem?_nil, Rule.run_loop_nil]
          rw [← hts, Session.outcome_ok_left]
      | cons token ts =>
          have htoken : Symbol.token token = token := rfl
          simp only [List.getElem?_cons_zero, Rule.run_loop_cons, htoken]
          by_cases hstop : stop token = true
          · simp only [if_pos hstop]
            rw [← hts, Session.outcome_ok_left]
          simp only [if_neg hstop]
          cases choose token with
          | none =>
              simp only
              rw [← hts]
              exact DoesIn.refuse levels s expected
          | some c =>
              refine DoesIn.turn hts (hitem c ts) fun rest hrest => ?_
              apply ih (s := s.leaving rest) hitem
              have hlength := hrest.length_le
              rw [hts, List.length_cons] at hbound
              rw [s.left_leaving (hts ▸ hrest.trans (List.suffix_cons token ts))]
              omega

/-- The action does what the rule does in every session with `levels` levels left. -/
def Does (levels : Nat) (m : Action α) (r : Rule α) : Prop :=
  ∀ s : Session, s.depth + levels = nestingLimit → DoesIn levels s m r

theorem Does.nested_zero (m : Action α) (n : Nested α) : Does 0 (.nested m) (Rule.nested n) := by
  intro s hs
  rw [DoesIn, Action.nested, if_pos (by omega)]
  exact DoesIn.refuse 0 s .nesting

/-- The count goes up and down again, on the way out of an error too. -/
theorem Does.nested_succ {m : Action α} {n : Nested α} (h : Does levels m n.rule) :
    Does (levels + 1) (.nested m) (Rule.nested n) := by
  intro s hs
  have henter : s.enter.depth + levels = nestingLimit := by
    simp only [Session.enter]
    omega
  have hdeeper : m s.enter = s.enter.outcome (n.rule.run levels s.left) := h s.enter henter
  rw [DoesIn, Action.nested, if_neg (by omega), hdeeper, Rule.run_nested_succ]
  exact s.leave_outcome_enter (n.rule.run levels s.left)

end Action

/-- A rule is carried out as its parser reads, if what is one level deeper is. -/
theorem Rule.does_of {levels : Nat} {deeper : {β : Type} → Nested β → Action β}
    (hdeeper : ∀ {β : Type} (n : Nested β),
      Action.Does levels (.nested (deeper n)) (Rule.nested n))
    {α : Type} (r : Rule α) : Action.Does levels (r.action deeper) r := by
  induction r with
  | done a => exact fun s _ => .done s a
  | andThen r f ihr ihf =>
      intro s hs
      apply Action.DoesIn.andThen (ihr s hs)
      exact fun a rest _ => ihf a (s.leaving rest) hs
  | refuse expected => exact fun s _ => .refuse levels s expected
  | ahead n =>
      intro s _
      have hrun : (ahead n).run levels s.left = .ok (s.left[n]?.map id, s.left) := rfl
      rw [Action.DoesIn, hrun, Option.map_id_fun, id, ← s.peek_eq, Session.outcome_ok_left]
      rfl
  | skip =>
      intro s _
      exact congrArg (Prod.mk (Except.ok ())) s.skip_eq_leaving
  | nested n => exact hdeeper n
  | loop stop expected choose item ih =>
      intro s hs
      exact .loop (fun c rest => ih c (s.leaving rest) hs) (Nat.le_of_eq s.length_left)

theorem Rule.does (levels : Nat) {α : Type} (r : Rule α) :
    Action.Does levels (r.action (Nested.action levels)) r := by
  induction levels generalizing α with
  | zero => exact r.does_of fun n => .nested_zero (Nested.action 0 n) n
  | succ levels ih => exact r.does_of fun n => .nested_succ (ih n.rule)

/-! ### A whole program -/

namespace Session

def parse : Action Program := Grammar.program.action (Nested.action nestingLimit)

theorem parse_eq_outcome {s : Session} (h : s.depth = 0) :
    s.parse = s.outcome (Grammar.program.run nestingLimit s.left) :=
  Grammar.program.does nestingLimit s (by omega)

end Session

/-- As long as there are tokens left, the last of them is the last of all. -/
theorem ParseError.ofRest_drop (expected : Expectation) {tokens : List Token} {n : Nat}
    (h : n < tokens.length) (left : List Token) :
    ofRest expected (tokens.drop n) left = ofRest expected tokens left := by
  rw [ofRest, ofRest, List.getLast?_drop, if_neg (by omega)]

namespace Session

variable {s : Session}

theorem run_program_nil : Grammar.program.run nestingLimit ([] : List Token) = .ok ([], []) := by
  rw [← Program.parse_eq_ok_iff_run, Program.parse_eq_ok, run_program_eq_ok]
  exact ⟨rfl, .mk .nil⟩

theorem left_eq_nil (h : s.read = s.tokens.length) : s.left = [] := by
  simp [left, h]

/-- At the end of the tokens there is an empty program, again and again. -/
theorem parse_of_read_eq (hdepth : s.depth = 0) (h : s.read = s.tokens.length) :
    s.parse = (.ok [], s) := by
  have hnil := left_eq_nil h
  rw [parse_eq_outcome hdepth, hnil, run_program_nil, ← hnil, outcome_ok_left]

/-- A session answers what the tokens that are left answer by themselves, and leaves what they
    leave. -/
theorem parse_left (hdepth : s.depth = 0) :
    Program.parse (s.tokens.drop s.read) = (s.parse.1, s.tokens.drop s.parse.2.read) := by
  rw [parse_eq_outcome hdepth, Program.parse, ← left]
  cases hrun : Grammar.program.run nestingLimit s.left with
  | ok result =>
      have hrest : s.tokens.drop (s.leaving result.2).read = result.2 :=
        s.left_leaving (Rule.suffix_of_run_eq_ok hrun)
      simp only [outcome, hrest]
  | error e =>
      have hrest : s.tokens.drop (s.leaving e.2).read = e.2 :=
        s.left_leaving (Rule.suffix_of_run_eq_error hrun)
      have hread : s.read < s.tokens.length := by
        apply Nat.lt_of_le_of_ne s.read_le
        intro hend
        rw [left_eq_nil hend, run_program_nil] at hrun
        cases hrun
      have herror : ParseError.ofRest e.1 s.left e.2 = (s.leaving e.2).error e.1 := by
        rw [left, ParseError.ofRest_drop e.1 hread, error, s.left_leaving
          (Rule.suffix_of_run_eq_error hrun)]
        rfl
      simp only [outcome, hrest, herror]

theorem read_le_leaving {rest : List Token} (h : rest <:+ s.left) :
    s.read ≤ (s.leaving rest).read := by
  have hlength := h.length_le
  have hread := s.read_le
  rw [length_left] at hlength
  simp only [leaving]
  omega

theorem exists_leaving (hdepth : s.depth = 0) :
    ∃ rest, rest <:+ s.left ∧ s.parse.2 = s.leaving rest := by
  rw [parse_eq_outcome hdepth]
  cases hrun : Grammar.program.run nestingLimit s.left with
  | ok result => exact ⟨result.2, Rule.suffix_of_run_eq_ok hrun, rfl⟩
  | error e => exact ⟨e.2, Rule.suffix_of_run_eq_error hrun, rfl⟩

theorem read_eq_of_ok {p : Program} (hdepth : s.depth = 0) (h : s.parse.1 = .ok p) :
    s.parse.2.read = s.tokens.length := by
  rw [parse_eq_outcome hdepth] at h ⊢
  cases hrun : Grammar.program.run nestingLimit s.left with
  | ok result =>
      obtain ⟨q, rest⟩ := result
      obtain rfl := rest_eq_nil_of_run_program hrun
      rfl
  | error e =>
      rw [hrun] at h
      cases h

/-! ### Any number of calls -/

def afterCalls (tokens : List Token) : (calls : Nat) → Session
  | 0 => start tokens
  | calls + 1 => (afterCalls tokens calls).parse.2

def answer (tokens : List Token) (calls : Nat) : Except ParseError Program :=
  (afterCalls tokens calls).parse.1

section

variable (tokens : List Token) (calls : Nat)

theorem afterCalls_keeps :
    (afterCalls tokens calls).tokens = tokens ∧ (afterCalls tokens calls).depth = 0 := by
  induction calls with
  | zero => exact ⟨rfl, rfl⟩
  | succ calls ih =>
      obtain ⟨rest, -, hnext⟩ := exists_leaving ih.2
      rw [afterCalls, hnext]
      exact ih

theorem tokens_afterCalls : (afterCalls tokens calls).tokens = tokens :=
  (afterCalls_keeps tokens calls).1

theorem depth_afterCalls : (afterCalls tokens calls).depth = 0 :=
  (afterCalls_keeps tokens calls).2

end

variable {tokens : List Token} {calls later : Nat}

/-- A session that a call leaves as it is stays so. -/
theorem answer_eq_of_settled (h : afterCalls tokens (calls + 1) = afterCalls tokens calls)
    (hlater : calls ≤ later) : answer tokens later = answer tokens calls := by
  have hsame : afterCalls tokens later = afterCalls tokens calls := by
    induction hlater with
    | refl => rfl
    | step _ ih =>
        rw [afterCalls, ih]
        exact h
  rw [answer, answer, hsame]

theorem answer_of_read_eq (h : (afterCalls tokens (calls + 1)).read = tokens.length)
    (hlater : calls < later) : answer tokens later = .ok [] := by
  have hend : (afterCalls tokens (calls + 1)).parse = (.ok [], afterCalls tokens (calls + 1)) := by
    apply parse_of_read_eq (depth_afterCalls tokens (calls + 1))
    rw [tokens_afterCalls, h]
  have hsettled : afterCalls tokens (calls + 2) = afterCalls tokens (calls + 1) := by
    show (afterCalls tokens (calls + 1)).parse.2 = _
    rw [hend]
  rw [answer_eq_of_settled hsettled hlater, answer, hend]

theorem answer_of_read_eq_read
    (h : (afterCalls tokens (calls + 1)).read = (afterCalls tokens calls).read)
    (hlater : calls ≤ later) : answer tokens later = answer tokens calls := by
  apply answer_eq_of_settled _ hlater
  ext1
  · rw [tokens_afterCalls, tokens_afterCalls]
  · exact h
  · rw [depth_afterCalls, depth_afterCalls]

/-- What can be said of a call after some calls. -/
structure Resumes (tokens : List Token) (calls : Nat) : Prop where
  /-- Whatever the calls before answered, the session is not deep. -/
  depth : (afterCalls tokens calls).depth = 0
  forward : (afterCalls tokens calls).read ≤ (afterCalls tokens (calls + 1)).read
  inside : (afterCalls tokens calls).read ≤ tokens.length
  /-- The call answers what a session of its own answers on the tokens from there on. -/
  fresh : answer tokens calls = answer (tokens.drop (afterCalls tokens calls).read) 0
  /-- These tokens are the same program, or the same error, and the same tokens are left. -/
  parsed : Program.parse (tokens.drop (afterCalls tokens calls).read) =
    (answer tokens calls, tokens.drop (afterCalls tokens (calls + 1)).read)
  /-- A call that succeeds reads everything. -/
  ended : ∀ p, answer tokens calls = .ok p →
    (afterCalls tokens (calls + 1)).read = tokens.length ∧
      ∀ later, calls < later → answer tokens later = .ok []
  /-- A call that fails without reading anything fails forever. -/
  stuck : ∀ e, answer tokens calls = .error e →
    (afterCalls tokens (calls + 1)).read = (afterCalls tokens calls).read →
      ∀ later, calls < later → answer tokens later = .error e

theorem parse_afterCalls (tokens : List Token) (calls : Nat) :
    Program.parse (tokens.drop (afterCalls tokens calls).read) =
      (answer tokens calls, tokens.drop (afterCalls tokens (calls + 1)).read) := by
  have hparse := parse_left (depth_afterCalls tokens calls)
  rwa [tokens_afterCalls] at hparse

end Session

/-- However often a program is asked for, and whatever was answered before, parsing goes on from
    the token where it stopped as if it had only begun there. -/
theorem parse_resumes (tokens : List Token) (calls : Nat) : Session.Resumes tokens calls := by
  have hparse := Session.parse_afterCalls tokens calls
  have hdepth := Session.depth_afterCalls tokens calls
  constructor
  case depth => exact hdepth
  case forward =>
    obtain ⟨rest, hrest, hleaving⟩ := Session.exists_leaving hdepth
    rw [Session.afterCalls, hleaving]
    exact Session.read_le_leaving hrest
  case inside =>
    have hread := (Session.afterCalls tokens calls).read_le
    rwa [Session.tokens_afterCalls] at hread
  case fresh =>
    have hfresh := Session.parse_afterCalls (tokens.drop (Session.afterCalls tokens calls).read) 0
    exact (Prod.mk.inj (hparse.symm.trans hfresh)).1
  case parsed => exact hparse
  case ended =>
    intro p hanswer
    have hread := Session.read_eq_of_ok hdepth hanswer
    rw [Session.tokens_afterCalls] at hread
    exact ⟨hread, fun later => Session.answer_of_read_eq hread⟩
  case stuck =>
    intro e hanswer hread later hlater
    rw [Session.answer_of_read_eq_read hread (Nat.le_of_lt hlater), hanswer]

-- The parentheses are missed at the semicolon, two levels deep, and no statement starts there.
example :
    (let s := Session.afterCalls
        [⟨⟨.identifier, "x"⟩, ⟨1, 1⟩⟩, ⟨.equals, ⟨1, 2⟩⟩, ⟨.openParen, ⟨1, 3⟩⟩,
          ⟨.openParen, ⟨1, 4⟩⟩, ⟨⟨.number, "1"⟩, ⟨1, 5⟩⟩, ⟨.semicolon, ⟨1, 6⟩⟩] 1;
      (s.read, s.depth, s.parse.2.read)) = (5, 0, 5) := by
  decide +kernel

end CppToPython
