import CppToPython.Proofs.Token.Faults

/-! # Reading on after a fault

A scanner that is called again goes on where the call before stopped. It always stands at a place
of the source that its position names, and answers what the rest of the source would answer by
itself. A fault is passed only when it is a string literal, and then there is a line feed less to
read, so after one call more than there are line feeds the scanner stands still.
-/

namespace CppToPython

theorem atLineEnd_cases {rest : List Char} (h : AtLineEnd rest) :
    rest = [] ∨ ∃ more, rest = '\n' :: more := by
  cases rest with
  | nil => exact .inl rfl
  | cons c more =>
      cases h c rfl
      exact .inr ⟨more, rfl⟩

theorem GivesUp.left_eq_nil {rest left : List Char} (h : GivesUp '/' rest left) : left = [] := by
  cases h with
  | openComment => rfl
  | nothing _ hslash => exact absurd rfl hslash

namespace Cursor

def afterCalls (source : String) : (calls : Nat) → Cursor
  | 0 => ofString source
  | calls + 1 => (afterCalls source calls).scan.2

def answer (source : String) (calls : Nat) : Except LexError (List Token) :=
  (afterCalls source calls).scan.1

/-! ### One call -/

/-- What a call on the text after `before` can answer, and where it stops. -/
inductive Call (before text : List Char) : Except LexError (List Token) × Cursor → Prop where
  | ended {tokens} : Call before text (.ok tokens, ⟨[], .after (before ++ text)⟩)
  | stopped {used c rest taken left} :
      text = used ++ c :: rest → Piece.front c rest = .fault taken left →
        Call before text
          (.error ⟨c, .after (before ++ used)⟩, ⟨left, .after (before ++ used ++ taken)⟩)

theorem Call.prepend {before taken rest : List Char}
    {result : Except LexError (List Token) × Cursor} (h : Call (before ++ taken) rest result) :
    Call before (taken ++ rest) result := by
  cases h with
  | ended =>
      rw [List.append_assoc]
      exact .ended
  | stopped htext hfault =>
      rw [List.append_assoc before]
      apply Call.stopped _ hfault
      rw [htext, List.append_assoc]

theorem Call.map {before text : List Char} {result : Except LexError (List Token) × Cursor}
    (h : Call before text result) (f : List Token → List Token) :
    Call before text (result.1.map f, result.2) := by
  cases h with
  | ended => exact .ended
  | stopped htext hfault => exact .stopped htext hfault

theorem call_scanFrom (before text : List Char) :
    Call before text (scanFrom (.after before) text) := by
  cases text with
  | nil =>
      have hend : Call before [] (.ok [], ⟨[], .after (before ++ [])⟩) := .ended
      rwa [List.append_nil, ← scanFrom_nil] at hend
  | cons c text =>
      have hsplits := Piece.front_taken_append_rest c text
      rw [scanFrom_cons]
      cases hf : Piece.front c text with
      | skip taken rest =>
          rw [hf] at hsplits
          rw [← hsplits]
          simp only [Position.advance_after]
          exact (call_scanFrom (before ++ taken) rest).prepend
      | token kind lexeme padding rest =>
          rw [hf] at hsplits
          rw [← hsplits]
          simp only [Position.advance_after]
          exact ((call_scanFrom (before ++ (lexeme ++ padding)) rest).map _).prepend
      | fault taken rest =>
          simp only [Position.advance_after]
          have hstop : Call before (c :: text)
              (.error ⟨c, .after (before ++ [])⟩, ⟨rest, .after (before ++ [] ++ taken)⟩) :=
            .stopped rfl hf
          rwa [List.append_nil] at hstop
termination_by text.length
decreasing_by
  · subst_vars
    exact Piece.rest_lt_of_front_skip hf
  · subst_vars
    exact Piece.rest_lt_of_front_token hf

/-! ### Standing in the source -/

/-- The cursor stands in `source`, after the text `before`. -/
structure StandsAfter (source : String) (before : List Char) (c : Cursor) : Prop where
  text : source.toList = before ++ c.rest
  position : c.position = .after before

section

variable {source : String} {before : List Char} {c : Cursor}

theorem StandsAfter.call (h : StandsAfter source before c) : Call before c.rest c.scan := by
  rw [scan, h.position]
  exact call_scanFrom before c.rest

theorem StandsAfter.scan (h : StandsAfter source before c) :
    ∃ used, c.rest = used ++ c.scan.2.rest ∧ StandsAfter source (before ++ used) c.scan.2 := by
  have hcall := h.call
  generalize c.scan = result at hcall
  cases hcall with
  | ended =>
      refine ⟨c.rest, (List.append_nil _).symm, ?_, rfl⟩
      rw [List.append_nil, h.text]
  | @stopped used d rest taken left htext hfault =>
      have hsplits := Piece.front_taken_append_rest d rest
      rw [hfault] at hsplits
      have hrest : c.rest = used ++ taken ++ left := by
        rw [htext, ← hsplits, ← List.append_assoc]
        rfl
      refine ⟨used ++ taken, hrest, ?_, ?_⟩
      · rw [h.text, hrest, List.append_assoc before]
      · rw [List.append_assoc]

/-- The rest of the source is read as if there were nothing before it. -/
theorem StandsAfter.scan_eq_moved (h : StandsAfter source before c) :
    c.scan.1 =
      Token.scannedMoved (Position.after before).within (Token.scan (String.ofList c.rest)) := by
  have hmoved := @scanFrom_moved (Position.after before).within .start
    (Position.advance_within _ (Nat.le_refl 1) (Nat.le_refl 1)) c.rest
  rw [Token.scan_eq_scanFrom, String.toList_ofList, ← hmoved, Position.within_start, ← h.position]
  rfl

end

theorem standsAfter_afterCalls (source : String) (calls : Nat) :
    ∃ before, StandsAfter source before (afterCalls source calls) := by
  induction calls with
  | zero => exact ⟨[], rfl, rfl⟩
  | succ calls ih =>
      obtain ⟨before, h⟩ := ih
      obtain ⟨used, -, hnext⟩ := h.scan
      exact ⟨before ++ used, hnext⟩

/-! ### Standing still -/

def Settled (c : Cursor) : Prop := c.scan.2 = c

theorem scan_of_rest_nil {c : Cursor} (h : c.rest = []) : c.scan = (.ok [], c) := by
  obtain ⟨rest, position⟩ := c
  subst h
  exact scanFrom_nil position

theorem settled_of_rest_nil {c : Cursor} (h : c.rest = []) : Settled c := by
  rw [Settled, scan_of_rest_nil h]

theorem Settled.afterCalls_eq {source : String} {calls : Nat}
    (h : Settled (afterCalls source calls)) {later : Nat} (hlater : calls ≤ later) :
    afterCalls source later = afterCalls source calls := by
  induction hlater with
  | refl => rfl
  | step _ ih => rw [afterCalls, ih, h]

theorem Settled.answer_eq {source : String} {calls : Nat} (h : Settled (afterCalls source calls))
    {later : Nat} (hlater : calls ≤ later) : answer source later = answer source calls := by
  rw [answer, answer, h.afterCalls_eq hlater]

section

variable {before text : List Char} {e : LexError} {stop : Cursor}

theorem Call.rest_eq_nil {tokens : List Token} (h : Call before text (.ok tokens, stop)) :
    stop.rest = [] := by
  cases h with
  | ended => rfl

theorem Call.givesUp (h : Call before text (.error e, stop)) :
    ∃ used rest, text = used ++ e.character :: rest ∧ e.position = .after (before ++ used) ∧
      GivesUp e.character rest stop.rest := by
  cases h with
  | stopped htext hfault => exact ⟨_, _, htext, rfl, Piece.givesUp_of_front hfault⟩

/-- A character that cannot be read is met again. -/
theorem Call.scan_eq_self (h : Call before text (.error e, stop)) (hquote : e.character ≠ '"')
    (hslash : e.character ≠ '/') : stop.scan = (.error e, stop) ∧ stop.position = e.position := by
  cases h with
  | @stopped used c rest taken left htext hfault =>
      have hsplits := Piece.front_taken_append_rest c rest
      rw [hfault] at hsplits
      cases Piece.givesUp_of_front hfault with
      | openString => exact absurd rfl hquote
      | openComment => exact absurd rfl hslash
      | nothing =>
          have htaken : taken = [] := List.append_left_eq_self.mp hsplits
          subst htaken
          rw [scan, scanFrom_fault _ hfault, List.append_nil, Position.advance_nil]
          exact ⟨rfl, rfl⟩

end

section

variable {source : String} {before : List Char} {c : Cursor}

/-- A call stops where the next one stops too, or at a line feed. -/
theorem StandsAfter.settled_or_lineFeed (h : StandsAfter source before c) :
    Settled c.scan.2 ∨ ∃ rest, c.scan.2.rest = '\n' :: rest := by
  have hcall := h.call
  generalize c.scan = result at hcall ⊢
  obtain ⟨answer, left, position⟩ := result
  cases answer with
  | ok tokens => exact .inl (settled_of_rest_nil hcall.rest_eq_nil)
  | error e =>
      obtain ⟨used, rest, -, -, hleft⟩ := hcall.givesUp
      generalize hc : e.character = d at hleft
      cases hleft with
      | openString _ _ hend =>
          rcases atLineEnd_cases hend with hnil | hline
          · exact .inl (settled_of_rest_nil hnil)
          · exact .inr hline
      | openComment => exact .inl (settled_of_rest_nil rfl)
      | nothing hquote hslash =>
          left
          rw [Settled, (hcall.scan_eq_self (hc ▸ hquote) (hc ▸ hslash)).1]

/-- From a line feed on, a call reads at least that. -/
theorem StandsAfter.count_lt (h : StandsAfter source before c) {rest : List Char}
    (hline : c.rest = '\n' :: rest) : c.scan.2.rest.count '\n' < c.rest.count '\n' := by
  have hnext : StandsAfter source (before ++ ['\n']) ⟨rest, c.position.next '\n'⟩ := by
    constructor
    · rw [h.text, hline, List.append_assoc, List.singleton_append]
    · rw [h.position, Position.after_concat]
  have hscan : c.scan = Cursor.scan ⟨rest, c.position.next '\n'⟩ := by
    rw [Cursor.scan, hline, scanFrom_blank _ rfl]
    rfl
  obtain ⟨used, hused, -⟩ := hnext.scan
  rw [← hscan] at hused
  have hcount : rest.count '\n' = used.count '\n' + c.scan.2.rest.count '\n' := by
    rw [← List.count_append, ← hused]
  rw [hline, List.count_cons_self, hcount]
  omega

end

/-- While the scanner moves, there is a line feed less to read at each call but the first. -/
theorem settled_or_count_le (source : String) (calls : Nat) :
    Settled (afterCalls source (calls + 1)) ∨
      ∃ rest, (afterCalls source (calls + 1)).rest = '\n' :: rest ∧
        (afterCalls source (calls + 1)).rest.count '\n' + calls ≤ source.toList.count '\n' := by
  induction calls with
  | zero =>
      obtain ⟨before, h⟩ := standsAfter_afterCalls source 0
      rcases h.settled_or_lineFeed with hsettled | ⟨rest, hrest⟩
      · exact .inl hsettled
      obtain ⟨used, -, hstop⟩ := h.scan
      refine .inr ⟨rest, hrest, ?_⟩
      rw [hstop.text, List.count_append]
      exact Nat.le_add_left _ _
  | succ calls ih =>
      obtain ⟨before, h⟩ := standsAfter_afterCalls source (calls + 1)
      rcases ih with hsettled | ⟨line, hline, hcount⟩
      · left
        rwa [hsettled.afterCalls_eq (Nat.le_succ _)]
      rcases h.settled_or_lineFeed with hsettled | ⟨rest, hrest⟩
      · exact .inl hsettled
      refine .inr ⟨rest, hrest, ?_⟩
      have hless := h.count_lt hline
      rw [afterCalls]
      omega

theorem settled_afterCalls (source : String) :
    Settled (afterCalls source (source.toList.count '\n' + 1)) := by
  rcases settled_or_count_le source (source.toList.count '\n') with hsettled | ⟨rest, hrest, hcount⟩
  · exact hsettled
  · rw [hrest, List.count_cons_self] at hcount
    omega

/-! ### Any number of calls -/

/-- What can be said of a call after some calls. -/
structure Resumes (source : String) (calls : Nat) : Prop where
  /-- It starts at a place of the source, and answers what the text from there on answers by
      itself, with the positions that the text has in the source. -/
  placed : ∃ before move, StandsAfter source before (afterCalls source calls) ∧
    (∀ text, move (Position.after text) = .after (before ++ text)) ∧
    answer source calls =
      Token.scannedMoved move (Token.scan (String.ofList (afterCalls source calls).rest))
  /-- A call that succeeds reads everything. -/
  ended : ∀ tokens, answer source calls = .ok tokens →
    (afterCalls source (calls + 1)).rest = [] ∧
      ∀ later, calls < later → answer source later = .ok []
  /-- A call that fails names a character of the source, and leaves what its fault leaves. -/
  stopped : ∀ e, answer source calls = .error e →
    ∃ before rest, source.toList = before ++ e.character :: rest ∧ e.position = .after before ∧
      GivesUp e.character rest (afterCalls source (calls + 1)).rest
  /-- After an open comment there is nothing. -/
  commented : ∀ e, answer source calls = .error e → e.character = '/' →
    (afterCalls source (calls + 1)).rest = [] ∧
      ∀ later, calls < later → answer source later = .ok []
  /-- A character that cannot be read is never passed. -/
  stuck : ∀ e, answer source calls = .error e → e.character ≠ '"' → e.character ≠ '/' →
    (afterCalls source (calls + 1)).position = e.position ∧
      ∀ later, calls < later → answer source later = .error e

theorem answer_of_rest_nil {source : String} {calls : Nat}
    (h : (afterCalls source (calls + 1)).rest = []) {later : Nat} (hlater : calls < later) :
    answer source later = .ok [] := by
  rw [(settled_of_rest_nil h).answer_eq hlater, answer, scan_of_rest_nil h]

theorem call_of_answer {source : String} {before : List Char} {calls : Nat}
    (h : StandsAfter source before (afterCalls source calls)) :
    Call before (afterCalls source calls).rest
      (answer source calls, afterCalls source (calls + 1)) :=
  h.call

end Cursor

/-- Whatever was read and wherever it failed, a scanner goes on from where it stands, and gives
    the same answer forever after one call more than the source has line feeds. -/
theorem scan_resumes_and_settles (source : String) :
    (∀ calls, Cursor.Resumes source calls) ∧
      ∀ later, source.toList.count '\n' + 1 ≤ later →
        Cursor.answer source later = Cursor.answer source (source.toList.count '\n' + 1) := by
  refine ⟨fun calls => ?_, fun later => (Cursor.settled_afterCalls source).answer_eq⟩
  obtain ⟨before, hplace⟩ := Cursor.standsAfter_afterCalls source calls
  have hcall := Cursor.call_of_answer hplace
  constructor
  case placed =>
    exact ⟨before, (Position.after before).within, hplace, Position.within_after before,
      hplace.scan_eq_moved⟩
  case ended =>
    intro tokens hanswer
    rw [hanswer] at hcall
    have hrest := hcall.rest_eq_nil
    exact ⟨hrest, fun later => Cursor.answer_of_rest_nil hrest⟩
  case stopped =>
    intro e hanswer
    rw [hanswer] at hcall
    obtain ⟨used, rest, htext, hposition, hleft⟩ := hcall.givesUp
    refine ⟨before ++ used, rest, ?_, hposition, hleft⟩
    rw [hplace.text, htext, List.append_assoc]
  case commented =>
    intro e hanswer hslash
    rw [hanswer] at hcall
    obtain ⟨used, rest, -, -, hleft⟩ := hcall.givesUp
    rw [hslash] at hleft
    exact ⟨hleft.left_eq_nil, fun later => Cursor.answer_of_rest_nil hleft.left_eq_nil⟩
  case stuck =>
    intro e hanswer hquote hslash
    rw [hanswer] at hcall
    obtain ⟨hscan, hposition⟩ := hcall.scan_eq_self hquote hslash
    refine ⟨hposition, fun later hlater => ?_⟩
    have hsettled : Cursor.Settled (Cursor.afterCalls source (calls + 1)) := by
      rw [Cursor.Settled, hscan]
    rw [hsettled.answer_eq hlater, Cursor.answer, hscan]

theorem scan_resumes_and_settles_strings :
    Cursor.answer "\"a\n\"b\n\"c" 2 = .error ⟨'"', ⟨3, 1⟩⟩ ∧
      (∃ before rest, "\"a\n\"b\n\"c".toList = before ++ '"' :: rest ∧
        ⟨3, 1⟩ = Position.after before ∧
        GivesUp '"' rest (Cursor.afterCalls "\"a\n\"b\n\"c" 3).rest) ∧
      ∀ later, 3 ≤ later → Cursor.answer "\"a\n\"b\n\"c" later = .ok [] := by
  have hquote : Cursor.answer "\"a\n\"b\n\"c" 2 = .error ⟨'"', ⟨3, 1⟩⟩ := by decide +kernel
  have hend : Cursor.answer "\"a\n\"b\n\"c" 3 = .ok [] := by decide +kernel
  obtain ⟨hresumes, hsettles⟩ := scan_resumes_and_settles "\"a\n\"b\n\"c"
  refine ⟨hquote, (hresumes 2).stopped _ hquote, fun later hlater => ?_⟩
  rw [hsettles later hlater]
  exact hend

end CppToPython
