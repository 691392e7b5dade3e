/-! # Text without commands to a terminal

A terminal takes some of the characters it is sent for commands. A command starts
with the escape character; how it goes on, and where it ends, depends on what
follows. `plain` leaves out commands and control characters, so that a name from
outside cannot change how a terminal behaves. White space stays.
-/

namespace CppToPython.Text

/-- Where in a command a character stands. -/
inductive Sequence where
  /-- Outside of commands. -/
  | outside
  /-- After the escape character. -/
  | escape
  /-- After the escape character and what selects a set of commands. -/
  | selected
  /-- In the parameters of a control command. -/
  | control
  /-- At the start of a command to a device. -/
  | device
  /-- In the parameters of a command to a device. -/
  | deviceParameters
  /-- After what selects a set of commands to a device. -/
  | deviceSelected
  /-- In a text that is not for the screen. It ends with a byte of its own. -/
  | hidden
  /-- In a command to the system around the terminal. It ends with the bell. -/
  | system
  deriving Repr, DecidableEq

/-- Whether a control character is white space. -/
def isBlankControl (c : Char) : Bool :=
  c = '\t' || c = '\n' || c = '\x0c' || c = '\r'

/-- Whether a character is shown outside of commands. -/
def isShown (c : Char) : Bool :=
  isBlankControl c || (' ' ≤ c && c ≠ '\x7f')

/-- Whether the encoding of a character holds the byte that ends a hidden text. -/
def endsHidden (c : Char) : Bool :=
  (String.utf8EncodeChar c).contains 0x9c

namespace Sequence

def next (s : Sequence) (c : Char) : Sequence :=
  if c = '\x18' || c = '\x1a' then outside
  else if c = '\x1b' then escape
  else
    let selects := ' ' ≤ c && c ≤ '/'
    let ends := '0' ≤ c && c ≤ '~'
    match s with
    | outside => outside
    | escape =>
        if selects then selected
        else if c = '[' then control
        else if c = ']' then system
        else if c = 'P' then device
        else if c = 'X' || c = '^' || c = '_' then hidden
        else if ends then outside
        else escape
    | selected => if ends then outside else selected
    | control => if '@' ≤ c && c ≤ '~' then outside else control
    | device =>
        if selects then deviceSelected
        else if '0' ≤ c && c ≤ '?' then deviceParameters
        else if ends then hidden
        else device
    | deviceParameters =>
        if selects then deviceSelected
        else if '<' ≤ c && c ≤ '~' then hidden
        else deviceParameters
    | deviceSelected => if ends then hidden else deviceSelected
    | hidden => if endsHidden c then outside else hidden
    | system => if c = '\x07' then outside else system

/-- Whether a character is shown where it stands. White space is shown even inside
    the parameters of a command. -/
def shows : Sequence → Char → Bool
  | outside, c => isShown c
  | escape, c | selected, c | control, c => isBlankControl c
  | _, _ => false

end Sequence

/-- The part of a text that is shown. After a character that is shown, all that is
    shown outside of commands follows it, even if a command has not come to its
    end; what is left of that command goes on with the first character that is
    not shown. -/
def shown (showing : Bool) (s : Sequence) : List Char → List Char
  | [] => []
  | c :: text =>
      if showing && isShown c then c :: shown true (if c ≤ '\x7f' then s else .outside) text
      else if s.shows c then c :: shown true (s.next c) text
      else shown false (s.next c) text

/-- A text without commands and control characters. -/
def plain (text : String) : String :=
  String.ofList (shown false .outside text.toList)

/-- Nothing is added and nothing moves. -/
theorem shown_sublist (showing : Bool) (s : Sequence) (text : List Char) :
    (shown showing s text).Sublist text := by
  induction text generalizing showing s with
  | nil => exact .slnil
  | cons c text ih =>
      unfold shown
      split
      · exact (ih _ _).cons_cons c
      · split
        · exact (ih _ _).cons_cons c
        · exact (ih _ _).cons c

theorem next_outside {c : Char} (h : isShown c = true) : Sequence.next .outside c = .outside := by
  unfold Sequence.next
  split
  · rfl
  · split
    · next hc =>
        subst hc
        exact absurd h (by decide)
    · rfl

/-- A text stays as it is if all of it is shown outside of commands. -/
theorem shown_eq_self {showing : Bool} {text : List Char} (h : ∀ c ∈ text, isShown c = true) :
    shown showing .outside text = text := by
  induction text generalizing showing with
  | nil => rfl
  | cons c text ih =>
      have hc := h c (by simp)
      have hs : ∀ d ∈ text, isShown d = true := fun d hd => h d (by simp [hd])
      unfold shown
      split
      · simp [ih hs]
      · simp [Sequence.shows, hc, next_outside hc, ih hs]

end CppToPython.Text
