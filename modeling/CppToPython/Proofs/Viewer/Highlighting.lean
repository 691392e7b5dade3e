import CppToPython.Viewer.Language

/-! # What highlighting keeps and marks

The spans of a line are the line, cut into parts that are not empty. In C++ only comments and
texts in quotes have a colour of their own: they are the marks of a line. All other text, in
whatever spans it stands, leaves the marks of what follows as they are (`marks_append`).
-/

namespace CppToPython.Viewer

/-! ### The text of the spans -/

/-- Spans are a line cut into parts, none of them empty. -/
structure Covers (line : String) (spans : List Span) : Prop where
  join_eq : String.join (spans.map (·.text)) = line
  text_ne_empty : ∀ span ∈ spans, span.text ≠ ""

theorem Covers.cons {part : List Char} {line : String} {spans : List Span} (hpart : part ≠ [])
    (style : Style) (h : Covers line spans) :
    Covers (String.ofList part ++ line) (⟨String.ofList part, style⟩ :: spans) where
  join_eq := by rw [List.map_cons, String.join_cons, h.join_eq]
  text_ne_empty := by
    intro span hspan
    rcases List.mem_cons.mp hspan with rfl | hspan
    · exact fun hempty => hpart (String.ofList_inj.mp hempty)
    · exact h.text_ne_empty span hspan

namespace Highlight

theorem covers_spans (classes : CharClasses) (language : Language) (line : List Char) :
    Covers (String.ofList line) (spans classes language line) := by
  fun_induction spans classes language line with
  | case1 => exact ⟨rfl, by simp⟩
  | case2 c text cut ih =>
      rw [← front_append classes language c text, String.ofList_append]
      exact ih.cons (front_ne_nil classes language c text) _

end Highlight

theorem covers_highlight (classes : CharClasses) (language : Language) (line : String) :
    Covers line (highlight classes language line) := by
  unfold highlight
  split
  · rename_i hdirective
    have hline : line ≠ "" := by
      rintro rfl
      simp at hdirective
    exact ⟨by simp, by simpa using hline⟩
  · simpa using Highlight.covers_spans classes language line.toList

/-- Highlighting loses no text, however the characters are classified. -/
theorem highlighting_keeps_text (line : String) :
    Covers line (highlightCpp line) ∧ Covers line (highlightPython line) ∧
      ∀ (classes : CharClasses) (language : Language),
        Covers line (highlight classes language line) :=
  ⟨covers_highlight _ _ line, covers_highlight _ _ line, fun _ _ => covers_highlight _ _ line⟩

/-! ### Classes of characters -/

def asciiSpaces : List Char := [' ', '\t', '\n', '\x0b', '\x0c', '\r']

/-- A classification of all characters that is the usual one on the characters of ASCII. -/
structure CharClasses.ExtendsAscii (classes : CharClasses) : Prop where
  isAlphanumeric_eq : ∀ c : Char, c.toNat < 128 → classes.isAlphanumeric c = c.isAlphanum
  isWhiteSpace_eq : ∀ c : Char, c.toNat < 128 → classes.isWhiteSpace c = asciiSpaces.contains c

theorem CharClasses.unicode_extendsAscii : unicode.ExtendsAscii := by
  have hascii : ∀ n : Fin 128, unicode.isAlphanumeric (.ofNat n) = (Char.ofNat n).isAlphanum ∧
      unicode.isWhiteSpace (.ofNat n) = asciiSpaces.contains (.ofNat n) := by
    decide
  constructor
  · intro c hc
    simpa using (hascii ⟨c.toNat, hc⟩).1
  · intro c hc
    simpa using (hascii ⟨c.toNat, hc⟩).2

/-! ### Marks -/

/-- Whether a style has the colour of strings or of comments. -/
def Style.isMark (style : Style) : Bool :=
  style.foreground = Theme.string || style.foreground = Theme.comment

theorem Language.plainWord_isMark (isCall : Bool) : (plainWord isCall).isMark = false := by
  cases isCall <;> rfl

theorem Language.cpp_wordStyle_isMark (word : String) (isCall : Bool) :
    (cpp.wordStyle word isCall).isMark = false := by
  simp only [cpp]
  split
  case h_19 => exact plainWord_isMark isCall
  all_goals rfl

namespace Highlight

theorem symbolStyle_isMark (c : Char) : (symbolStyle c).isMark = false := by
  unfold symbolStyle
  split <;> rfl

theorem word_isMark (classes : CharClasses) (c : Char) (text : List Char) :
    (word classes .cpp c text).2.1.isMark = false := by
  simp only [word]
  split
  · rfl
  · exact Language.cpp_wordStyle_isMark _ _

theorem comment_prefix_iff {c : Char} {text : List Char} :
    Language.cpp.comment <+: c :: text ↔ c = '/' ∧ text.head? = some '/' := by
  have hcomment : Language.cpp.comment = ['/', '/'] := rfl
  rw [hcomment, List.cons_prefix_cons, eq_comm]
  cases text with
  | nil => simp
  | cons d text => simp [List.cons_prefix_cons, eq_comm]

/-- The characters that start neither a comment nor a text in quotes. -/
def isUnmarked (c : Char) : Bool := c != '/' && c != '"' && c != '\x27'

/-- All characters of a class start no mark if the three that do are not in it. -/
theorem isUnmarked_of_class {isIn : Char → Bool} {c : Char} (hslash : isIn '/' = false)
    (hquote : isIn '"' = false) (hsingle : isIn '\x27' = false) (h : isIn c = true) :
    isUnmarked c = true := by
  have hne {d : Char} (hd : isIn d = false) : c ≠ d := by
    rintro rfl
    simp [hd] at h
  simp [isUnmarked, hne hslash, hne hquote, hne hsingle]

/-- The spans of a line of C++ that are comments or texts in quotes. -/
def marks (classes : CharClasses) (text : List Char) : List Span :=
  (spans classes .cpp text).filter (·.style.isMark)

section Marks

variable (classes : CharClasses) {c : Char} {text part rest : List Char} {style : Style}

@[simp]
theorem marks_nil : marks classes [] = [] := by
  rw [marks, spans, List.filter_nil]

theorem filter_string_eq (text : List Char) :
    (spans classes .cpp text).filter (·.style.foreground = Theme.string) =
      (marks classes text).filter (·.style.foreground = Theme.string) := by
  rw [marks, List.filter_filter]
  apply List.filter_congr
  intro span _
  simpa [Style.isMark] using Or.inl

theorem mem_marks_of_comment {span : Span} (hcomment : span.style.foreground = Theme.comment) :
    span ∈ marks classes text ↔ span ∈ spans classes .cpp text := by
  simp [marks, Style.isMark, hcomment]

theorem marks_of_isMark (hfront : front classes .cpp c text = (part, style, rest))
    (hmark : style.isMark = true) :
    marks classes (c :: text) = ⟨String.ofList part, style⟩ :: marks classes rest := by
  simp [marks, spans, hfront, hmark]

theorem marks_of_not_isMark (hfront : front classes .cpp c text = (part, style, rest))
    (hmark : style.isMark = false) : marks classes (c :: text) = marks classes rest := by
  simp [marks, spans, hfront, hmark]

theorem marks_comment (text : List Char) :
    marks classes ('/' :: '/' :: text) =
      [⟨String.ofList ('/' :: '/' :: text), .colored Theme.comment⟩] := by
  have hfront : front classes .cpp '/' ('/' :: text) =
      ('/' :: '/' :: text, .colored Theme.comment, []) := by
    simp [front, comment_prefix_iff]
  rw [marks_of_isMark classes hfront rfl, marks_nil]

/-- A text in quotes is a mark, and the next one stands after it. -/
theorem marks_quote (text : List Char) :
    marks classes ('"' :: text) =
      ⟨String.ofList ('"' :: (splitQuoted '"' text).1), .colored Theme.string⟩ ::
        marks classes (splitQuoted '"' text).2 := by
  have hfront : front classes .cpp '"' text =
      ('"' :: (splitQuoted '"' text).1, .colored Theme.string, (splitQuoted '"' text).2) := by
    simp [front, comment_prefix_iff]
  exact marks_of_isMark classes hfront rfl

theorem foreground_ne_comment (h : style.isMark = false) : style.foreground ≠ Theme.comment := by
  simp only [Style.isMark, Bool.or_eq_false_iff, decide_eq_false_iff_not] at h
  exact h.2

theorem front_rest_of_comment (h : (front classes .cpp c text).2.1.foreground = Theme.comment) :
    (front classes .cpp c text).2.2 = [] := by
  unfold front at h ⊢
  split at h
  · rw [if_pos ‹_›]
  · split at h
    · cases h
    · split at h
      · exact absurd h (foreground_ne_comment (word_isMark classes c text))
      · exact absurd h (foreground_ne_comment (symbolStyle_isMark c))

/-- Only the last span of a line can be a comment. -/
theorem spans_eq_of_comment {span : Span} (hspan : span ∈ spans classes .cpp text)
    (hcomment : span.style.foreground = Theme.comment) :
    ∃ before, spans classes .cpp text = before ++ [span] ∧
      ∀ other ∈ before, other.style.foreground ≠ Theme.comment := by
  fun_induction spans classes .cpp text with
  | case1 => cases hspan
  | case2 c text cut ih =>
      rcases List.mem_cons.mp hspan with rfl | hspan
      · refine ⟨[], ?_, by simp⟩
        rw [front_rest_of_comment classes hcomment, spans]
        rfl
      · obtain ⟨before, hspans, hbefore⟩ := ih hspan
        refine ⟨_ :: before, by rw [hspans, List.cons_append], ?_⟩
        intro other hother
        rcases List.mem_cons.mp hother with rfl | hother
        · intro hfirst
          rw [front_rest_of_comment classes hfirst, spans] at hspan
          cases hspan
        · exact hbefore other hother

end Marks

variable {classes : CharClasses} (hclasses : classes.ExtendsAscii)

include hclasses

theorem marks_slash {text : List Char} (h : text.head? ≠ some '/') :
    marks classes ('/' :: text) = marks classes text := by
  have hword : classes.isAlphanumeric '/' = false := hclasses.isAlphanumeric_eq '/' (by decide)
  have hfront : front classes .cpp '/' text = (['/'], symbolStyle '/', text) := by
    simp [front, comment_prefix_iff, h, hword]
  exact marks_of_not_isMark classes hfront (symbolStyle_isMark '/')

theorem isUnmarked_of_isWordPart {first c : Char} (h : isWordPart classes first c = true) :
    isUnmarked c = true := by
  have hout (d : Char) (hascii : d.toNat < 128) (halpha : d.isAlphanum = false)
      (hother : (d == '_' || d == '.') = false) : isWordPart classes first d = false := by
    rw [Bool.or_eq_false_iff] at hother
    simp only [isWordPart, hclasses.isAlphanumeric_eq d hascii, halpha, hother, Bool.false_or,
      Bool.false_and]
  exact isUnmarked_of_class (hout '/' (by decide) rfl rfl) (hout '"' (by decide) rfl rfl)
    (hout '\x27' (by decide) rfl rfl) h

/-- Text without marks is passed over, in whatever spans it stands. -/
theorem marks_append {text : List Char} (h : ∀ c ∈ text, isUnmarked c = true) (rest : List Char) :
    marks classes (text ++ rest) = marks classes rest := by
  cases text with
  | nil => rfl
  | cons c text =>
      have htext : ∀ d ∈ text, isUnmarked d = true := fun d hd => h d (List.mem_cons_of_mem c hd)
      have hc := h c List.mem_cons_self
      simp only [isUnmarked, Bool.and_eq_true, bne_iff_ne] at hc
      obtain ⟨⟨hslash, hquote⟩, hsingle⟩ := hc
      by_cases hword : (classes.isAlphanumeric c || c == '_') = true
      · have hfront : front classes .cpp c (text ++ rest) = word classes .cpp c (text ++ rest) := by
          simp [front, comment_prefix_iff, hslash, hquote, hsingle, hword]
        have htaken :
            ∀ d ∈ (text ++ rest).takeWhile (isWordPart classes c), isUnmarked d = true := by
          intro d hd
          exact isUnmarked_of_isWordPart hclasses (List.all_eq_true.mp List.all_takeWhile d hd)
        calc marks classes (c :: (text ++ rest))
            = marks classes ((text ++ rest).dropWhile (isWordPart classes c)) :=
              marks_of_not_isMark classes hfront (word_isMark classes c _)
          _ = marks classes ((text ++ rest).takeWhile (isWordPart classes c) ++
                (text ++ rest).dropWhile (isWordPart classes c)) := (marks_append htaken _).symm
          _ = marks classes (text ++ rest) := by rw [List.takeWhile_append_dropWhile]
          _ = marks classes rest := marks_append htext rest
      · have hfront : front classes .cpp c (text ++ rest) = ([c], symbolStyle c, text ++ rest) := by
          simp [front, comment_prefix_iff, hslash, hquote, hsingle, hword]
        calc marks classes (c :: (text ++ rest))
            = marks classes (text ++ rest) :=
              marks_of_not_isMark classes hfront (symbolStyle_isMark c)
          _ = marks classes rest := marks_append htext rest
termination_by (text ++ rest).length
decreasing_by
  all_goals
    subst_vars
    simp

end Highlight

end CppToPython.Viewer
