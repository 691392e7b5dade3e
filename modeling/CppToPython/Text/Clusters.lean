import CppToPython.Unicode.Role

/-! # Clusters of characters

A text is divided into clusters, each of them what a reader takes for one
character: a letter with its marks, a syllable, a conjunct, a flag, or pictures
that are joined. `clusters_flatten` says that nothing is lost.
-/

namespace CppToPython.Text

open Unicode (role)

/-- The mark that keeps the characters around it apart. -/
def nonJoiner : Char := '\u200c'

/-- Whether a character may stand between two consonants of a conjunct. -/
def isConjunctMark (c : Char) : Bool :=
  (role c = .extending || role c = .joiner) && c ≠ nonJoiner

/-- Whether a text ends in a consonant and marks that link it to the next one. The
    text is given backwards, here and below. -/
def endsInLinker (before : List Char) : Bool :=
  (before.takeWhile isConjunctMark).any Unicode.isLinker
    && (before.dropWhile isConjunctMark).head?.any (role · = .consonant)

/-- Whether a text ends in a picture and marks on it. -/
def endsInPictograph (before : List Char) : Bool :=
  (before.dropWhile (role · = .extending)).head?.any (role · = .pictograph)

/-- Whether a text ends in a half of a flag without the other one. -/
def endsInHalfFlag (before : List Char) : Bool :=
  (before.takeWhile (role · = .regional)).length % 2 = 1

/-- Whether a character goes on with the cluster before it. -/
def continues : List Char → Char → Bool
  | [], _ => false
  | last :: earlier, c =>
      if role last = .control then last = '\r' && c = '\n'
      else
        match role c with
        | .control => false
        | .extending | .joiner | .spacing => true
        | r =>
            role last = .prepended ||
              match r with
              | .consonant => endsInLinker (last :: earlier)
              | .pictograph => role last = .joiner && endsInPictograph earlier
              | .regional => endsInHalfFlag (last :: earlier)
              | .lead | .openSyllable | .closedSyllable => role last = .lead
              | .vowel => role last = .lead || role last = .vowel || role last = .openSyllable
              | .trail =>
                  role last = .vowel || role last = .openSyllable
                    || role last = .closedSyllable || role last = .trail
              | _ => false

/-- The clusters of a text after the characters of an unfinished one, which are
    given backwards. -/
def clustersAfter (current : List Char) : List Char → List (List Char)
  | [] => [current.reverse]
  | c :: text =>
      if continues current c then clustersAfter (c :: current) text
      else current.reverse :: clustersAfter [c] text

def clusters : List Char → List (List Char)
  | [] => []
  | c :: text => clustersAfter [c] text

theorem clustersAfter_flatten (current text : List Char) :
    (clustersAfter current text).flatten = current.reverse ++ text := by
  induction text generalizing current with
  | nil => simp [clustersAfter]
  | cons c text ih =>
      unfold clustersAfter
      split <;> simp [ih]

/-- The clusters of a text, one after the other, are the text. -/
theorem clusters_flatten (text : List Char) : (clusters text).flatten = text := by
  cases text with
  | nil => rfl
  | cons c text => simp [clusters, clustersAfter_flatten]

theorem ne_nil_of_mem_clustersAfter {current text cluster : List Char} (hc : current ≠ [])
    (h : cluster ∈ clustersAfter current text) : cluster ≠ [] := by
  induction text generalizing current with
  | nil =>
      simp only [clustersAfter, List.mem_singleton] at h
      simpa [h] using hc
  | cons c text ih =>
      unfold clustersAfter at h
      split at h
      · exact ih (by simp) h
      · rcases List.mem_cons.mp h with rfl | h
        · simpa using hc
        · exact ih (by simp) h

theorem ne_nil_of_mem_clusters {text cluster : List Char} (h : cluster ∈ clusters text) :
    cluster ≠ [] := by
  cases text with
  | nil => simp [clusters] at h
  | cons c text => exact ne_nil_of_mem_clustersAfter (by simp) h

end CppToPython.Text
