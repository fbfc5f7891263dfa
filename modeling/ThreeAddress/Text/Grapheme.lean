import ThreeAddress.Text.GraphemeClass

/-!
Grapheme clusters: the pieces of a text that its readers take for single characters. Main
statements: the clusters of a text make it up again, and none of them is empty.
-/

namespace ThreeAddress.Text

namespace GraphemeClass

/-- Clusters end before and after these. -/
def isBreak : GraphemeClass → Bool
  | .carriageReturn | .lineFeed | .control => true
  | _ => false

def isExtending : GraphemeClass → Bool
  | .extending | .linker | .nonJoiner => true
  | _ => false

def isAttached (kind : GraphemeClass) : Bool :=
  kind.isExtending || kind == .joiner || kind == .spacingMark

/-- Whether a character can stand between the consonants of a conjunct. -/
def staysInConjunct : GraphemeClass → Bool
  | .extending | .linker | .joiner => true
  | _ => false

def sharesSyllable : GraphemeClass → GraphemeClass → Bool
  | .leadingJamo, after =>
      after == .leadingJamo || after == .vowelJamo || after == .openSyllable ||
        after == .closedSyllable
  | .openSyllable, after | .vowelJamo, after => after == .vowelJamo || after == .trailingJamo
  | .closedSyllable, after | .trailingJamo, after => after == .trailingJamo
  | _, _ => false

/-- Whether a pictograph, with marks on it, and a joiner end here. The classes are given backwards. -/
def endsInJoinedPictograph : List GraphemeClass → Bool
  | .joiner :: earlier => (earlier.dropWhile isExtending).head? == some .pictograph
  | _ => false

/-- Whether a consonant and a linker behind it end here. The classes are given backwards. -/
def endsInLinkedConsonant (before : List GraphemeClass) : Bool :=
  (before.takeWhile staysInConjunct).contains .linker &&
    (before.dropWhile staysInConjunct).head? == some .consonant

/-- Whether half a flag ends here. The classes are given backwards. -/
def endsInHalfFlag (before : List GraphemeClass) : Bool :=
  (before.takeWhile (· == .regionalIndicator)).length % 2 == 1

/-- Whether a character belongs to the cluster before it, whose classes are given backwards. -/
def joins (before : List GraphemeClass) (after : GraphemeClass) : Bool :=
  match before with
  | [] => false
  | last :: _ =>
      if last.isBreak || after.isBreak then last == .carriageReturn && after == .lineFeed
      else if after.isAttached || last == .prepended || last.sharesSyllable after then true
      else
        match after with
        | .pictograph => endsInJoinedPictograph before
        | .consonant => endsInLinkedConsonant before
        | .regionalIndicator => endsInHalfFlag before
        | _ => false

end GraphemeClass

/-- Goes on with a cluster. Its characters and their classes are given backwards. -/
def gatherClusters (cluster : List Char) (classes : List GraphemeClass) :
    List Char → List (List Char)
  | [] => [cluster.reverse]
  | c :: rest =>
      let kind := GraphemeClass.ofChar c
      if GraphemeClass.joins classes kind then gatherClusters (c :: cluster) (kind :: classes) rest
      else cluster.reverse :: gatherClusters [c] [kind] rest

def clusters : List Char → List (List Char)
  | [] => []
  | c :: rest => gatherClusters [c] [GraphemeClass.ofChar c] rest

theorem gather_clusters_flatten (cluster : List Char) (classes : List GraphemeClass)
    (text : List Char) : (gatherClusters cluster classes text).flatten = cluster.reverse ++ text := by
  induction text generalizing cluster classes with
  | nil => simp [gatherClusters]
  | cons c rest induction =>
      simp only [gatherClusters]
      split
      · simp [induction]
      · simp [induction]

/-- Nothing is lost, and nothing changes its place. -/
theorem clusters_flatten (text : List Char) : (clusters text).flatten = text := by
  cases text with
  | nil => rfl
  | cons c rest => simp [clusters, gather_clusters_flatten]

theorem ne_nil_of_mem_gather_clusters (cluster : List Char) (classes : List GraphemeClass)
    (text : List Char) (nonempty : cluster ≠ []) :
    ∀ piece ∈ gatherClusters cluster classes text, piece ≠ [] := by
  induction text generalizing cluster classes with
  | nil => simpa [gatherClusters] using nonempty
  | cons c rest induction =>
      simp only [gatherClusters]
      split
      · exact induction _ _ (by simp)
      · intro piece member
        rcases List.mem_cons.mp member with same | later
        · simpa [same] using nonempty
        · exact induction [c] _ (by simp) piece later

theorem ne_nil_of_mem_clusters {text piece : List Char} (member : piece ∈ clusters text) :
    piece ≠ [] := by
  cases text with
  | nil => simp [clusters] at member
  | cons c rest => exact ne_nil_of_mem_gather_clusters [c] _ rest (by simp) piece member

end ThreeAddress.Text
