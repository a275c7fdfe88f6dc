import DialogueEngine.Text.BreakClass

/-!
# Clusters

What a reader takes for one character may be a cluster of several: a letter with its marks, a
syllable, a flag, a picture made of pictures. Splitting into clusters loses nothing
(`flatten_clusters`), and no cluster is empty (`ne_nil_of_mem_clusters`).
-/

namespace DialogueEngine.Text

namespace BreakClass

/-- Whether characters of a class stand apart from those before and after them. -/
def standsAlone : BreakClass → Bool
  | control | carriageReturn | lineFeed => true
  | _ => false

/-- Whether characters of a class belong to the one before them, whatever it is. -/
def isAttached : BreakClass → Bool
  | mark | linker | joiner | nonJoiner | spacingMark => true
  | _ => false

/-- Whether characters of a class can stand between a pictograph and the joiner after it. -/
def extendsPictograph : BreakClass → Bool
  | mark | linker | nonJoiner => true
  | _ => false

/-- Whether characters of a class can stand between the consonants of a conjunct. -/
def extendsConjunct : BreakClass → Bool
  | mark | linker | joiner => true
  | _ => false

/-- Whether two neighbours are parts of one Hangul syllable. -/
def formSyllable : BreakClass → BreakClass → Bool
  | leadingJamo, leadingJamo | leadingJamo, vowelJamo | leadingJamo, openSyllable
  | leadingJamo, closedSyllable | openSyllable, vowelJamo | openSyllable, trailingJamo
  | vowelJamo, vowelJamo | vowelJamo, trailingJamo | closedSyllable, trailingJamo
  | trailingJamo, trailingJamo => true
  | _, _ => false

end BreakClass

/-! ## Where a cluster goes on -/

/-- Whether the characters, given from the last one on, end in a consonant with a linker. -/
def endsLinked (before : List Char) : Bool :=
  let (linking, rest) := before.span fun c => (breakClass c).extendsConjunct
  linking.any (breakClass · = .linker) && rest.head?.any (breakClass · = .consonant)

/-- Whether the characters, given from the last one on, end in a pictograph with its marks. -/
def endsInPictograph (before : List Char) : Bool :=
  (before.dropWhile fun c => (breakClass c).extendsPictograph).head?.any
    (breakClass · = .pictograph)

/-- Whether the characters, given from the last one on, end in a regional indicator without a
partner. -/
def endsUnpaired (before : List Char) : Bool :=
  (before.takeWhile (breakClass · = .regionalIndicator)).length % 2 = 1

/-- Whether a character belongs to the cluster before it, which is given from its last character
on. -/
def belongs (cluster : List Char) (c : Char) : Bool :=
  match cluster with
  | [] => true
  | last :: before =>
      let lastClass := breakClass last
      let nextClass := breakClass c
      if lastClass.standsAlone || nextClass.standsAlone then
        lastClass = .carriageReturn && nextClass = .lineFeed
      else if nextClass.isAttached || lastClass = .prepended then true
      else if lastClass.formSyllable nextClass then true
      else
        match nextClass with
        | .consonant => endsLinked cluster
        | .pictograph => lastClass = .joiner && endsInPictograph before
        | .regionalIndicator => endsUnpaired cluster
        | _ => false

/-! ## Splitting -/

/-- Splits the rest of a text in which a cluster, given from its last character on, may go on. -/
def clustersAfter (cluster : List Char) : List Char → List (List Char)
  | [] => [cluster.reverse]
  | c :: rest =>
      if belongs cluster c then clustersAfter (c :: cluster) rest
      else cluster.reverse :: clustersAfter [c] rest

def clusters : List Char → List (List Char)
  | [] => []
  | c :: rest => clustersAfter [c] rest

theorem flatten_clustersAfter (cluster cs : List Char) :
    (clustersAfter cluster cs).flatten = cluster.reverse ++ cs := by
  fun_induction clustersAfter cluster cs <;> simp_all

@[simp]
theorem flatten_clusters (cs : List Char) : (clusters cs).flatten = cs := by
  cases cs with
  | nil => rfl
  | cons c rest => simp [clusters, flatten_clustersAfter]

theorem ne_nil_of_mem_clustersAfter {cluster cs part : List Char} (h : cluster ≠ [])
    (hp : part ∈ clustersAfter cluster cs) : part ≠ [] := by
  fun_induction clustersAfter cluster cs <;> simp_all
  rcases hp with rfl | hp <;> simp_all

theorem ne_nil_of_mem_clusters {cs part : List Char} (hp : part ∈ clusters cs) : part ≠ [] := by
  cases cs with
  | nil => simp [clusters] at hp
  | cons c rest => exact ne_nil_of_mem_clustersAfter (List.cons_ne_nil c []) hp

end DialogueEngine.Text
