import GatherBoard.Text.Basic

/-!
# Similar words

A mistyped word is answered with the known words that resemble it. The
resemblance of two texts is the number of characters they share in order,
found by taking the longest common block and going on to its left and to
its right; it counts as close when twice that number reaches three fifths
of both lengths together.
-/

namespace GatherBoard.Text

/-- Length of the longest common start of two texts. -/
def commonStart : Text → Text → Nat
  | a :: s, b :: t => if a = b then commonStart s t + 1 else 0
  | _, _ => 0

/-- A common block: where it starts in both texts, and its length. -/
structure Block where
  /-- Start in the first text. -/
  left : Nat
  /-- Start in the second text. -/
  right : Nat
  /-- Number of characters. -/
  size : Nat
  deriving DecidableEq, Repr

/-- The longest common block of two texts: of several longest ones the
earliest in the first text, and then the earliest in the second. -/
def longestBlock (s t : Text) : Block :=
  let starts := (List.range s.length).flatMap fun i => (List.range t.length).map fun j =>
    Block.mk i j (commonStart (s.drop i) (t.drop j))
  starts.foldl (fun best block => if best.size < block.size then block else best) ⟨0, 0, 0⟩

/-- Number of characters shared in order, with at most `depth` nested cuts. -/
def sharedWithin : Nat → Text → Text → Nat
  | 0, _, _ => 0
  | depth + 1, s, t =>
    let block := longestBlock s t
    if block.size = 0 then 0
    else
      sharedWithin depth (s.take block.left) (t.take block.right) + block.size +
        sharedWithin depth (s.drop (block.left + block.size)) (t.drop (block.right + block.size))

/-- Number of characters that two texts share in order. Every cut shortens
the first text, so its length bounds the depth. -/
def shared (s t : Text) : Nat := sharedWithin s.length s t

/-- Do two texts resemble each other closely? -/
def isClose (s t : Text) : Bool := 3 * (s.length + t.length) ≤ 10 * shared s t

/-- Does `s` resemble `word` at least as well as `t` does? The resemblance
is shared characters over length; of equals the greater text goes first. -/
def resemblesMore (word s t : Text) : Bool :=
  let left := shared s word * (t.length + word.length)
  let right := shared t word * (s.length + word.length)
  right < left || (right = left && le t s)

/-- The at most three known words that resemble a word closely, best first. -/
def similar (known : List Text) (word : Text) : List Text :=
  ((known.filter fun k => isClose k word).mergeSort (resemblesMore word)).take 3

end GatherBoard.Text
