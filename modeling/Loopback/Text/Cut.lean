/-!
# Text folded, stripped and cut

Only the ASCII letters are folded; every other character stands for itself. A text is stripped of
the characters with the Unicode property `White_Space` at both ends. It is cut at the first mark, or
into the pieces between all marks.
-/

namespace Loopback.Text

/-- The text with its ASCII capitals made small. -/
def lowered (text : List Char) : List Char :=
  text.map Char.toLower

/-- Equal but for the case of ASCII letters. -/
def sameLetters (a b : List Char) : Bool :=
  lowered a == lowered b

/-- Texts are equal but for the case of letters just if they fold to the same. -/
theorem sameLetters_iff {a b : List Char} : sameLetters a b = true ↔ lowered a = lowered b := by
  simp [sameLetters]

/-- A character with the property `White_Space`. -/
def isBlank (c : Char) : Bool :=
  let n := c.toNat
  (9 ≤ n && n ≤ 13) || n == 0x20 || n == 0x85 || n == 0xa0 || n == 0x1680 ||
    (0x2000 ≤ n && n ≤ 0x200a) || n == 0x2028 || n == 0x2029 || n == 0x202f || n == 0x205f ||
    n == 0x3000

/-- The text without its leading and trailing blanks. -/
def trim (text : List Char) : List Char :=
  ((text.dropWhile isBlank).reverse.dropWhile isBlank).reverse

example : trim " \t7\u3000".toList = ['7'] := by decide

/-- The text before the first `mark`, and the text after it where there is one. -/
def cut (mark : Char) : List Char → List Char × Option (List Char)
  | [] => ([], none)
  | c :: rest =>
    if c = mark then ([], some rest)
    else
      let (before, after) := cut mark rest
      (c :: before, after)

/-- The pieces between marks, empty ones included: one more than there are marks. -/
def pieces (mark : Char) : List Char → List (List Char)
  | [] => [[]]
  | c :: rest =>
    if c = mark then [] :: pieces mark rest
    else
      match pieces mark rest with
      | [] => [[c]]
      | piece :: others => (c :: piece) :: others

/-- Without a mark nothing is cut off. -/
theorem cut_of_notMem {mark : Char} : {text : List Char} → mark ∉ text → cut mark text = (text, none)
  | [], _ => rfl
  | c :: rest, h => by
    have hc : c ≠ mark := fun hc => h (hc ▸ List.mem_cons_self)
    have hrest : mark ∉ rest := fun hm => h (List.mem_cons_of_mem _ hm)
    simp [cut, hc, cut_of_notMem hrest]

/-- A cut falls at the first mark, whatever follows it. -/
theorem cut_append {mark : Char} : {before : List Char} → mark ∉ before → (after : List Char) →
    cut mark (before ++ mark :: after) = (before, some after)
  | [], _, _ => by simp [cut]
  | c :: rest, h, after => by
    have hc : c ≠ mark := fun hc => h (hc ▸ List.mem_cons_self)
    have hrest : mark ∉ rest := fun hm => h (List.mem_cons_of_mem _ hm)
    simp [cut, hc, cut_append hrest after]

end Loopback.Text
