/-
  The few text operations that every part of the library shares: cutting a text to a number of
  characters, trimming blanks, making capitals small, and joining.

  Lengths count characters (Unicode scalar values), never bytes.
-/

namespace DriveAdvisory.Text

/-- The first `limit` characters of a text; the whole text when it has no more. -/
def cut (limit : Nat) (text : String) : String := String.ofList (text.toList.take limit)

/-- The length in characters. -/
def size (text : String) : Nat := text.toList.length

theorem toList_cut (limit : Nat) (text : String) :
    (cut limit text).toList = text.toList.take limit := String.toList_ofList

theorem size_cut_le (limit : Nat) (text : String) : size (cut limit text) ≤ limit := by
  rw [size, toList_cut]; exact List.length_take_le _ _

theorem cut_of_size_le {limit : Nat} {text : String} (h : size text ≤ limit) :
    cut limit text = text := by
  rw [cut, List.take_of_length_le h, String.ofList_toList]

/-! ## Blanks -/

/-- The characters with the `White_Space` property. -/
def isBlank (c : Char) : Bool :=
  let n := c.toNat
  (9 ≤ n && n ≤ 13) || n == 0x20 || n == 0x85 || n == 0xA0 || n == 0x1680
    || (0x2000 ≤ n && n ≤ 0x200A) || n == 0x2028 || n == 0x2029 || n == 0x202F || n == 0x205F
    || n == 0x3000

/-- The text without the blanks at its two ends. -/
def trim (text : String) : String :=
  String.ofList ((text.toList.dropWhile isBlank).reverse.dropWhile isBlank).reverse

/-- The text when something is left of it after trimming. -/
def nonBlank? (text : String) : Option String := if trim text = "" then none else some text

/-- The trimmed text when something is left of it. -/
def trimmed? (text : String) : Option String :=
  let inner := trim text
  if inner = "" then none else some inner

/-! ## Case -/

/-- The text with its ASCII capitals made small; other characters stay. -/
def lowerAscii (text : String) : String := String.ofList (text.toList.map Char.toLower)

/-! ## Parts -/

/-- `inner` stands somewhere in `outer`. -/
def occursIn (inner : List Char) : List Char → Bool
  | [] => inner.isEmpty
  | c :: rest => inner.isPrefixOf (c :: rest) || occursIn inner rest

/-- The text holds the other one. -/
def contains (outer inner : String) : Bool := occursIn inner.toList outer.toList

/-- The texts one after the other with `separator` between them. -/
def join (separator : String) : List String → String
  | [] => ""
  | [text] => text
  | text :: rest => text ++ separator ++ join separator rest

/-- What is left of `cs` after the front `start`, if it begins that way. -/
def dropFront? : (start cs : List Char) → Option (List Char)
  | [], cs => some cs
  | _ :: _, [] => none
  | s :: start, c :: cs => if s = c then dropFront? start cs else none

/-- The pieces between the occurrences of a character; at least one. -/
def splitAt (separator : Char) : List Char → List (List Char)
  | [] => [[]]
  | c :: rest =>
    if c = separator then [] :: splitAt separator rest
    else match splitAt separator rest with
      | [] => [[c]]
      | piece :: pieces => (c :: piece) :: pieces

/-- The pieces of a text between the occurrences of a character. -/
def split (separator : Char) (text : String) : List String :=
  (splitAt separator text.toList).map String.ofList

/-- The runs of characters that are no blanks; `current` is the one being read, backwards. -/
def wordsFrom (current : List Char) : List Char → List String
  | [] => if current.isEmpty then [] else [String.ofList current.reverse]
  | c :: rest =>
    if isBlank c then
      if current.isEmpty then wordsFrom [] rest
      else String.ofList current.reverse :: wordsFrom [] rest
    else wordsFrom (c :: current) rest

/-- The words of a text: what stands between blanks. -/
def words (text : String) : List String := wordsFrom [] text.toList

/-- `count` copies of a text. -/
def repeated : Nat → String → String
  | 0, _ => ""
  | count + 1, text => text ++ repeated count text

/-- A number with zeros in front of it up to the given width. -/
def padded (width n : Nat) : String :=
  let digits := toString n
  repeated (width - digits.length) "0" ++ digits

end DriveAdvisory.Text
