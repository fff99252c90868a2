import ConfirmedDelivery.Text.CaseIgnorable
import ConfirmedDelivery.Text.CodeRun
import ConfirmedDelivery.Text.Lowercase
import ConfirmedDelivery.Text.LowercaseForm
import ConfirmedDelivery.Text.Uppercase

/-!
# Lowercasing and trimming texts

A text is lowercased letter by letter, but for the capital sigma: at the end of a word, where a
cased letter stands before it and none after it, it takes its final form.
-/

namespace ConfirmedDelivery.Text

/-! ## Titlecase letters and blanks -/

/-- The characters of the Unicode category Lt: digraphs with a capital first part. -/
def titlecaseRuns : List CodeRun := [
  ⟨0x1C5, 0x1C5, 1⟩, ⟨0x1C8, 0x1C8, 1⟩, ⟨0x1CB, 0x1CB, 1⟩, ⟨0x1F2, 0x1F2, 1⟩, ⟨0x1F88, 0x1F8F, 1⟩,
  ⟨0x1F98, 0x1F9F, 1⟩, ⟨0x1FA8, 0x1FAF, 1⟩, ⟨0x1FBC, 0x1FBC, 1⟩, ⟨0x1FCC, 0x1FCC, 1⟩,
  ⟨0x1FFC, 0x1FFC, 1⟩]

/-- Whether a character is a titlecase letter. -/
def isTitlecase (c : Char) : Bool := CodeRun.mem c.toNat titlecaseRuns

/-- The characters with the Unicode property White_Space. -/
def blankRuns : List CodeRun := [
  ⟨0x9, 0xD, 1⟩, ⟨0x20, 0x20, 1⟩, ⟨0x85, 0x85, 1⟩, ⟨0xA0, 0xA0, 1⟩, ⟨0x1680, 0x1680, 1⟩,
  ⟨0x2000, 0x200A, 1⟩, ⟨0x2028, 0x2029, 1⟩, ⟨0x202F, 0x202F, 1⟩, ⟨0x205F, 0x205F, 1⟩,
  ⟨0x3000, 0x3000, 1⟩]

/-- Whether a character is blank. -/
def isBlank (c : Char) : Bool := CodeRun.mem c.toNat blankRuns

/-! ## Texts -/

/-- Whether a character has a case. -/
def isCased (c : Char) : Bool := isLowercase c || isUppercase c || isTitlecase c

/-- Whether the first character that counts is a cased letter. -/
def leadsCased (l : List Char) : Bool := (l.dropWhile isCaseIgnorable).head?.any isCased

/-- Lowercases a text that follows the characters `before`, the nearest of them first. -/
def lowerAfter (before : List Char) : List Char → List Char
  | [] => []
  | c :: rest =>
    if c = 'Σ' then
      (if leadsCased before && !leadsCased rest then 'ς' else 'σ') :: lowerAfter (c :: before) rest
    else lowercase c ++ lowerAfter (c :: before) rest

/-- The text in lowercase. -/
def toLower (s : String) : String := String.ofList (lowerAfter [] s.toList)

/-- The text without the blanks around it. -/
def trim (s : String) : String :=
  String.ofList ((s.toList.dropWhile isBlank).reverse.dropWhile isBlank).reverse

end ConfirmedDelivery.Text
